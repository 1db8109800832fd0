import Sidecar.Config.Basic
import Sidecar.Config.Environment
import Sidecar.Json.Pointer
import Sidecar.Json.Reader
import Sidecar.Text.Basic
import Sidecar.Toml.Reader
import Sidecar.Yaml.Reader

/-!
# Loading configurations

`Config.ofText` reads a configuration from a text after replacing the variables it mentions;
`Config.load` does so for a file, and checks that the result is valid.  Each error is a cause;
`Config.Error.message` puts it into words.
-/

namespace Sidecar.Config

/-- A document format. -/
inductive Format where
  | yaml
  | toml
  | json
  deriving DecidableEq, Repr, Inhabited

/-- The name of a format. -/
def Format.name : Format → String
  | .yaml => "YAML"
  | .toml => "TOML"
  | .json => "JSON"

/-- Why a configuration is invalid. -/
inductive Invalid where
  | emptyPluginName
  | duplicatePlugin (name : String)
  | configNotMapping (name : String)
  | zeroPollInterval
  | addressCollision (address : Address)
  deriving DecidableEq

/-- The reason in words. -/
def Invalid.reason : Invalid → String
  | .emptyPluginName => "plugin name cannot be empty"
  | .duplicatePlugin name => "Duplicate plugin name: " ++ name
  | .configNotMapping name => "Plugin " ++ name ++ " config must be a mapping"
  | .zeroPollInterval => "host pollInterval must be > 0"
  | .addressCollision a =>
    "webServer listen address " ++ a.render ++ " collides with metricsListen"

/-- Why a configuration cannot be had. -/
inductive Error where
  /-- The file cannot be read, or is no text. -/
  | unreadable
  /-- The text is no document of its format, or not of the right shape. -/
  | malformed (format : Format)
  /-- The format is not known: the file's extension, or its path if it has none. -/
  | unsupportedFormat (what : String)
  /-- A variable is mentioned that is neither set nor given a default. -/
  | missingVariable (name : String)
  | invalid (why : Invalid)
  deriving DecidableEq

/-- The error in words. -/
def Error.message : Error → String
  | .unreadable => "Failed to read config file: " ++ foreign
  | .malformed f => "Failed to parse " ++ f.name ++ ": " ++ foreign
  | .unsupportedFormat what => "Unsupported config format: " ++ what
  | .missingVariable name =>
    "Environment variable '" ++ name ++ "' not set and no default provided"
  | .invalid why => "Invalid configuration: " ++ why.reason

/-! ### File names -/

/-- The parts of a path between slashes that count: neither empty nor a single dot, except that
a dot at the very start counts. -/
def pathParts (path : String) : List String :=
  match (Pointer.splitChars '/' path.toList).map String.ofList with
  | [] => []
  | first :: rest =>
    (if first = "" then [] else [first]) ++ rest.filter fun p => p != "" && p != "."

/-- The last name of a path, if it is one. -/
def fileName? (path : String) : Option String :=
  match (pathParts path).getLast? with
  | some n => if n = ".." ∨ n = "." then none else some n
  | none => none

/-- What follows the last dot of a file name that does not begin with that dot. -/
def extension? (path : String) : Option String := do
  let name ← fileName? path
  let after := (name.toList.reverse.takeWhile (· != '.')).reverse
  let before := name.toList.length - after.length
  if before ≤ 1 then none else some (String.ofList after)

/-- The format of a file by its extension. -/
def Format.ofPath (path : String) : Except Error Format :=
  match extension? path with
  | some "yaml" => .ok .yaml
  | some "yml" => .ok .yaml
  | some "toml" => .ok .toml
  | some "json" => .ok .json
  | some other => .error (.unsupportedFormat other)
  | none => .error (.unsupportedFormat path)

/-! ### Validity -/

/-- The first thing wrong with a list of plugins, given the names before them. -/
def firstInvalidPlugin : (before : List String) → List PluginDescriptor → Option Invalid
  | _, [] => none
  | before, d :: ds =>
    if d.name = "" then some .emptyPluginName
    else if before.contains d.name then some (.duplicatePlugin d.name)
    else if !d.config.isObject then some (.configNotMapping d.name)
    else firstInvalidPlugin (d.name :: before) ds

/-- What is wrong with host settings. -/
def invalidHost (h : HostSettings) : Option Invalid :=
  if h.pollInterval.nanos = 0 then some .zeroPollInterval
  else if h.webServer.enabled ∧ h.webServer.listen = h.metricsListen then
    some (.addressCollision h.webServer.listen)
  else none

/-- Accept a configuration whose plugins and host settings are sound; plugins are looked at
first, in their order. -/
def validate (c : Config) : Except Error Unit :=
  match (firstInvalidPlugin [] c.plugins).or (invalidHost c.host) with
  | some why => .error (.invalid why)
  | none => .ok ()

/-! ### Loading -/

/-- Read a document of a format, of which `shape` is looked at. -/
def Format.read : Format → Shape → String → Option Node
  | .yaml => Yaml.read
  | .toml => Toml.read
  | .json => Json.read

/-- The configuration of a text. -/
def ofText (format : Format) (env : Environment) (text : String) : Except Error Config :=
  match env.expand text with
  | .error name => .error (.missingVariable name)
  | .ok text =>
    match (format.read shape text).bind ofNode? with
    | some c => .ok c
    | none => .error (.malformed format)

/-- The text of a file's bytes. -/
def fileText (bytes : Option ByteArray) : Except Error String :=
  match bytes.bind String.fromUTF8? with
  | some s => .ok s
  | none => .error .unreadable

/-- The valid configuration of a file, given its path and its bytes if it could be read. -/
def load (path : String) (bytes : Option ByteArray) (env : Environment) : Except Error Config := do
  let text ← fileText bytes
  let format ← Format.ofPath path
  let c ← ofText format env text
  validate c
  return c

end Sidecar.Config
