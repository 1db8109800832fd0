import Sidecar.Cli.Command
import Sidecar.Config.Load
import Sidecar.Rehearsal.Stage

/-!
# What the commands do

`Command.validation` is the log of checking a configuration; `Command.service` is the whole life
of a serving program as one activity, and `Command.rehearse` plays it on a stage up to the request
to end.
-/

namespace Sidecar

/-- How much a log line matters. -/
inductive LogLevel where
  | error
  | warn
  | info
  | debug
  | trace
  deriving DecidableEq, Repr

namespace LogLevel

/-- The name of a level. -/
def name : LogLevel → String
  | error => "ERROR"
  | warn => "WARN"
  | info => "INFO"
  | debug => "DEBUG"
  | trace => "TRACE"

/-- The place of a level, the most important first. -/
def rank : LogLevel → Nat
  | error => 0
  | warn => 1
  | info => 2
  | debug => 3
  | trace => 4

/-- The level of a name in any case; other texts mean `info`. -/
def ofText (s : String) : LogLevel :=
  match ([error, warn, debug, trace].find? fun l => l.name = s.toUpper) with
  | some l => l
  | none => info

/-- Whether lines of a level are written when the log shows another. -/
def isShown (l shown : LogLevel) : Bool := l.rank ≤ shown.rank

end LogLevel

/-- A line of the log. -/
structure LogLine where
  level : LogLevel
  text : String
  deriving DecidableEq, Repr

/-- A line as it is written, without the time. -/
def LogLine.render (l : LogLine) : String := l.level.name ++ " " ++ l.text

namespace Command

/-- What a command ends with. -/
structure Outcome where
  exit : Nat
  /-- What it has written. -/
  output : String
  deriving DecidableEq, Repr

/-- The status for wrong arguments. -/
def misuse : Nat := 2

/-- The lines on the version. -/
def versionText : String :=
  "\n".intercalate [program, "Version: " ++ Host.version, "Rust version: 1.80"]

/-- The configuration of a text that can be read, before it is checked. -/
def readable? (path : String) (bytes : Option ByteArray) (env : Environment) :
    Except Config.Error Config := do
  let text ← Config.fileText bytes
  let format ← Config.Format.ofPath path
  Config.ofText format env text

/-- The remark on a configuration without plugins, which is made before the host's settings are
checked. -/
def remarks (path : String) (bytes : Option ByteArray) (env : Environment) : List LogLine :=
  match readable? path bytes env with
  | .ok c => if c.plugins.isEmpty then [⟨.warn, "No plugins configured"⟩] else []
  | .error _ => []

/-- The lines on a valid configuration. -/
def summary (c : Config) : List LogLine :=
  [⟨.info, "✓ Configuration is valid"⟩, ⟨.info, "  Plugins: " ++ toString c.plugins.length⟩] ++
  c.plugins.map (fun d =>
    ⟨.info, "    - " ++ d.name ++ " (bootOrder " ++ toString d.bootOrder ++ ")"⟩) ++
  [⟨.info, "  Restart policy: " ++ c.restartPolicy.name⟩,
    ⟨.info, "  Start order: " ++ c.startOrder.name⟩]

/-- Check the configuration of a file: whether it is valid, and the log. -/
def validation (path : String) (bytes : Option ByteArray) (env : Environment) :
    Bool × List LogLine :=
  let opening := ⟨.info, "Validating configuration: " ++ path⟩ :: remarks path bytes env
  match Config.load path bytes env with
  | .ok c => (true, opening ++ summary c)
  | .error e => (false, opening ++ [⟨.error, "✗ Configuration validation failed: " ++ e.message⟩])

/-- The outcome of a command that ends by itself. -/
def outcome (read : String → Option ByteArray) (env : Environment) : Command → Outcome
  | .version => { exit := 0, output := versionText }
  | .show text => { exit := 0, output := text }
  | .validate path =>
    let (valid, log) := validation path (read path) env
    { exit := if valid then 0 else 1, output := "\n".intercalate (log.map LogLine.render) }
  | .serve .. => { exit := 1, output := "" }

/-! ### Serving -/

/-- Serve: register the probe plugin, run the host until it fails or is asked to end, stop the
plugins and shut down. -/
def service (config : Config) (probe : PluginId) : Hosting (Except HostError Unit) := do
  match ← Host.addPlugin config Probe.pluginName probe with
  | .error why => return .error why
  | .ok () =>
    Hosting.ask (.spawn (.heed .root))
    let result ← Host.run config.host
    let _ ← Host.stopAll config.host
    Host.shutDown config.host
    return result

/-- What the storages of a serving program are given. -/
def storageContext (config : Config) (env : Environment) : StorageContext :=
  { env
    pod := match PodName.ofEnvironment env with
      | .ok pod => some pod
      | .error _ => none
    listen := some config.host.metricsListen
    backoff := .default }

/-- A stage to serve on, with the number of the probe plugin. -/
def stage (config : Config) (env : Environment) (taken : List Address) : PluginId × Rehearsal.Stage :=
  (Rehearsal.Stage.new config (storageContext config env) .empty taken).cast (.probe .new)

/-- What serving up to the request to end comes to. -/
structure Service where
  exit : Nat
  /-- Whether the log says that the host has started. -/
  started : Bool
  /-- Whether the last line of the log says that the program has stopped. -/
  stopped : Bool
  deriving DecidableEq, Repr

/-- A program that could not begin to serve. -/
def Service.failed : Service := { exit := 1, started := false, stopped := false }

/-- Serve on a stage on which nobody but the taken addresses serves, until asked to end. -/
def rehearse (path level : String) (bytes : Option ByteArray) (env : Environment)
    (taken : List Address) : Service :=
  let shown := LogLevel.isShown .info (.ofText level)
  match Config.load path bytes env with
  | .error _ => .failed
  | .ok config =>
    let (probe, stage) := stage config env taken
    match { stage with interrupted := true }.operate (service config probe) with
    | some (.ok (), _) => { exit := 0, started := shown, stopped := shown }
    | some (.error (.pluginFailed ..), _) => { exit := 1, started := shown, stopped := false }
    | _ => .failed

end Command

end Sidecar
