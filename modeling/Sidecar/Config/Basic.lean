import Sidecar.Json.Reader
import Sidecar.Net.Address
import Sidecar.Node
import Sidecar.Text.Basic
import Sidecar.Time.Span

/-!
# Sidecar configurations

What a sidecar host is configured with: its plugins in the order of the document, some advisory
settings, and the settings of the host itself.

Each type has its reading from a tree (`ofNode?`) and its writing as a value (`toValue`) side by
side.  The plugins may be written as a list of descriptors, or as a table from names to
descriptors (`Config.pluginsOfNode?`).

A plugin declares the type of its own configuration as a `Binding`.  `Binding.bind` reads a free
value into that type: the value has to be an object, the type one that records can be read into,
and the object then of the right shape.
-/

namespace Sidecar

/-- The declaration of one plugin. -/
structure PluginDescriptor where
  /-- Its name, unique within a valid configuration. -/
  name : String
  /-- Plugins start in ascending boot order. -/
  bootOrder : Int
  /-- The plugin's own configuration. -/
  config : Value
  deriving Inhabited

namespace PluginDescriptor

/-- The least boot order. -/
def minBootOrder : Int := -Int.pow 2 31

/-- The greatest boot order. -/
def maxBootOrder : Int := Int.pow 2 31 - 1

/-- A plugin's own configuration; null stands for an empty one. -/
def configOfNode? (n : Node) : Option Value := do
  match ← n.toValue? with
  | .null => return .object []
  | v => return v

/-- The reading of a descriptor. -/
def ofNode? (n : Node) : Option PluginDescriptor := do
  let r ← n.record? ["name", "bootOrder", "config"] []
  let name ← r.defaulting "name" Node.text? ""
  let bootOrder ← r.defaulting "bootOrder" (Node.intIn? minBootOrder maxBootOrder) 0
  let config ← r.defaulting "config" configOfNode? (.object [])
  return { name, bootOrder, config }

/-- A descriptor as a value. -/
def toValue (d : PluginDescriptor) : Value :=
  Value.ofPairs [("name", .text d.name), ("bootOrder", .int d.bootOrder), ("config", d.config)]

end PluginDescriptor

/-- When the sidecar is restarted; advice to others, the host does not look at it. -/
inductive RestartPolicy where
  | always
  | onFailure
  | never
  deriving DecidableEq, Repr, Inhabited

namespace RestartPolicy

/-- The name of a policy. -/
def name : RestartPolicy → String
  | .always => "Always"
  | .onFailure => "OnFailure"
  | .never => "Never"

/-- A policy by its name; the empty name is the default. -/
def ofName? (s : String) : Option RestartPolicy :=
  if s = "" ∨ s = "Always" then some .always
  else if s = "OnFailure" then some .onFailure
  else if s = "Never" then some .never
  else none

/-- What is said of a name that is no policy. -/
def unknown (s : String) : String :=
  "unknown restart policy '" ++ s ++ "' (expected Always, OnFailure or Never)"

end RestartPolicy

/-- Whether the sidecar starts before or after the main container. -/
inductive StartOrder where
  | before
  | after
  deriving DecidableEq, Repr, Inhabited

namespace StartOrder

/-- The name of an order. -/
def name : StartOrder → String
  | .before => "Before"
  | .after => "After"

/-- A text with its ASCII letters in lower case. -/
def lowered (s : String) : String := String.ofList (s.toList.map Char.toLower)

/-- An order by its name in any ASCII case; the empty name is the default. -/
def ofName? (s : String) : Option StartOrder :=
  if lowered s = "before" then some .before
  else if lowered s = "" ∨ lowered s = "after" then some .after
  else none

/-- What is said of a name that is no order. -/
def unknown (s : String) : String :=
  "unknown sidecar start order '" ++ s ++ "' (expected Before or After)"

end StartOrder

/-- The web server that answers liveness requests. -/
structure WebServer where
  /-- Whether it runs. -/
  enabled : Bool
  /-- Where it listens. -/
  listen : Address
  deriving DecidableEq, Inhabited

namespace WebServer

/-- The default: off. -/
def default : WebServer := { enabled := false, listen := .v4 0 0 0 0 8080 }

/-- The parts of a document that are looked at. -/
def shape : Shape := .record [("enabled", .flag), ("listen", .text)]

/-- The reading of an address. -/
def address? (n : Node) : Option Address := n.text?.bind Address.parse

/-- The reading of web server settings. -/
def ofNode? (n : Node) : Option WebServer := do
  let r ← n.record? ["enabled", "listen"] []
  let enabled ← r.defaulting "enabled" Node.bool? default.enabled
  let listen ← r.defaulting "listen" address? default.listen
  return { enabled, listen }

/-- Web server settings as a value. -/
def toValue (w : WebServer) : Value :=
  Value.ofPairs [("enabled", .bool w.enabled), ("listen", .text w.listen.render)]

end WebServer

/-- The settings of the host. -/
structure HostSettings where
  /-- The time between two status polls of one plugin. -/
  pollInterval : Span
  /-- The time by which each further plugin's polling starts later. -/
  pollStagger : Span
  /-- How long a stop may take. -/
  stopTimeout : Span
  webServer : WebServer
  /-- Where metrics are served. -/
  metricsListen : Address
  deriving DecidableEq, Inhabited

namespace HostSettings

/-- The defaults. -/
def default : HostSettings :=
  { pollInterval := .ofSeconds 5
    pollStagger := .ofSeconds 1
    stopTimeout := .ofSeconds 20
    webServer := .default
    metricsListen := .v4 0 0 0 0 8081 }

/-- The parts of a document that are looked at. -/
def shape : Shape :=
  .record [("pollInterval", .text), ("pollStagger", .text), ("stopTimeout", .text),
    ("webServer", WebServer.shape), ("metricsListen", .text)]

/-- The reading of a span. -/
def span? (n : Node) : Option Span := n.text?.bind Span.parse

/-- The reading of host settings. -/
def ofNode? (n : Node) : Option HostSettings := do
  let r ← n.record? ["pollInterval", "pollStagger", "stopTimeout", "webServer", "metricsListen"] []
  let pollInterval ← r.defaulting "pollInterval" span? default.pollInterval
  let pollStagger ← r.defaulting "pollStagger" span? default.pollStagger
  let stopTimeout ← r.defaulting "stopTimeout" span? default.stopTimeout
  let webServer ← r.defaulting "webServer" WebServer.ofNode? default.webServer
  let metricsListen ← r.defaulting "metricsListen" WebServer.address? default.metricsListen
  return { pollInterval, pollStagger, stopTimeout, webServer, metricsListen }

/-- Host settings as a value. -/
def toValue (h : HostSettings) : Value :=
  Value.ofPairs [
    ("pollInterval", .text h.pollInterval.render),
    ("pollStagger", .text h.pollStagger.render),
    ("stopTimeout", .text h.stopTimeout.render),
    ("webServer", h.webServer.toValue),
    ("metricsListen", .text h.metricsListen.render)]

end HostSettings

/-- A sidecar configuration. -/
structure Config where
  /-- The plugins in the order of the document. -/
  plugins : List PluginDescriptor
  restartPolicy : RestartPolicy
  /-- Hints on the resources of the container, sorted by name. -/
  resources : List (String × String)
  startOrder : StartOrder
  host : HostSettings
  deriving Inhabited

namespace Config

/-- The parts of a document that are looked at. -/
def shape : Shape :=
  .record [("plugins", .any), ("restartPolicy", .text), ("resources", .texts),
    ("sidecarStartOrder", .text), ("host", HostSettings.shape)]

/-- The plugins, as a list or as a table by name.  A descriptor in a table that has no name of
its own takes that of its key. -/
def pluginsOfNode? : Node → Option (List PluginDescriptor)
  | .null => some []
  | .list ns => ns.mapM PluginDescriptor.ofNode?
  | n => do
    let ds ← n.table? PluginDescriptor.ofNode?
    return ds.map fun (key, d) => if d.name = "" then { d with name := key } else d

/-- The reading of a configuration. -/
def ofNode? (n : Node) : Option Config := do
  let r ← n.record? ["plugins", "restartPolicy", "resources", "sidecarStartOrder", "host"] []
  let plugins ← r.defaulting "plugins" pluginsOfNode? []
  let restartPolicy ←
    r.defaulting "restartPolicy" (fun n => n.text?.bind RestartPolicy.ofName?) .always
  let resources ← r.defaulting "resources" (Node.table? Node.text?) []
  let startOrder ←
    r.defaulting "sidecarStartOrder" (fun n => n.text?.bind StartOrder.ofName?) .after
  let host ← r.defaulting "host" HostSettings.ofNode? HostSettings.default
  return { plugins, restartPolicy, resources, startOrder, host }

/-- A configuration as a value. -/
def toValue (c : Config) : Value :=
  Value.ofPairs [
    ("plugins", .list (c.plugins.map PluginDescriptor.toValue)),
    ("restartPolicy", .text c.restartPolicy.name),
    ("resources", Value.ofTexts c.resources),
    ("sidecarStartOrder", .text c.startOrder.name),
    ("host", c.host.toValue)]

/-- The names of the plugins in the order of the document. -/
def pluginNames (c : Config) : List String := c.plugins.map PluginDescriptor.name

/-- The first plugin of a name. -/
def plugin? (c : Config) (name : String) : Option PluginDescriptor :=
  c.plugins.find? fun d => d.name = name

end Config

/-! ### Binding -/

/-- Why a free value cannot be bound. -/
inductive BindError where
  /-- The value is no object but of this kind. -/
  | notMapping (kind : String)
  /-- The type is a scalar or a sequence. -/
  | notRecord
  /-- The object is not of the shape that the type asks for. -/
  | malformed
  deriving DecidableEq, Repr, Inhabited

/-- The error in words. -/
def BindError.message : BindError → String
  | .notMapping kind => "config source must be a mapping, got " ++ kind
  | .notRecord => "config target must be a structured record, got " ++ foreign
  | .malformed => "failed to decode config: " ++ foreign

/-- How a type is read from configurations. -/
structure Binding (α : Type) where
  /-- Whether records can be read into the type at all. -/
  structured : Bool
  /-- The reading itself. -/
  read : Node → Option α

namespace Binding

/-- A type that records are read into. -/
def ofRecord (read : Node → Option α) : Binding α := { structured := true, read }

/-- Read a free value. -/
def bind (b : Binding α) (source : Value) : Except BindError α :=
  if !source.isObject then .error (.notMapping source.kind)
  else if !b.structured then .error .notRecord
  else
    match b.read (Node.ofValue source) with
    | some a => .ok a
    | none => .error .malformed

end Binding

end Sidecar
