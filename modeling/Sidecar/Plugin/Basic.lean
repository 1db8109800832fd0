import Sidecar.Config.Basic
import Sidecar.Scope
import Sidecar.Storage.Error
import Sidecar.Time.Instant

/-!
# Plugins as the host sees them

* `PluginError` is what a plugin fails with; `Lifecycle` is what the host knows of a plugin's state.
* A running plugin has a `PluginContext`: its name and the scope that it runs in.  What goes wrong
  meanwhile it reports to `Failures`, from which the host takes the oldest first as long as it
  listens.
* `PluginStatus` is what a plugin reports about itself when it is asked; `PluginReport` is a report
  with the time at which it was made.
-/

namespace Sidecar

/-- Why a plugin fails. -/
inductive PluginError where
  /-- The configuration is not of the type that the plugin declares. -/
  | bind (why : BindError)
  | init (why : String)
  | config (why : String)
  | runtime (why : String)
  | invalidState (why : String)
  | storage (why : StorageError)
  deriving DecidableEq, Repr

/-- The error in words. -/
def PluginError.message : PluginError → String
  | .bind why => "Config binding failed: " ++ why.message
  | .init why => "Initialization failed: " ++ why
  | .config why => "Configuration error: " ++ why
  | .runtime why => "Runtime error: " ++ why
  | .invalidState why => "Invalid state: " ++ why
  | .storage why => "Storage error: " ++ why.message

/-- The error in more words, where there are more. -/
def PluginError.details : PluginError → String
  | .storage why => "Storage error: " ++ why.details
  | e => e.message

/-- The state of a plugin's life. -/
inductive Lifecycle where
  /-- Configured, not yet started. -/
  | bound
  | running
  | stopped
  /-- Its main loop ended with an error. -/
  | failed (why : String)
  deriving DecidableEq, Repr, Inhabited

namespace Lifecycle

/-- The state in words. -/
def render : Lifecycle → String
  | .bound => "bound"
  | .running => "running"
  | .stopped => "stopped"
  | .failed why => "failed: " ++ why

/-- Whether the plugin runs. -/
def isRunning : Lifecycle → Bool
  | .running => true
  | _ => false

/-- Whether the plugin was stopped. -/
def isStopped : Lifecycle → Bool
  | .stopped => true
  | _ => false

/-- Whether the plugin failed. -/
def isFailed : Lifecycle → Bool
  | .failed _ => true
  | _ => false

end Lifecycle

/-! ### Failures of running plugins -/

/-- An error that a plugin raised while it ran. -/
structure Failure where
  plugin : String
  why : PluginError
  deriving DecidableEq, Repr

/-- The failures that nobody has taken. -/
structure Failures where
  /-- The failures, the oldest first. -/
  waiting : List Failure
  /-- Whether there still is someone to take them. -/
  listening : Bool
  deriving DecidableEq, Repr

namespace Failures

/-- Nothing reported. -/
def empty : Failures := { waiting := [], listening := true }

/-- Report a failure; the first result is whether anyone listens. -/
def report (q : Failures) (f : Failure) : Bool × Failures :=
  if q.listening then (true, { q with waiting := q.waiting ++ [f] }) else (false, q)

/-- Take the oldest failure. -/
def take (q : Failures) : Option Failure × Failures :=
  (q.waiting.head?, { q with waiting := q.waiting.tail })

/-- Stop listening; what has not been taken is lost. -/
def close (_ : Failures) : Failures := { waiting := [], listening := false }

end Failures

/-- What a running plugin is given. -/
structure PluginContext where
  /-- The name of the plugin. -/
  plugin : String
  /-- Cancelled when the plugin has to stop. -/
  scope : Scope
  deriving DecidableEq, Repr

namespace PluginContext

/-- Report an error under the plugin's name. -/
def report (c : PluginContext) (why : PluginError) (q : Failures) : Bool × Failures :=
  q.report { plugin := c.plugin, why }

/-- Whether the plugin has to stop. -/
def isCancelled (c : PluginContext) (t : Scopes) : Bool := t.isCancelled c.scope

end PluginContext

/-! ### Status -/

/-- What a plugin says about itself. -/
structure PluginStatus where
  name : String
  version : String
  /-- Whether its main loop runs. -/
  running : Bool
  /-- A word on its health. -/
  health : String
  /-- Further lines for people. -/
  infos : List String
  deriving DecidableEq, Repr, Inhabited

namespace PluginStatus

/-- A status that says nothing yet. -/
def new (name version : String) : PluginStatus :=
  { name, version, running := false, health := "", infos := [] }

/-- Add a line. -/
def addInfo (s : PluginStatus) (line : String) : PluginStatus := { s with infos := s.infos ++ [line] }

/-- The fields of a status as members. -/
def toMembers (s : PluginStatus) : List (String × Value) :=
  [("name", .text s.name), ("version", .text s.version), ("running", .bool s.running),
    ("health", .text s.health), ("infos", .list (s.infos.map .text))]

end PluginStatus

/-- A status with the time it was made. -/
structure PluginReport where
  status : PluginStatus
  checked : Instant
  deriving DecidableEq, Repr, Inhabited

namespace PluginReport

/-- The reading of a report. -/
def ofNode? (n : Node) : Option PluginReport := do
  let r ← n.record? ["name", "version", "running", "lastChecked", "health", "infos"] []
  let name ← r.required "name" Node.text?
  let version ← r.required "version" Node.text?
  let running ← r.required "running" Node.bool?
  let checked ← r.required "lastChecked" fun n => n.text?.bind Instant.parse
  let health ← r.defaulting "health" Node.text? ""
  let infos ← r.defaulting "infos" (Node.list? Node.text?) []
  return { status := { name, version, running, health, infos }, checked }

/-- A report as a value. -/
def toValue (r : PluginReport) : Value :=
  Value.ofPairs (("lastChecked", .text r.checked.render) :: r.status.toMembers)

/-- Reports are read from configurations. -/
def binding : Binding PluginReport := .ofRecord ofNode?

end PluginReport

end Sidecar
