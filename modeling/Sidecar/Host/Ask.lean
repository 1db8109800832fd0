import Sidecar.Activity
import Sidecar.Config.Load
import Sidecar.Host.Registry
import Sidecar.Net.Address
import Sidecar.Plugin.Basic
import Sidecar.Scope
import Sidecar.Time.Span

/-!
# What the host asks

The operations of the host are activities (`Hosting`).  Their questions are of two kinds:

* about the host's own records, which are answered at once, each as one step (`Host.answer?`);
* to the surroundings: calls of plugins, which may take time, new tasks, the clock.

Whatever happens between two questions of one activity is up to the others.  `HostError` is what an
operation fails with; `message` puts it into words.
-/

namespace Sidecar

/-- Why an operation of the host fails. -/
inductive HostError where
  /-- A plugin without a name. -/
  | emptyName
  | configBind (plugin : String) (why : PluginError)
  | pluginInit (plugin : String) (why : PluginError)
  | pluginNotFound (plugin : String)
  | statusUnavailable (plugin : String) (why : PluginError)
  | pluginStop (plugin : String) (why : PluginError)
  /-- The plugins that could not be stopped, each with the reason, in the order of the attempts. -/
  | stopAll (failures : List (String × PluginError))
  | pluginFailed (plugin : String) (why : PluginError)
  /-- The web server cannot be set up. -/
  | server
  | config (why : Config.Error)
  deriving DecidableEq

namespace HostError

/-- Words about a plugin that could not be stopped. -/
def stopMessage (plugin : String) (why : PluginError) : String :=
  "Failed to stop plugin " ++ plugin ++ ": " ++ why.message

/-- The error in words. -/
def message : HostError → String
  | .emptyName => "Plugin name must not be empty"
  | .configBind plugin why => "Failed to bind config for plugin " ++ plugin ++ ": " ++ why.message
  | .pluginInit plugin why => "Failed to initialize plugin " ++ plugin ++ ": " ++ why.message
  | .pluginNotFound plugin => "Plugin not found: " ++ plugin
  | .statusUnavailable plugin why =>
    "Status unavailable for plugin " ++ plugin ++ ": " ++ why.message
  | .pluginStop plugin why => stopMessage plugin why
  | .stopAll failures =>
    "Failed to stop " ++ toString failures.length ++ " plugin(s): " ++
      "; ".intercalate (failures.map fun (plugin, why) => stopMessage plugin why)
  | .pluginFailed plugin why => "Plugin " ++ plugin ++ " failed: " ++ why.message
  | .server => "Server error: " ++ foreign
  | .config why => "Configuration error: " ++ why.message

/-- The plugin that an error is about. -/
def plugin? : HostError → Option String
  | .configBind p _ | .pluginInit p _ | .pluginNotFound p | .statusUnavailable p _
  | .pluginStop p _ | .pluginFailed p _ => some p
  | .emptyName | .stopAll _ | .server | .config _ => none

/-- The error for a plugin that could not be added. -/
def ofAddition (plugin : String) (why : PluginError) : HostError :=
  match why with
  | .bind _ => .configBind plugin why
  | _ => .pluginInit plugin why

end HostError

/-! ### Questions -/

/-- A task that the host starts. -/
inductive HostTask where
  /-- Run a plugin instance. -/
  | run (name : String) (plugin : PluginId) (scope : Scope)
  /-- Begin to poll an instance after a delay. -/
  | pollAfter (delay interval : Span) (name : String) (plugin : PluginId) (scope : Scope)
  /-- Poll an instance at a time and from then on at intervals. -/
  | poll (time : Nat) (interval : Span) (name : String) (plugin : PluginId) (scope : Scope)
  /-- Serve the liveness endpoint at an address. -/
  | serve (address : Address)
  /-- Cancel a scope when the program is asked to end. -/
  | heed (scope : Scope)
  deriving DecidableEq, Repr

/-- The questions of the host. -/
inductive HostAsk where
  /-- The registered names in the order of starts. -/
  | names
  /-- The entry of a name. -/
  | lookup (name : String)
  /-- Register an instance. -/
  | insert (name : String) (plugin : PluginId) (bootOrder : Int)
  /-- Take out the entry of a name. -/
  | remove (name : String)
  /-- Begin a run. -/
  | beginRun (name : String)
  /-- Record that a run has ended. -/
  | endRun (name : String) (plugin : PluginId) (state : Lifecycle)
  /-- Record that an instance was stopped. -/
  | markStopped (name : String) (plugin : PluginId)
  /-- The status that a plugin last gave. -/
  | cachedStatus (name : String)
  /-- Record the status that an instance gave. -/
  | storeStatus (name : String) (plugin : PluginId) (status : PluginStatus)
  /-- Report an error of a running plugin; the answer is whether anyone listens. -/
  | report (context : PluginContext) (why : PluginError)
  /-- Become the one who takes failures; only one at a time does. -/
  | beginTaking
  /-- Take the oldest failure. -/
  | takeFailure
  /-- Let another take failures. -/
  | endTaking
  /-- Cancel a scope. -/
  | cancel (scope : Scope)
  /-- Bind a free configuration to the type that an instance declares. -/
  | bind (plugin : PluginId) (config : Value)
  /-- Initialize an instance with what a free configuration was bound to. -/
  | init (plugin : PluginId) (config : Value)
  /-- Run an instance's main loop. -/
  | start (plugin : PluginId) (scope : Scope)
  /-- Stop an instance; there is no result when that takes longer than the limit. -/
  | stop (plugin : PluginId) (limit : Span)
  /-- Ask an instance for its status. -/
  | status (plugin : PluginId)
  /-- Start a task. -/
  | spawn (task : HostTask)
  /-- Begin to listen at an address; the answer is whether that is possible. -/
  | listen (address : Address)
  /-- The time at which a span that begins now is over. -/
  | timer (span : Span)
  /-- Wait for the first of some signals. -/
  | await (signals : List Signal)

/-- The answers to them. -/
def HostAsk.Reply : HostAsk → Type
  | .names => List String
  | .lookup _ => Option Entry
  | .insert .. => Unit
  | .remove _ => Unit
  | .beginRun _ => Option (PluginId × Scope)
  | .endRun .. => Unit
  | .markStopped .. => Unit
  | .cachedStatus _ => Option PluginStatus
  | .storeStatus .. => Unit
  | .report .. => Bool
  | .beginTaking => Unit
  | .takeFailure => Option Failure
  | .endTaking => Unit
  | .cancel _ => Unit
  | .bind .. => Except BindError Unit
  | .init .. => Except PluginError Unit
  | .start .. => Except PluginError Unit
  | .stop .. => Option (Except PluginError Unit)
  | .status _ => Except PluginError PluginStatus
  | .spawn _ => Unit
  | .listen _ => Bool
  | .timer _ => Nat
  | .await _ => Signal

/-- What the host asks. -/
abbrev HostI : Interface := ⟨HostAsk, HostAsk.Reply⟩

/-- An activity of the host. -/
abbrev Hosting := Activity HostI

/-- Ask a question. -/
def Hosting.ask (q : HostAsk) : Hosting q.Reply := Activity.query (I := HostI) q

/-- The records of the host. -/
structure Host where
  registry : Registry
  failures : Failures
  /-- Whether someone is taking failures. -/
  taking : Bool
  deriving DecidableEq

namespace Host

/-- A host without plugins. -/
def empty : Host := { registry := .empty, failures := .empty, taking := false }

/-- Whether a scope is cancelled. -/
def isCancelled (h : Host) (s : Scope) : Bool := h.registry.scopes.isCancelled s

/-- Whether all scopes are cancelled. -/
def isShutDown (h : Host) : Bool := h.isCancelled .root

/-- Change the registry. -/
def withRegistry (h : Host) (f : Registry → Registry) : Host := { h with registry := f h.registry }

/-- Answer a question about the records; there is no answer to questions about the surroundings,
nor as long as it has to be waited for. -/
def answer? (h : Host) : (q : HostAsk) → Option (q.Reply × Host)
  | .names => some (h.registry.names, h)
  | .lookup name => some (h.registry.get? name, h)
  | .insert name plugin order => some ((), h.withRegistry (·.insert name plugin order))
  | .remove name => some ((), h.withRegistry (·.remove name))
  | .beginRun name =>
    let (run, registry) := h.registry.beginRun name
    some (run, { h with registry })
  | .endRun name plugin state => some ((), h.withRegistry (·.endRun name plugin state))
  | .markStopped name plugin => some ((), h.withRegistry (·.markStopped name plugin))
  | .cachedStatus name => some (h.registry.cachedStatus name, h)
  | .storeStatus name plugin status =>
    some ((), h.withRegistry (·.storeStatus name plugin status))
  | .report context why =>
    let (heard, failures) := context.report why h.failures
    some (heard, { h with failures })
  | .beginTaking => if h.taking then none else some ((), { h with taking := true })
  | .takeFailure =>
    let (failure, failures) := h.failures.take
    some (failure, { h with failures })
  | .endTaking => some ((), { h with taking := false })
  | .cancel scope => some ((), h.withRegistry (·.cancel scope))
  | .bind .. | .init .. | .start .. | .stop .. | .status _ | .spawn _ | .listen _ | .timer _
  | .await _ => none

end Host

end Sidecar
