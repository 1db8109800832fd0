import Sidecar.Config.Basic
import Sidecar.Host.Ask
import Sidecar.Time.Span

/-!
# The operations of the host

What the host does, as activities:

* `addPlugin`, `removePlugin` change what is registered;
* `startAll`, `startPolling` start tasks, `HostTask.activity` is what a task does;
* `pluginStatus`, `pollStatus` ask for a status;
* `stopAll` stops the plugins one after another, the last started first;
* `run` is the life of the host up to the first failure or its shutdown, `shutDown` ends it.
-/

namespace Sidecar.Host

open Hosting (ask)

/-- The version of the host. -/
def version : String := "0.1.0"

/-- Bind the configuration of a plugin instance and initialize it. -/
def bindAndInit (plugin : PluginId) (config : Value) : Hosting (Except PluginError Unit) := do
  let bound : Except BindError Unit ← ask (.bind plugin config)
  match bound with
  | .error why => return .error (.bind why)
  | .ok () => ask (.init plugin config)

/-- Bind and initialize a plugin instance and register it, if it is configured. -/
def addPlugin (config : Config) (name : String) (plugin : PluginId) :
    Hosting (Except HostError Unit) := do
  if name = "" then return .error .emptyName
  match config.plugin? name with
  | none => return .ok ()
  | some d =>
    match ← bindAndInit plugin d.config with
    | .error why => return .error (.ofAddition name why)
    | .ok () =>
      ask (.insert name plugin d.bootOrder)
      return .ok ()

/-- Start a plugin unless it runs; the result is whether it was started. -/
def launch (name : String) : Hosting Bool := do
  let run : Option (PluginId × Scope) ← ask (.beginRun name)
  match run with
  | none => return false
  | some (plugin, scope) =>
    ask (.spawn (.run name plugin scope))
    return true

/-- Start some plugins; the result is how many were started. -/
def launchEach : List String → Hosting Nat
  | [] => return 0
  | name :: names => do
    let started ← launch name
    let more ← launchEach names
    return if started then more + 1 else more

/-- Start all plugins that do not run; the result is how many were started. -/
def startAll : Hosting Nat := do
  let names : List String ← ask .names
  launchEach names

/-- The interval between polls in effect. -/
def pollInterval (settings : HostSettings) : Span :=
  if settings.pollInterval.nanos = 0 then HostSettings.default.pollInterval
  else settings.pollInterval

/-- The delay of the first poll of the plugin at a position, of which 32 bits count. -/
def pollDelay (settings : HostSettings) (position : Nat) : Span :=
  Span.shorter ⟨settings.pollStagger.nanos * (position % Nat.pow 2 32)⟩ .longest

/-- Start to poll the plugins from a position on. -/
def pollEach (settings : HostSettings) : (position : Nat) → List String → Hosting Unit
  | _, [] => return ()
  | i, name :: names => do
    let entry : Option Entry ← ask (.lookup name)
    match entry with
    | some e =>
      ask (.spawn (.pollAfter (pollDelay settings i) (pollInterval settings) name e.plugin
        e.registration))
    | none => pure ()
    pollEach settings (i + 1) names

/-- Start to poll all plugins, one after another. -/
def startPolling (settings : HostSettings) : Hosting Unit := do
  let names : List String ← ask .names
  pollEach settings 0 names

/-- Ask a plugin for its status and record it. -/
def pollStatus (name : String) : Hosting (Except HostError PluginStatus) := do
  let entry : Option Entry ← ask (.lookup name)
  match entry with
  | none => return .error (.pluginNotFound name)
  | some e =>
    let status : Except PluginError PluginStatus ← ask (.status e.plugin)
    match status with
    | .error why => return .error (.statusUnavailable name why)
    | .ok status =>
      ask (.storeStatus name e.plugin status)
      return .ok status

/-- The status that a plugin last gave, or one that it gives now. -/
def pluginStatus (name : String) : Hosting (Except HostError PluginStatus) := do
  let status : Option PluginStatus ← ask (.cachedStatus name)
  match status with
  | some status => return .ok status
  | none => pollStatus name

/-- The error for a stop that takes too long. -/
def lateStop (limit : Span) : PluginError :=
  .runtime ("stop did not complete within " ++ limit.brief)

/-- Stop a plugin instance and record it. -/
def stopPlugin (settings : HostSettings) (name : String) (plugin : PluginId) :
    Hosting (Except PluginError Unit) := do
  let outcome : Option (Except PluginError Unit) ← ask (.stop plugin settings.stopTimeout)
  match outcome with
  | some (.ok ()) =>
    ask (.markStopped name plugin)
    return .ok ()
  | some (.error why) => return .error why
  | none => return .error (lateStop settings.stopTimeout)

/-- Stop a plugin and take it out. -/
def removePlugin (settings : HostSettings) (name : String) : Hosting (Except HostError Unit) := do
  let entry : Option Entry ← ask (.lookup name)
  match entry with
  | none => return .error (.pluginNotFound name)
  | some e =>
    match ← stopPlugin settings name e.plugin with
    | .error why => return .error (.pluginStop name why)
    | .ok () =>
      ask (.remove name)
      return .ok ()

/-- Stop some plugins one after another; the result is those that could not be stopped. -/
def stopEach (settings : HostSettings) : List String → Hosting (List (String × PluginError))
  | [] => return []
  | name :: names => do
    let entry : Option Entry ← ask (.lookup name)
    match entry with
    | none => stopEach settings names
    | some e =>
      match ← stopPlugin settings name e.plugin with
      | .ok () => stopEach settings names
      | .error why => do
        let failures ← stopEach settings names
        return (name, why) :: failures

/-- Stop all plugins, the last started first. -/
def stopAll (settings : HostSettings) : Hosting (Except HostError Unit) := do
  let names : List String ← ask .names
  match ← stopEach settings names.reverse with
  | [] => return .ok ()
  | failures => return .error (.stopAll failures)

/-- Wait for the first failure or for the shutdown. -/
def watch : Hosting (Except HostError Unit) := do
  let signal : Signal ← ask (.await [.failure, .cancelled .root])
  match signal with
  | .failure =>
    let failure : Option Failure ← ask .takeFailure
    match failure with
    | some f => return .error (.pluginFailed f.plugin f.why)
    | none => return .ok ()
  | _ => return .ok ()

/-- Open the liveness endpoint if it is enabled; the result is whether that is possible. -/
def openEndpoint (settings : HostSettings) : Hosting Bool := do
  if settings.webServer.enabled then
    let opened : Bool ← ask (.listen settings.webServer.listen)
    if opened then ask (.spawn (.serve settings.webServer.listen))
    return opened
  else return true

/-- Run the host: start all plugins and poll them until one fails or the host is shut down, then
cancel everything. -/
def run (settings : HostSettings) : Hosting (Except HostError Unit) := do
  ask .beginTaking
  let ready ← openEndpoint settings
  let result ←
    if ready then do
      let _ ← startAll
      startPolling settings
      let result ← watch
      ask (.cancel .root)
      pure result
    else pure (.error .server)
  ask .endTaking
  return result

/-- Cancel everything and wait for all tasks to end, but not too long. -/
def shutDown (settings : HostSettings) : Hosting Unit := do
  ask (.cancel .root)
  let limit : Nat ← ask (.timer settings.stopTimeout)
  let _ ← ask (.await [.settled, .due limit])

end Sidecar.Host

namespace Sidecar.HostTask

open Hosting (ask)

/-- How late a poll may be before the next one is counted from it. -/
def tolerance : Nat := 5 * Span.perMilli

/-- The time of the poll after one that was due at a time and is made now. -/
def nextPoll (due now : Nat) (interval : Span) : Nat :=
  Clock.deadline (if due + tolerance < now then now else due) interval

/-- What a task does, and as what it goes on if it does. -/
def activity : HostTask → Hosting (Option HostTask)
  | run name plugin scope => do
    let result : Except PluginError Unit ← ask (.start plugin scope)
    match result with
    | .ok () => ask (.endRun name plugin .stopped)
    | .error why => do
      ask (.endRun name plugin (.failed why.details))
      let _ ← ask (.report { plugin := name, scope } why)
    return none
  | pollAfter delay interval name plugin scope => do
    let time : Nat ← ask (.timer delay)
    let signal : Signal ← ask (.await [.cancelled scope, .due time])
    match signal with
    | .due _ => do
      let now : Nat ← ask (.timer ⟨0⟩)
      return some (poll now interval name plugin scope)
    | _ => return none
  | poll time interval name plugin scope => do
    let signal : Signal ← ask (.await [.cancelled scope, .due time])
    match signal with
    | .due _ => do
      let now : Nat ← ask (.timer ⟨0⟩)
      let status : Except PluginError PluginStatus ← ask (.status plugin)
      match status with
      | .ok status => ask (.storeStatus name plugin status)
      | .error _ => pure ()
      return some (poll (nextPoll time now interval) interval name plugin scope)
    | _ => return none
  | serve _ => do
    let _ ← ask (.await [.cancelled .root])
    return none
  | heed scope => do
    let signal : Signal ← ask (.await [.interrupt, .cancelled scope])
    if signal = .interrupt then ask (.cancel scope)
    return none

end Sidecar.HostTask
