import Sidecar.Plugin.Ask
import Sidecar.Plugin.Basic

/-!
# The probe plugin

After a delay the plugin has one worker per endpoint, which probes it round after round until the
plugin is stopped.  `Probe.State` counts what came of it.

* `State.start` is the main loop, which ends when all workers have ended;
* `State.work` is one step of a worker: to enter, or a round;
* `State.stop` cancels the workers.
-/

namespace Sidecar.Probe

/-- What the plugin says of its health. -/
inductive Health where
  /-- It has not yet begun. -/
  | unknown
  | running
  | stopped
  deriving DecidableEq, Repr, Inhabited

/-- A health in a word. -/
def Health.render : Health → String
  | .unknown => ""
  | .running => "Running"
  | .stopped => "Stopped"

/-- The state of the plugin. -/
structure State where
  /-- The configuration, once there is one. -/
  config : Option Config
  health : Health
  /-- The workers that have entered and not left. -/
  active : Nat
  /-- The rounds that went well. -/
  successes : Nat
  /-- The rounds that did not. -/
  failures : Nat
  /-- Why the last of those did not. -/
  lastError : Option String
  /-- The scope of the current run. -/
  scope : Option Scope
  deriving DecidableEq

/-- The name of the plugin. -/
def pluginName : String := "http_probe"

/-- The version of the plugin. -/
def pluginVersion : String := "v0.0.1"

namespace State

/-- A plugin without a configuration. -/
def new : State :=
  { config := none, health := .unknown, active := 0, successes := 0, failures := 0
    lastError := none, scope := none }

/-- Accept a configuration all of whose endpoints have an address. -/
def init (s : State) (config : Config) : Except PluginError State :=
  if config.endpoints.any fun e => e.url = "" then
    .error (.config "endpoint url cannot be empty")
  else .ok { s with config := some config }

/-- Set the health. -/
def withHealth (health : Health) (s : State) : State := { s with health }

/-- A worker enters. -/
def enter (s : State) : State := { s with active := s.active + 1 }

/-- A worker leaves. -/
def leave (s : State) : State := { s with active := s.active - 1 }

/-- Count a round by its result. -/
def record (result : Except ProbeError Unit) (s : State) : State :=
  match result with
  | .ok () => { s with successes := s.successes + 1 }
  | .error why => { s with failures := s.failures + 1, lastError := some why.message }

/-- The status that the plugin gives. -/
def status (s : State) : PluginStatus :=
  { name := pluginName, version := pluginVersion, running := s.health = .running
    health := s.health.render
    infos :=
      ["active probes: " ++ toString s.active,
        "probes succeeded: " ++ toString s.successes ++ ", failed: " ++ toString s.failures] ++
      s.lastError.toList.map ("last error: " ++ ·) }

open Working

/-- Start workers for the endpoints from a position on. -/
def spawnFrom (scope : Scope) : (position count : Nat) → Working State Unit
  | _, 0 => return ()
  | i, n + 1 => do
    ask (.spawn i scope)
    spawnFrom scope (i + 1) n

/-- Probe until all workers have ended. -/
def probeAll (config : Config) (scope : Scope) : Working State Unit := do
  let _ ← update (withHealth .running)
  spawnFrom scope 0 config.endpoints.length
  let _ ← await [.idle scope]

/-- The main loop. -/
def start (scope : Scope) : Working State (Except PluginError Unit) := do
  match (← state).config with
  | none => return .error (.invalidState "start called before init")
  | some config =>
    let own : Scope ← ask (.child scope)
    let _ ← update fun s => { s with scope := some own }
    let begun ← if config.startDelay = 0 then pure true
      else sleepIn own (.ofSeconds config.startDelay)
    if begun && !config.endpoints.isEmpty then probeAll config own
    let _ ← update (withHealth .stopped)
    return .ok ()

/-- Stop the workers. -/
def stop : Working State (Except PluginError Unit) := do
  match (← state).scope with
  | some own => ask (.cancel own)
  | none => pure ()
  let _ ← update (withHealth .stopped)
  return .ok ()

/-- A round of a worker: probe, count the result and wait; the result is whether to go on. -/
def round (config : Config) (endpoint : EndpointConfig) (scope : Scope) : Working State Bool := do
  let result : Option (Except ProbeError Unit) ← ask (.probe endpoint scope)
  match result with
  | none => return false
  | some result =>
    let _ ← update (record result)
    sleepIn scope (.ofSeconds config.effectiveInterval)

/-- A step of the worker of an endpoint: first it enters, then it does round after round, and at
last it leaves.  The result is whether to go on. -/
def work (worker : Nat) (scope : Scope) (entered : Bool) : Working State Bool := do
  if entered then
    match (← state).config with
    | none => return false
    | some config =>
      match config.endpoints[worker]? with
      | none => return false
      | some endpoint =>
        if ← round config endpoint scope then return true
        else
          let _ ← update leave
          return false
  else
    let _ ← update enter
    return true

end State

end Sidecar.Probe
