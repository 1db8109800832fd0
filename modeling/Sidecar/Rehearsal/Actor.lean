import Sidecar.Plugin.Ask
import Sidecar.Plugin.Basic
import Sidecar.Probe.Plugin

/-!
# Actors

The plugins that can take part in a rehearsal:

* a `Mock` does nothing but count its calls, and fails or takes its time where it is told to;
* an `Emitter` stores the values it is given, one after another;
* the probe plugin.

`Actor.start`, `stop`, `poll` and `work` are what they do, as activities on actors.
-/

namespace Sidecar.Rehearsal

/-! ### Mock plugins -/

/-- A plugin that counts its calls. -/
structure Mock where
  name : String
  /-- Fail to initialize, with these words. -/
  failInit : Option String
  /-- Fail in the main loop after a span, with these words. -/
  failStart : Option (Span × String)
  /-- Fail to stop, with these words. -/
  failStop : Option String
  /-- Take a span to stop. -/
  slowStop : Option Span
  /-- Fail to give a status, with these words. -/
  failStatus : Option String
  /-- The labels of the accepted configurations, the oldest first. -/
  labels : List (Option String)
  starts : Nat
  stops : Nat
  polls : Nat
  /-- Whether the main loop runs. -/
  running : Bool
  deriving DecidableEq, Repr

namespace Mock

/-- The version of mock plugins. -/
def version : String := "1.0.0"

/-- A mock plugin that fails nowhere. -/
def new (name : String) : Mock :=
  { name, failInit := none, failStart := none, failStop := none, slowStop := none
    failStatus := none, labels := [], starts := 0, stops := 0, polls := 0, running := false }

/-- The reading of a configuration: a label, if there is one. -/
def label? (n : Node) : Option (Option String) := do
  let r ← n.record? ["label"] []
  r.optional "label" Node.text?

/-- The configuration of a mock plugin. -/
def binding : Binding (Option String) := .ofRecord label?

/-- Accept a configuration. -/
def init (m : Mock) (label : Option String) : Except PluginError Mock :=
  match m.failInit with
  | some why => .error (.init why)
  | none => .ok { m with labels := m.labels ++ [label] }

/-- The status after the last count. -/
def status (m : Mock) : Except PluginError PluginStatus :=
  match m.failStatus with
  | some why => .error (.runtime why)
  | none => .ok {
      name := m.name
      version
      running := m.running
      health := if m.running then "Running" else "Stopped"
      infos := (m.labels.getLast?.join).toList }

open Working

/-- The main loop: fail after a span, or wait for the end of the scope. -/
def start (scope : Scope) : Working Mock (Except PluginError Unit) := do
  let m ← update fun m => { m with starts := m.starts + 1, running := true }
  let result ← match m.failStart with
    | some (span, why) => do
      sleep span
      pure (.error (.runtime why))
    | none => do
      cancelled scope
      pure (.ok ())
  let _ ← update fun m => { m with running := false }
  return result

/-- Stop, perhaps after a span, unless that is to fail. -/
def stop : Working Mock (Except PluginError Unit) := do
  let m ← update fun m => { m with stops := m.stops + 1 }
  match m.slowStop with
  | some span => sleep span
  | none => pure ()
  match m.failStop with
  | some why => return .error (.runtime why)
  | none =>
    let _ ← update fun m => { m with running := false }
    return .ok ()

/-- Give the status. -/
def poll : Working Mock (Except PluginError PluginStatus) := do
  let m ← update fun m => { m with polls := m.polls + 1 }
  return m.status

end Mock

/-! ### Emitters -/

/-- What an emitter does. -/
structure EmitterConfig where
  /-- Where the values go. -/
  storage : Option StorageConfig
  values : List Value
  /-- The wait after each value. -/
  interval : Span

namespace EmitterConfig

/-- The reading of a configuration. -/
def ofNode? (n : Node) : Option EmitterConfig := do
  let r ← n.record? ["storage", "values", "intervalMs"] []
  let storage ← r.optional "storage" StorageConfig.ofNode?
  let values ← r.defaulting "values" (Node.list? Node.toValue?) []
  let interval ← r.defaulting "intervalMs" (Node.natBelow? (Nat.pow 2 64)) 0
  return { storage, values, interval := .ofMillis interval }

/-- The configuration of an emitter. -/
def binding : Binding EmitterConfig := .ofRecord ofNode?

end EmitterConfig

/-- A plugin that stores values. -/
structure Emitter where
  name : String
  /-- The storage and the configuration, once there is one. -/
  config : Option (StorageConfig × EmitterConfig)
  /-- How many values were stored. -/
  count : Nat

namespace Emitter

/-- The version of emitters. -/
def version : String := "0.1.0"

/-- An emitter without a configuration. -/
def new (name : String) : Emitter := { name, config := none, count := 0 }

/-- Accept a configuration that says where the values go. -/
def init (e : Emitter) (config : EmitterConfig) : Except PluginError Emitter :=
  match config.storage with
  | none => .error (.config "storage missing")
  | some storage => .ok { e with config := some (storage, config) }

/-- The status that an emitter gives. -/
def status (e : Emitter) : PluginStatus :=
  { PluginStatus.new e.name version with infos := [toString e.count] }

open Working

/-- Store values until one cannot be stored. -/
def emit (storage : StorageConfig) (interval : Span) :
    List Value → Working Emitter (Except PluginError Unit)
  | [] => return .ok ()
  | v :: vs => do
    let stored : Except StorageError Unit ← ask (.store storage v)
    match stored with
    | .error why => return .error (.storage why)
    | .ok () =>
      let _ ← update fun e => { e with count := e.count + 1 }
      sleep interval
      emit storage interval vs

/-- The main loop: store the values, then wait for the end of the scope. -/
def start (scope : Scope) : Working Emitter (Except PluginError Unit) := do
  match (← state).config with
  | none => return .ok ()
  | some (storage, config) =>
    match ← emit storage config.interval config.values with
    | .error why => return .error why
    | .ok () =>
      cancelled scope
      return .ok ()

end Emitter

/-! ### Actors -/

/-- A plugin in a rehearsal. -/
inductive Actor where
  | mock (m : Mock)
  | emitter (e : Emitter)
  | probe (p : Probe.State)

/-- One kind of actor: how a state of the kind is an actor, and back. -/
structure Role (σ : Type) where
  toActor : σ → Actor
  ofActor? : Actor → Option σ

namespace Role

variable {σ : Type}

/-- Change an actor of the role, leaving others as they are. -/
def change (role : Role σ) (f : σ → σ) (a : Actor) : Actor :=
  match role.ofActor? a with
  | some s => role.toActor (f s)
  | none => a

/-- A question about the state of a role, asked about an actor; what an actor of another role
answers is taken as `s`. -/
def answer (role : Role σ) (s : σ) : (q : PluginAsk σ) → Working Actor q.Reply
  | .update f => do
    let a ← Working.update (role.change f)
    return (role.ofActor? a).getD s
  | .timer span => Working.ask (.timer span)
  | .await signals => Working.ask (.await signals)
  | .child parent => Working.ask (.child parent)
  | .cancel scope => Working.ask (.cancel scope)
  | .spawn worker scope => Working.ask (.spawn worker scope)
  | .store config v => Working.ask (.store config v)
  | .probe endpoint scope => Working.ask (.probe endpoint scope)

/-- An activity of a role as one of an actor in that role. -/
def act (role : Role σ) (s : σ) (x : Working σ α) : Working Actor α := x.via (role.answer s)

end Role

namespace Actor

/-- The role of mock plugins. -/
def mockRole : Role Mock where
  toActor := mock
  ofActor? | mock m => some m | _ => none

/-- The role of emitters. -/
def emitterRole : Role Emitter where
  toActor := emitter
  ofActor? | emitter e => some e | _ => none

/-- The role of the probe plugin. -/
def probeRole : Role Probe.State where
  toActor := probe
  ofActor? | probe p => some p | _ => none

/-- The name of an actor. -/
def name : Actor → String
  | mock m => m.name
  | emitter e => e.name
  | probe _ => Probe.pluginName

/-- Bind a free configuration to the type that an actor declares. -/
def bind (a : Actor) (config : Value) : Except BindError Unit :=
  match a with
  | mock _ => (Mock.binding.bind config).map fun _ => ()
  | emitter _ => (EmitterConfig.binding.bind config).map fun _ => ()
  | probe _ => (Probe.Config.binding.bind config).map fun _ => ()

/-- Read a configuration and accept it. -/
def initWith (binding : Binding κ) (config : Value) (accept : κ → Except PluginError σ)
    (toActor : σ → Actor) : Except PluginError Actor := do
  let c ← (binding.bind config).mapError PluginError.bind
  return toActor (← accept c)

/-- Initialize an actor with a free configuration. -/
def init (a : Actor) (config : Value) : Except PluginError Actor :=
  match a with
  | mock m => initWith Mock.binding config m.init mock
  | emitter e => initWith EmitterConfig.binding config e.init emitter
  | probe p => initWith Probe.Config.binding config p.init probe

/-- The main loop of an actor. -/
def start (a : Actor) (scope : Scope) : Working Actor (Except PluginError Unit) :=
  match a with
  | mock m => mockRole.act m (Mock.start scope)
  | emitter e => emitterRole.act e (Emitter.start scope)
  | probe p => probeRole.act p (Probe.State.start scope)

/-- Stop an actor. -/
def stop (a : Actor) : Working Actor (Except PluginError Unit) :=
  match a with
  | mock m => mockRole.act m Mock.stop
  | emitter _ => return .ok ()
  | probe p => probeRole.act p Probe.State.stop

/-- Ask an actor for its status. -/
def poll (a : Actor) : Working Actor (Except PluginError PluginStatus) :=
  match a with
  | mock m => mockRole.act m Mock.poll
  | emitter e => emitterRole.act e do return .ok (← Working.state).status
  | probe p => probeRole.act p do return .ok (← Working.state).status

/-- A step of a worker of an actor; the result is whether to go on. -/
def work (a : Actor) (worker : Nat) (scope : Scope) (entered : Bool) : Working Actor Bool :=
  match a with
  | probe p => probeRole.act p (Probe.State.work worker scope entered)
  | _ => return false

end Actor

end Sidecar.Rehearsal
