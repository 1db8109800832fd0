import Sidecar.Host.Operation
import Sidecar.Probe.Sandbox
import Sidecar.Rehearsal.Actor
import Sidecar.Storage.Factory

/-!
# What a rehearsal asks

In a rehearsal the host, its plugins and the storages all run as activities that ask the same
questions, `Rehearsal.Ask`.  The translations are

* `hostAnswer`: a call of a plugin becomes what the actor does;
* `actorAnswer`: a question of an actor;
* `storageAnswer`, `probeAnswer`: a wait becomes a timer and a signal.

`within` makes any activity break off at a signal.
-/

namespace Sidecar.Rehearsal

/-- The questions of a rehearsal. -/
inductive Ask where
  /-- A question about the records of the host. -/
  | records (q : HostAsk)
  /-- A question of the storages that needs no waiting. -/
  | storage (q : StorageAsk)
  /-- Bind a free configuration to the type that an actor declares. -/
  | bind (plugin : PluginId) (config : Value)
  /-- Initialize an actor. -/
  | init (plugin : PluginId) (config : Value)
  /-- Change an actor; the answer is the new one, if there is an actor of the number. -/
  | update (plugin : PluginId) (f : Actor → Actor)
  /-- The time at which a span that begins now is over. -/
  | timer (span : Span)
  /-- Wait for the first of some signals. -/
  | await (signals : List Signal)
  /-- A new scope under another. -/
  | child (parent : Scope)
  /-- Cancel a scope. -/
  | cancel (scope : Scope)
  /-- Start a task of the host. -/
  | spawn (task : HostTask)
  /-- Start a worker of an actor. -/
  | employ (plugin : PluginId) (worker : Nat) (scope : Scope)
  /-- Begin to listen at an address. -/
  | listen (address : Address)
  /-- Send a request. -/
  | exchange (request : Http.Request)
  /-- The result of a run of the host in the background. -/
  | finish (number : Nat) (result : Except HostError Unit)
  /-- Break off. -/
  | breakOff

/-- The answers to them. -/
def Ask.Reply : Ask → Type
  | .records q => q.Reply
  | .storage q => q.Reply
  | .bind .. => Except BindError Unit
  | .init .. => Except PluginError Unit
  | .update .. => Option Actor
  | .timer _ => Nat
  | .await _ => Signal
  | .child _ => Scope
  | .cancel _ => Unit
  | .spawn _ => Unit
  | .employ .. => Unit
  | .listen _ => Bool
  | .exchange _ => Http.Exchange
  | .finish .. => Unit
  | .breakOff => Empty

/-- What a rehearsal asks. -/
abbrev RehearsalI : Interface := ⟨Ask, Ask.Reply⟩

/-- An activity in a rehearsal. -/
abbrev Playing := Activity RehearsalI

namespace Playing

/-- Ask a question. -/
def ask (q : Ask) : Playing q.Reply := Activity.query (I := RehearsalI) q

/-- Wait. -/
def sleep (span : Span) : Playing Unit := do
  let time : Nat ← ask (.timer span)
  let _ ← ask (.await [.due time])

/-- Break off. -/
def breakOff : Playing α := ask .breakOff >>= fun e => nomatch (e : Empty)

/-- An activity that breaks off without a result when a signal comes while it waits. -/
def within (limit : Signal) : Playing α → Playing (Option α)
  | .done a => .done (some a)
  | Activity.ask (.await signals) next =>
    Activity.ask (I := RehearsalI) (.await (signals ++ [limit])) fun (s : Signal) =>
      if signals.contains s then within limit (next s) else .done none
  | Activity.ask q next => Activity.ask (I := RehearsalI) q fun r => within limit (next r)

/-- An activity that breaks off without a result when a scope is cancelled, also before. -/
def inScope (scope : Scope) (x : Playing α) : Playing (Option α) :=
  Activity.ask (I := RehearsalI) (.await [.cancelled scope, .due 0]) fun (s : Signal) =>
    if s = .cancelled scope then .done none else within (.cancelled scope) x

end Playing

open Playing (ask)

/-- The questions of the storages. -/
def storageAnswer : (q : StorageAsk) → Playing q.Reply
  | .wait w => Playing.sleep w
  | .breakOff => Playing.breakOff
  | q => ask (.storage q)

/-- Store a value as a configuration says. -/
def storeValue (ctx : StorageContext) (config : StorageConfig) (v : Value) :
    Playing (Except StorageError Unit) :=
  (ctx.storeValue config v).via storageAnswer

/-- The questions of a probe. -/
def probeAnswer (ctx : StorageContext) : (q : Probe.Ask) → Playing q.Reply
  | .fetch request _ => ask (.exchange request)
  | .store config v => storeValue ctx config v
  | .wait w => Playing.sleep w
  | .breakOff => Playing.breakOff

/-- Probe an endpoint within the limits of the usual backoff. -/
def probe (ctx : StorageContext) (endpoint : Probe.EndpointConfig) :
    Playing (Except ProbeError Unit) :=
  (Probe.attempts Probe.backoff endpoint).via (probeAnswer ctx)

/-- The questions of an actor. -/
def actorAnswer (ctx : StorageContext) (plugin : PluginId) :
    (q : PluginAsk Actor) → Playing q.Reply
  | .update f => do
    let a : Option Actor ← ask (.update plugin f)
    match a with
    | some a => return a
    | none => Playing.breakOff
  | .timer span => ask (.timer span)
  | .await signals => ask (.await signals)
  | .child parent => ask (.child parent)
  | .cancel scope => ask (.cancel scope)
  | .spawn worker scope => ask (.employ plugin worker scope)
  | .store config v => storeValue ctx config v
  | .probe endpoint scope => Playing.inScope scope (probe ctx endpoint)

/-- Let an actor do something. -/
def withActor (ctx : StorageContext) (plugin : PluginId) (x : Actor → Working Actor α) :
    Playing α := do
  let a : Option Actor ← ask (.update plugin id)
  match a with
  | some a => (x a).via (actorAnswer ctx plugin)
  | none => Playing.breakOff

/-- The questions of the host. -/
def hostAnswer (ctx : StorageContext) : (q : HostAsk) → Playing q.Reply
  | .bind plugin config => ask (.bind plugin config)
  | .init plugin config => ask (.init plugin config)
  | .start plugin scope => withActor ctx plugin (·.start scope)
  | .stop plugin limit => do
    let time : Nat ← ask (.timer limit)
    Playing.within (.due time) (withActor ctx plugin Actor.stop)
  | .status plugin => withActor ctx plugin Actor.poll
  | .spawn task => ask (.spawn task)
  | .listen address => ask (.listen address)
  | .timer span => ask (.timer span)
  | .await signals => ask (.await signals)
  | q => ask (.records q)

/-- An operation of the host. -/
def perform (ctx : StorageContext) (x : Hosting α) : Playing α := x.via (hostAnswer ctx)

end Sidecar.Rehearsal
