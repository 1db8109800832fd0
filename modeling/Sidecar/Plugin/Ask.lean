import Sidecar.Activity
import Sidecar.Plugin.Basic
import Sidecar.Probe.Extract
import Sidecar.Scope
import Sidecar.Time.Span

/-!
# What plugins ask

A plugin keeps a state of some type and works in activities (`Working`).  It changes its state in
single steps, waits, stores results, and may have workers beside its main loop.
-/

namespace Sidecar

/-- The questions of a plugin with a state of type `σ`. -/
inductive PluginAsk (σ : Type) where
  /-- Change the state; the answer is the new one. -/
  | update (f : σ → σ)
  /-- The time at which a span that begins now is over. -/
  | timer (span : Span)
  /-- Wait for the first of some signals. -/
  | await (signals : List Signal)
  /-- A new scope under another. -/
  | child (parent : Scope)
  /-- Cancel a scope. -/
  | cancel (scope : Scope)
  /-- Start a worker in a scope. -/
  | spawn (worker : Nat) (scope : Scope)
  /-- Store a value as a configuration says. -/
  | store (config : StorageConfig) (v : Value)
  /-- Probe an endpoint unless a scope is cancelled before the result is there. -/
  | probe (endpoint : Probe.EndpointConfig) (scope : Scope)

/-- The answers to them. -/
def PluginAsk.Reply : PluginAsk σ → Type
  | .update _ => σ
  | .timer _ => Nat
  | .await _ => Signal
  | .child _ => Scope
  | .cancel _ => Unit
  | .spawn .. => Unit
  | .store .. => Except StorageError Unit
  | .probe .. => Option (Except ProbeError Unit)

/-- What a plugin asks. -/
abbrev PluginI (σ : Type) : Interface := ⟨PluginAsk σ, PluginAsk.Reply⟩

/-- An activity of a plugin. -/
abbrev Working (σ : Type) := Activity (PluginI σ)

namespace Working

variable {σ : Type}

/-- Ask a question. -/
def ask (q : PluginAsk σ) : Working σ q.Reply := Activity.query (I := PluginI σ) q

/-- Change the state; the result is the new one. -/
def update (f : σ → σ) : Working σ σ := ask (.update f)

/-- The state. -/
def state : Working σ σ := update id

/-- Wait for the first of some signals. -/
def await (signals : List Signal) : Working σ Signal := ask (.await signals)

/-- Wait. -/
def sleep (span : Span) : Working σ Unit := do
  let time : Nat ← ask (.timer span)
  let _ ← await [.due time]

/-- Wait unless a scope is cancelled before; the result is whether the wait is over. -/
def sleepIn (scope : Scope) (span : Span) : Working σ Bool := do
  let time : Nat ← ask (.timer span)
  match ← await [.cancelled scope, .due time] with
  | .due _ => return true
  | _ => return false

/-- Wait for a scope to be cancelled. -/
def cancelled (scope : Scope) : Working σ Unit := do
  let _ ← await [.cancelled scope]

end Working

end Sidecar
