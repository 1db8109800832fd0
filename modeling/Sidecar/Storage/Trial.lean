import Sidecar.Storage.Backoff
import Sidecar.Time.Span

/-!
# Trying a backoff

A `Trial` tries a backoff on an operation whose outcomes are given, on a clock that jumps over the
waits, and notes when the operation was attempted.
-/

namespace Sidecar

/-- The questions of an operation on trial. -/
inductive TrialAsk where
  /-- Attempt the operation. -/
  | attempt
  /-- Wait. -/
  | wait (span : Span)
  /-- Break off. -/
  | breakOff

/-- The answers to them, for an operation that fails with an `ε` or gives an `α`. -/
def TrialAsk.Reply (ε α : Type) : TrialAsk → Type
  | .attempt => Except ε α
  | .wait _ => Unit
  | .breakOff => Empty

/-- What is asked on a trial. -/
abbrev TrialI (ε α : Type) : Interface := ⟨TrialAsk, TrialAsk.Reply ε α⟩

instance : Patient (TrialI ε α) where
  wait s := Activity.query (I := TrialI ε α) (.wait s)
  breakOff := Activity.query (I := TrialI ε α) .breakOff >>= fun e => nomatch (e : Empty)

/-- A trial that is under way. -/
structure Trial where
  /-- The time in nanoseconds. -/
  now : Nat
  /-- The times of the attempts, the oldest first. -/
  attempts : List Nat
  deriving DecidableEq, Repr

namespace Trial

/-- Nothing attempted yet. -/
def start : Trial := { now := 0, attempts := [] }

/-- Run to the end; the n-th attempt has the n-th outcome.  There is no result when it breaks
off. -/
def run (outcome : Nat → Except ε α) : Trial → Activity (TrialI ε α) β → Option (β × Trial)
  | t, .done b => some (b, t)
  | t, .ask .attempt next =>
    run outcome { t with attempts := t.attempts ++ [t.now] } (next (outcome t.attempts.length))
  | t, .ask (.wait s) next =>
    run outcome { t with now := Clock.fires (Clock.deadline t.now s) } (next ())
  | _, .ask .breakOff _ => none

/-- Try a backoff. -/
def of (b : Backoff) (again : ε → Bool) (giveUp : Nat → ε → ε) (outcome : Nat → Except ε α) :
    Option (Except ε α × Trial) :=
  run outcome start (b.attempt again giveUp (Activity.query (I := TrialI ε α) .attempt))

end Trial

end Sidecar
