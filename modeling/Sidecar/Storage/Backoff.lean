import Sidecar.Activity
import Sidecar.Time.Span

/-!
# Backoff

How often an operation is attempted and how long to wait between attempts.

* `Backoff.next?` is the wait after a wait: the last one times a factor, but not longer than the
  cap;
* `Backoff.attempt` attempts an operation until it succeeds, fails for good, or has been attempted
  often enough; `Backoff.attemptCounted` does so with a count of 32 bits.
-/

namespace Sidecar

/-- A bounded exponential backoff. -/
structure Backoff where
  /-- The number of attempts; zero means one. -/
  steps : Nat
  /-- The first wait. -/
  initial : Span
  /-- What each wait is multiplied by. -/
  factor : Binary64
  /-- The longest of the further waits. -/
  cap : Span
  deriving DecidableEq, Repr, Inhabited

/-- Surroundings in which an activity can wait, or break off for good. -/
class Patient (I : Interface) where
  /-- Wait for a span of time. -/
  wait : Span → Activity I Unit
  /-- Break off: there is nothing to go on with. -/
  breakOff : {α : Type} → Activity I α

namespace Backoff

/-- The backoff for conflicting changes. -/
def default : Backoff :=
  { steps := 5, initial := .ofMillis 10, factor := .ofNat 2, cap := .ofSeconds 1 }

/-- The number of attempts. -/
def attempts (b : Backoff) : Nat := max b.steps 1

/-- The wait after a wait; there is none when the product is no span of time. -/
def next? (b : Backoff) (wait : Span) : Option Span :=
  (wait.scale? b.factor).map fun w => Span.shorter w b.cap

/-- The next `count` waits. -/
def waits? (b : Backoff) : (count : Nat) → Span → Option (List Span)
  | 0, _ => some []
  | n + 1, wait => do
    let w ← b.next? wait
    let ws ← b.waits? n w
    return w :: ws

variable {I : Interface} [Patient I] {ε α : Type}

/-- Attempt an operation after `made` attempts and before up to `more` further ones, with `wait`
before the next.  An error that is not worth another attempt is final; the last error is reported
through `giveUp` with the number of attempts. -/
def attemptFrom (b : Backoff) (again : ε → Bool) (giveUp : Nat → ε → ε)
    (op : Activity I (Except ε α)) :
    (more : Nat) → (made : Nat) → (wait : Span) → Activity I (Except ε α)
  | 0, made, _ => do
    match ← op with
    | .ok a => return .ok a
    | .error e => return .error (if again e then giveUp (made + 1) e else e)
  | more + 1, made, wait => do
    match ← op with
    | .ok a => return .ok a
    | .error e =>
      if again e then
        Patient.wait wait
        match b.next? wait with
        | some w => attemptFrom b again giveUp op more (made + 1) w
        | none => Patient.breakOff
      else return .error e

/-- Attempt an operation until it succeeds, fails with an error that is not worth another attempt,
or has been attempted often enough. -/
def attempt (b : Backoff) (again : ε → Bool) (giveUp : Nat → ε → ε)
    (op : Activity I (Except ε α)) : Activity I (Except ε α) :=
  b.attemptFrom again giveUp op (b.attempts - 1) 0 b.initial

/-- Attempt an operation after `made` attempts, which are counted in 32 bits: it breaks off where the
count has no successor. -/
def attemptCounted (b : Backoff) (again : ε → Bool) (giveUp : Nat → ε → ε)
    (op : Activity I (Except ε α)) (made : Nat) (wait : Span) : Activity I (Except ε α) :=
  if made + 1 < Nat.pow 2 32 then do
    match ← op with
    | .ok a => return .ok a
    | .error e =>
      if room : again e = true ∧ made + 1 < b.attempts then
        Patient.wait wait
        match b.next? wait with
        | some w => attemptCounted b again giveUp op (made + 1) w
        | none => Patient.breakOff
      else return .error (if again e then giveUp (made + 1) e else e)
  else Patient.breakOff
termination_by b.attempts - made

end Backoff

end Sidecar
