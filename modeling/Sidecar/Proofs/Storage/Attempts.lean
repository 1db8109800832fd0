import Sidecar.Proofs.Activity
import Sidecar.Storage.Backoff

/-!
# Attempts within a backoff

`Backoff.Attempts` says how attempts at an operation go: each but the last has an error that is
worth another attempt, and the last one is final, is the last that the backoff allows, or breaks off
because there is no further wait.

* `Backoff.keeps_rounds` : **the rule for `Backoff.attempt`**: to keep a contract, each attempt and
  each wait has to keep a record of the outcomes so far, and the contract has to allow what such
  attempts come to; `Backoff.keeps_attempt` is the rule where waits need no record of their own;
* `Attempts.eq_ok_iff`, `Attempts.isSome` : what attempts come to, from the last of them and from
  the waits of the backoff.
-/

namespace Sidecar.Backoff

/-- The wait after an attempt with so many before it.  There is none once a product is no span of
time. -/
def pause? (b : Backoff) : Nat → Option Span
  | 0 => some b.initial
  | n + 1 => (b.pause? n).bind b.next?

variable {ε α : Type}

/-- Errors each of which is followed by another attempt. -/
structure Goes (b : Backoff) (again : ε → Bool) (met : List ε) : Prop where
  again : ∀ e ∈ met, again e = true
  room : met.length < b.attempts
  paused : (b.pause? met.length).isSome = true

/-- The outcomes of the attempts at an operation, the first one first, and what they come to:
nothing if they break off. -/
inductive Attempts (b : Backoff) (again : ε → Bool) (giveUp : Nat → ε → ε) :
    List (Except ε α) → Option (Except ε α) → Prop
  /-- An attempt succeeds. -/
  | succeeds {met : List ε} {a : α} (before : b.Goes again met) :
      Attempts b again giveUp (met.map .error ++ [.ok a]) (some (.ok a))
  /-- An error is not worth another attempt. -/
  | fails {met : List ε} {e : ε} (before : b.Goes again met) (final : again e = false) :
      Attempts b again giveUp (met.map .error ++ [.error e]) (some (.error e))
  /-- There were enough attempts. -/
  | givesUp {met : List ε} {e : ε} (before : b.Goes again met) (worth : again e = true)
      (enough : met.length + 1 = b.attempts) :
      Attempts b again giveUp (met.map .error ++ [.error e]) (some (.error (giveUp b.attempts e)))
  /-- There is no further wait. -/
  | breaksOff {met : List ε} {e : ε} (before : b.Goes again met) (worth : again e = true)
      (room : met.length + 1 < b.attempts) (unpaused : b.pause? (met.length + 1) = none) :
      Attempts b again giveUp (met.map .error ++ [.error e]) none

variable {b : Backoff} {again : ε → Bool} {giveUp : Nat → ε → ε} {met : List ε}
  {outcomes : List (Except ε α)} {outcome : Option (Except ε α)} {a : α} {e : ε}

theorem attempts_pos : 0 < b.attempts := by
  unfold attempts
  omega

theorem Goes.nil : b.Goes again [] where
  again := List.forall_mem_nil _
  room := attempts_pos
  paused := rfl

theorem Goes.snoc (before : b.Goes again met) (worth : again e = true)
    (room : met.length + 1 < b.attempts) (paused : (b.pause? (met.length + 1)).isSome = true) :
    b.Goes again (met ++ [e]) where
  again := by
    intro e' he'
    rcases List.mem_append.1 he' with old | new
    · exact before.again e' old
    · obtain rfl := List.mem_singleton.1 new
      exact worth
  room := by simpa using room
  paused := by simpa using paused

theorem isSome_pause?_of_le {m n : Nat} (le : m ≤ n) (h : (b.pause? n).isSome = true) :
    (b.pause? m).isSome = true := by
  induction le with
  | refl => exact h
  | @step n _ ih =>
    simp only [pause?, Option.isSome_bind] at h
    cases hn : b.pause? n with
    | none => simp [hn] at h
    | some w => exact ih (by simp [hn])

namespace Attempts

theorem ne_nil (h : b.Attempts again giveUp outcomes outcome) : outcomes ≠ [] := by
  cases h <;> simp

/-- **Attempts succeed exactly if the last one does.** -/
theorem eq_ok_iff (h : b.Attempts again giveUp outcomes outcome) :
    outcome = some (.ok a) ↔ outcomes.getLast? = some (.ok a) := by
  cases h <;> simp

/-- Attempts come to something if the backoff has all its waits. -/
theorem isSome (h : b.Attempts again giveUp outcomes outcome)
    (waits : (b.pause? (b.attempts - 1)).isSome = true) : outcome.isSome = true := by
  cases h with
  | breaksOff before worth room unpaused =>
    have := isSome_pause?_of_le (Nat.le_sub_one_of_lt room) waits
    simp [unpaused] at this
  | _ => rfl

end Attempts

/-! ### The rule for attempts -/

section Rule

open Activity

variable {I : Interface} [Patient I] {op : Activity I (Except ε α)}
  {may : List (Exchange I) → I.Ask → Prop} {ends : List (Exchange I) → Except ε α → Prop}
  {past : List (Exchange I)}

/-- Attempts keep a contract if each attempt and each wait after one keep a record of their own, and
the contract allows what they come to. -/
theorem keeps_rounds (Ready Tried : List (Except ε α) → List (Exchange I) → Prop)
    (start : Ready [] past)
    (tries : ∀ {met past}, b.Goes again met → Ready (met.map .error) past →
      op.Keeps may (fun past r => Tried (met.map .error ++ [r]) past) past)
    (waits : ∀ {met e past w}, b.Goes again met → b.pause? met.length = some w →
      Tried (met.map .error ++ [.error e]) past →
      (Patient.wait w : Activity I Unit).Keeps may
        (fun past _ => Ready (met.map .error ++ [.error e]) past) past)
    (breaksOff : ∀ {outcomes past}, b.Attempts again giveUp outcomes none →
      Ready outcomes past → (Patient.breakOff : Activity I (Except ε α)).Keeps may ends past)
    (finishes : ∀ {outcomes past r}, b.Attempts again giveUp outcomes (some r) →
      Tried outcomes past → ends past r) :
    (b.attempt again giveUp op).Keeps may ends past := by
  -- the induction is on the attempts that are left; the errors met so far are the invariant
  suffices ∀ more met wait past, met.length + 1 + more = b.attempts → b.Goes again met →
      b.pause? met.length = some wait → Ready (met.map .error) past →
      (b.attemptFrom again giveUp op more met.length wait).Keeps may ends past by
    have count := attempts_pos (b := b)
    exact this (b.attempts - 1) [] b.initial past (by simp; omega) .nil rfl start
  intro more
  induction more with
  | zero =>
    intro met wait past count goes paused ready
    refine .bind (tries goes ready) fun past r tried => ?_
    cases r with
    | ok a => exact finishes (.succeeds goes) tried
    | error e =>
      cases worth : again e with
      | false =>
        simp only [worth]
        exact finishes (.fails goes worth) tried
      | true =>
        have enough : met.length + 1 = b.attempts := count
        simp only [worth, if_true, enough]
        exact finishes (.givesUp goes worth enough) tried
  | succ more ih =>
    intro met wait past count goes paused ready
    refine .bind (tries goes ready) fun past r tried => ?_
    cases r with
    | ok a => exact finishes (.succeeds goes) tried
    | error e =>
      cases worth : again e with
      | false =>
        simp only [worth]
        exact finishes (.fails goes worth) tried
      | true =>
        simp only [worth, if_true]
        refine .bind (waits goes paused tried) fun past _ ready => ?_
        have room : met.length + 1 < b.attempts := by omega
        have next : b.pause? (met.length + 1) = b.next? wait := by simp [pause?, paused]
        cases found : b.next? wait with
        | none => exact breaksOff (.breaksOff goes worth room (next.trans found)) ready
        | some w =>
          have goes' := goes.snoc worth room (by simp [next, found])
          have := ih (met ++ [e]) w past (by simp; omega) goes'
            (by simpa using next.trans found) (by simpa using ready)
          simpa using this

/-- Attempts keep a contract if they keep a record of their outcomes and the contract allows what
they come to. -/
theorem keeps_attempt (Recorded : List (Except ε α) → List (Exchange I) → Prop)
    (start : Recorded [] past)
    (tries : ∀ {met past}, b.Goes again met → Recorded (met.map .error) past →
      op.Keeps may (fun past r => Recorded (met.map .error ++ [r]) past) past)
    (waits : ∀ {met e past w}, b.Goes again met → b.pause? met.length = some w →
      Recorded (met.map .error ++ [.error e]) past →
      (Patient.wait w : Activity I Unit).Keeps may
        (fun past _ => Recorded (met.map .error ++ [.error e]) past) past)
    (breaksOff : ∀ {outcomes past}, b.Attempts again giveUp outcomes none →
      Recorded outcomes past → (Patient.breakOff : Activity I (Except ε α)).Keeps may ends past)
    (finishes : ∀ {outcomes past r}, b.Attempts again giveUp outcomes (some r) →
      Recorded outcomes past → ends past r) :
    (b.attempt again giveUp op).Keeps may ends past :=
  keeps_rounds Recorded Recorded start tries waits breaksOff finishes

end Rule

end Sidecar.Backoff
