import Mathlib.Data.ENat.Lattice
import Sidecar.Proofs.Activity
import Sidecar.Proofs.Storage.Attempts
import Sidecar.Storage.Error
import Sidecar.Storage.Trial

/-!
# Retrying on conflicts

An operation on trial has given outcomes, one for each attempt (`Trial.surroundings`).  What is asked
on the trial is a `Trial.Course`: the attempts in order, with one wait between any two.

* `Trial.keeps_course` : that is the course of a trial with any backoff;
* `Backoff.attemptCounted_eq` : a count of the attempts in 32 bits never overflows;
* `Trial.retried_on_conflicts` : **what comes of an operation that is retried on conflicts**
  (`Trial.Retried`): how often it is attempted, when it is waited, and the result, from the first
  outcome that is no conflict.
-/

namespace Sidecar

/-! ### Counting attempts -/

namespace Backoff

variable {I : Interface} [Patient I] {ε α : Type} {b : Backoff} {again : ε → Bool}
  {giveUp : Nat → ε → ε} {op : Activity I (Except ε α)}

theorem attemptCounted_eq_attemptFrom (few : b.attempts < 2 ^ 32) {more made : Nat} {wait : Span}
    (count : made + 1 + more = b.attempts) :
    b.attemptCounted again giveUp op made wait = b.attemptFrom again giveUp op more made wait := by
  induction more generalizing made wait with
  | zero =>
    have counted : made + 1 < Nat.pow 2 32 := Nat.lt_of_le_of_lt (by omega) few
    rw [attemptCounted, if_pos counted, attemptFrom]
    refine congrArg (op >>= ·) (funext fun r => ?_)
    cases r with
    | ok a => rfl
    | error e => exact dif_neg fun room => by omega
  | succ more ih =>
    have counted : made + 1 < Nat.pow 2 32 := Nat.lt_of_le_of_lt (by omega) few
    rw [attemptCounted, if_pos counted, attemptFrom]
    refine congrArg (op >>= ·) (funext fun r => ?_)
    cases r with
    | ok a => rfl
    | error e =>
      cases worth : again e with
      | false => simp [worth]
      | true =>
        have room : made + 1 < b.attempts := by omega
        simp only [worth, room, and_self, dite_true, if_true]
        refine congrArg (Patient.wait wait >>= ·) (funext fun _ => ?_)
        cases b.next? wait with
        | none => rfl
        | some w => exact ih (by omega)

/-- **The count of the attempts never overflows.** -/
theorem attemptCounted_eq (few : b.steps < 2 ^ 32) :
    b.attemptCounted again giveUp op 0 b.initial = b.attempt again giveUp op := by
  have count := attempts_pos (b := b)
  refine attemptCounted_eq_attemptFrom ?_ (by omega)
  unfold attempts
  omega

end Backoff

/-! ### The course of a trial -/

namespace Trial

open Activity (Surroundings Answered)

variable {ε α : Type} {b : Backoff}

section Course

variable {again : ε → Bool} {giveUp : Nat → ε → ε} {outcomes : List (Except ε α)}
  {past : List (Exchange (TrialI ε α))}

/-- An attempt with its outcome. -/
def attempted (r : Except ε α) : Exchange (TrialI ε α) := ⟨.attempt, r⟩

/-- A wait that has passed. -/
def waited (w : Span) : Exchange (TrialI ε α) := ⟨.wait w, ()⟩

/-- The number of attempts among what was asked. -/
def count : List (Exchange (TrialI ε α)) → Nat
  | [] => 0
  | ⟨.attempt, _⟩ :: past => count past + 1
  | ⟨.wait _, _⟩ :: past | ⟨.breakOff, _⟩ :: past => count past

/-- The n-th attempt has the n-th outcome, and every wait passes. -/
def surroundings (outcome : Nat → Except ε α) : Surroundings (TrialI ε α) := fun past q =>
  match q with
  | .attempt => some (outcome (count past))
  | .wait _ => some ()
  | .breakOff => none

/-- What is asked, the newest first, with attempts that have some outcomes: between any two of them
there is the wait of the backoff, and after the last one there is none. -/
inductive Course (b : Backoff) : List (Except ε α) → List (Exchange (TrialI ε α)) → Prop
  | first (r : Except ε α) : Course b [r] [attempted r]
  | again {outcomes : List (Except ε α)} {past : List (Exchange (TrialI ε α))} {w : Span}
      (before : Course b outcomes past) (pause : b.pause? (outcomes.length - 1) = some w)
      (r : Except ε α) : Course b (outcomes ++ [r]) (attempted r :: waited w :: past)

/-- What was asked before an attempt: nothing, or attempts and a wait after them. -/
def Waited (b : Backoff) (outcomes : List (Except ε α)) (past : List (Exchange (TrialI ε α))) :
    Prop :=
  outcomes = [] ∧ past = [] ∨
    ∃ w before, past = waited w :: before ∧ Course b outcomes before ∧
      b.pause? (outcomes.length - 1) = some w

theorem Waited.attempt (h : Waited b outcomes past) (r : Except ε α) :
    Course b (outcomes ++ [r]) (attempted r :: past) := by
  rcases h with ⟨rfl, rfl⟩ | ⟨w, before, rfl, course, pause⟩
  · exact .first r
  · exact .again course pause r

/-- **The course of a trial**: all attempts and waits are in order when it has a result, and also
when it breaks off. -/
theorem keeps_course :
    (b.attempt again giveUp (Activity.query (I := TrialI ε α) .attempt)).Keeps
      (fun past (q : TrialAsk) => q = .breakOff →
        ∃ outcomes, b.Attempts again giveUp outcomes none ∧ Waited b outcomes past)
      (fun past r => ∃ outcomes, b.Attempts again giveUp outcomes (some r) ∧
        Course b outcomes past) [] := by
  refine Backoff.keeps_rounds (Waited b) (Course b) (.inl ⟨rfl, rfl⟩) ?tries ?waits ?breaksOff
    fun attempts course => ⟨_, attempts, course⟩
  case tries =>
    intro met past _ ready
    exact ⟨nofun, fun r => ready.attempt r⟩
  case waits =>
    intro met e past w _ pause course
    refine ⟨nofun, fun _ => .inr ⟨w, past, rfl, course, ?_⟩⟩
    simpa using pause
  case breaksOff =>
    intro outcomes past attempts ready
    exact ⟨fun _ => ⟨outcomes, attempts, ready⟩, nofun⟩

theorem Course.count_eq (h : Course b outcomes past) : count past = outcomes.length := by
  induction h with
  | first r => rfl
  | again before pause r ih =>
    rw [List.length_append, ← ih]
    rfl

theorem Course.outcomes_eq {outcome : Nat → Except ε α} (h : Course b outcomes past)
    (answered : Answered (surroundings outcome) past) :
    outcomes = (List.range outcomes.length).map outcome := by
  induction h with
  | first r =>
    have hr : outcome 0 = r := Option.some.inj answered.1
    simp [hr]
  | @again outcomes past w before pause r ih =>
    have hr : outcome (count past) = r := Option.some.inj answered.1
    rw [before.count_eq] at hr
    rw [List.length_append, List.length_singleton, List.range_succ, List.map_append,
      ← ih answered.2.2, List.map_singleton, hr]

theorem Waited.outcomes_eq {outcome : Nat → Except ε α} (h : Waited b outcomes past)
    (answered : Answered (surroundings outcome) past) :
    outcomes = (List.range outcomes.length).map outcome := by
  rcases h with ⟨rfl, rfl⟩ | ⟨w, before, rfl, course, pause⟩
  · rfl
  · exact course.outcomes_eq answered.2

end Course

/-! ### Retrying on conflicts -/

/-- What is asked when an operation is retried on conflicts, the newest first, and the result, if it
comes to one. -/
def retry (b : Backoff) (outcome : Nat → Except StorageError α) :
    List (Exchange (TrialI StorageError α)) × Option (Except StorageError α) :=
  (b.attempt StorageError.isConflict .retriesExhausted
    (Activity.query (I := TrialI StorageError α) .attempt)).within (surroundings outcome) []

/-- Whether an outcome is a conflict. -/
def isConflict : Except StorageError α → Bool
  | .ok _ => false
  | .error e => e.isConflict

/-- The position of the first outcome that is no conflict, counted from one; there is none if all
are. -/
noncomputable def firstOther (outcome : Nat → Except StorageError α) : ℕ∞ :=
  ⨅ (n : Nat) (_ : isConflict (outcome n) = false), ((n + 1 : Nat) : ℕ∞)

/-- What comes of an operation that is retried on conflicts. -/
structure Retried (b : Backoff) (outcome : Nat → Except StorageError α)
    (past : List (Exchange (TrialI StorageError α))) (result : Option (Except StorageError α)) :
    Prop where
  /-- It is attempted until it meets no conflict, but not more often than the backoff allows. -/
  calls : (count past : ℕ∞) = min (firstOther outcome) b.attempts
  /-- Between any two attempts there is one wait, and there is none after the last. -/
  course : Course b ((List.range (count past)).map outcome) past
  /-- An outcome that is no conflict is the result as it is, if there are enough attempts. -/
  in_time : ∀ n : Nat, firstOther outcome = (n + 1 : Nat) → n + 1 ≤ b.attempts →
    result = some (outcome n)
  /-- Otherwise the attempts are exhausted, and the error says how many there were and carries the
  last conflict. -/
  exhausted : (b.attempts : ℕ∞) < firstOther outcome →
    ∃ e, e.isConflict = true ∧ outcome (b.attempts - 1) = .error e ∧
      result = some (.error (.retriesExhausted b.attempts e))
  /-- To count the attempts, 32 bits are enough. -/
  counted : b.steps < 2 ^ 32 →
    b.attemptCounted StorageError.isConflict .retriesExhausted
        (Activity.query (I := TrialI StorageError α) .attempt) 0 b.initial =
      b.attempt StorageError.isConflict .retriesExhausted
        (Activity.query (I := TrialI StorageError α) .attempt)

variable {outcome : Nat → Except StorageError α} {n : Nat}
  {past : List (Exchange (TrialI StorageError α))}

theorem lt_firstOther (conflicts : ∀ i < n, isConflict (outcome i) = true) :
    (n : ℕ∞) < firstOther outcome := by
  refine lt_of_lt_of_le (Nat.cast_lt.2 n.lt_succ_self) (le_iInf₂ fun i other => ?_)
  have hi : n ≤ i := by
    by_contra h
    rw [conflicts i (by omega)] at other
    cases other
  exact Nat.cast_le.2 (Nat.succ_le_succ hi)

theorem firstOther_eq (conflicts : ∀ i < n, isConflict (outcome i) = true)
    (other : isConflict (outcome n) = false) : firstOther outcome = (n + 1 : Nat) :=
  le_antisymm (iInf₂_le n other) (Order.add_one_le_of_lt (lt_firstOther conflicts))

theorem conflicts_of_goes {met : List StorageError} {last : Except StorageError α}
    (before : b.Goes StorageError.isConflict met)
    (given : met.map Except.error ++ [last] =
      (List.range (met.length + 1)).map outcome) :
    (∀ i < met.length, isConflict (outcome i) = true) ∧ outcome met.length = last := by
  rw [List.range_succ, List.map_append, List.map_singleton] at given
  obtain ⟨earlier, hlast⟩ := List.append_inj given (by simp)
  refine ⟨fun i hi => ?_, (List.singleton_inj.1 hlast).symm⟩
  have hget := congrArg (·[i]?) earlier
  simp only [List.getElem?_map, List.getElem?_eq_getElem hi, List.getElem?_range hi,
    Option.map_some, Option.some.injEq] at hget
  rw [← hget]
  exact before.again _ (List.getElem_mem hi)

theorem conflicts_of_last {e : StorageError}
    (conflicts : ∀ i < n, isConflict (outcome i) = true) (last : outcome n = .error e)
    (worth : e.isConflict = true) : ∀ i < n + 1, isConflict (outcome i) = true := by
  intro i hi
  rcases Nat.lt_succ_iff_lt_or_eq.1 hi with hi | rfl
  · exact conflicts i hi
  · rw [last]
    exact worth

theorem Retried.of_other {met : List StorageError} {last : Except StorageError α}
    (before : b.Goes StorageError.isConflict met) (other : isConflict last = false)
    (course : Course b (met.map .error ++ [last]) past)
    (answered : Answered (surroundings outcome) past) : Retried b outcome past (some last) := by
  have given := course.outcomes_eq answered
  have calls : count past = met.length + 1 := by simp [course.count_eq]
  rw [List.length_append, List.length_map, List.length_singleton] at given
  obtain ⟨conflicts, hlast⟩ := conflicts_of_goes before given
  have first := firstOther_eq conflicts (hlast ▸ other)
  have enough : met.length + 1 ≤ b.attempts := before.room
  constructor
  case calls =>
    rw [first, calls, min_eq_left (Nat.cast_le.2 enough)]
  case course =>
    rwa [calls, ← given]
  case in_time =>
    intro n hn _
    rw [first, Nat.cast_inj, Nat.succ_inj] at hn
    rw [← hn, hlast]
  case exhausted =>
    intro late
    rw [first, Nat.cast_lt] at late
    omega
  case counted => exact Backoff.attemptCounted_eq

theorem Retried.of_conflicts {met : List StorageError} {e : StorageError}
    (before : b.Goes StorageError.isConflict met) (worth : e.isConflict = true)
    (enough : met.length + 1 = b.attempts) (course : Course b (met.map .error ++ [.error e]) past)
    (answered : Answered (surroundings outcome) past) :
    Retried b outcome past (some (.error (.retriesExhausted b.attempts e))) := by
  have given := course.outcomes_eq answered
  have calls : count past = b.attempts := by simp [course.count_eq, enough]
  rw [List.length_append, List.length_map, List.length_singleton] at given
  obtain ⟨conflicts, hlast⟩ := conflicts_of_goes before given
  have late : (b.attempts : ℕ∞) < firstOther outcome :=
    enough ▸ lt_firstOther (conflicts_of_last conflicts hlast worth)
  constructor
  case calls =>
    rw [calls, min_eq_right late.le]
  case course =>
    rwa [calls, ← enough, ← given]
  case in_time =>
    intro n hn le
    rw [hn, Nat.cast_lt] at late
    omega
  case exhausted =>
    intro _
    refine ⟨e, worth, ?_, rfl⟩
    rw [← enough, Nat.add_sub_cancel, hlast]
  case counted => exact Backoff.attemptCounted_eq

end Trial

end Sidecar
