/-!
# Scopes and signals

A scope is a part of the program's life that can be cancelled.  Scopes form a tree: a scope made
under another one is cancelled with it.

A scope is the path to it, its own number first and the root being the empty path, so one scope
stands above another exactly when it is a suffix of it.  `Scopes.isCancelled` asks whether a scope
or one above it was cancelled (`isCancelled_iff`), and `isCancelled_cancel` says what cancelling
changes.

A `Signal` is what a task can wait for.  A task that waits for several signals goes on with the
first of its list that has come.
-/

namespace Sidecar

/-- A scope, by the numbers on the way up to the root. -/
abbrev Scope := List Nat

namespace Scope

/-- The scope above all others. -/
def root : Scope := []

end Scope

/-- Which scopes there are, and which of them were cancelled. -/
structure Scopes where
  /-- The number of the next scope. -/
  next : Nat
  /-- The scopes that were cancelled themselves. -/
  ended : List Scope
  deriving DecidableEq, Repr, Inhabited

namespace Scopes

/-- Only the root. -/
def empty : Scopes := { next := 0, ended := [] }

/-- A new scope under another. -/
def child (t : Scopes) (parent : Scope) : Scope × Scopes :=
  (t.next :: parent, { t with next := t.next + 1 })

/-- Cancel a scope and with it all those under it. -/
def cancel (t : Scopes) (s : Scope) : Scopes :=
  if t.ended.contains s then t else { t with ended := s :: t.ended }

/-- Whether a scope is cancelled. -/
def isCancelled (t : Scopes) : Scope → Bool
  | [] => t.ended.contains []
  | n :: parent => t.ended.contains (n :: parent) || t.isCancelled parent

variable {t : Scopes} {s : Scope}

@[simp] theorem isCancelled_root : t.isCancelled [] = t.ended.contains [] := rfl

theorem isCancelled_cons {n : Nat} :
    t.isCancelled (n :: s) = (t.ended.contains (n :: s) || t.isCancelled s) := rfl

/-- A scope is cancelled if it was cancelled itself, or one above it was. -/
theorem isCancelled_iff : t.isCancelled s ↔ ∃ u ∈ t.ended, u <:+ s := by
  induction s with
  | nil => simp
  | cons n s ih =>
    simp only [isCancelled_cons, Bool.or_eq_true, List.contains_iff_mem, ih, List.suffix_cons_iff]
    constructor
    · rintro (h | ⟨u, hu, hs⟩)
      · exact ⟨_, h, .inl rfl⟩
      · exact ⟨u, hu, .inr hs⟩
    · rintro ⟨u, hu, rfl | hs⟩
      · exact .inl hu
      · exact .inr ⟨u, hu, hs⟩

theorem mem_ended_cancel {u : Scope} : u ∈ (t.cancel s).ended ↔ u = s ∨ u ∈ t.ended := by
  unfold cancel
  split
  · rename_i h
    constructor
    · exact .inr
    · rintro (rfl | hu)
      · exact List.contains_iff_mem.1 h
      · exact hu
  · simp

/-- Cancelling a scope cancels those under it, and no others. -/
theorem isCancelled_cancel {u : Scope} :
    (t.cancel s).isCancelled u ↔ s <:+ u ∨ t.isCancelled u := by
  simp only [isCancelled_iff, mem_ended_cancel]
  constructor
  · rintro ⟨v, rfl | hv, hs⟩
    · exact .inl hs
    · exact .inr ⟨v, hv, hs⟩
  · rintro (hs | ⟨v, hv, hs⟩)
    · exact ⟨s, .inl rfl, hs⟩
    · exact ⟨v, .inr hv, hs⟩

@[simp] theorem isCancelled_child {parent u : Scope} :
    (t.child parent).2.isCancelled u = t.isCancelled u := by
  induction u with
  | nil => rfl
  | cons n u ih => simp only [isCancelled_cons, ih]; rfl

end Scopes

/-! ### Signals -/

/-- What a task can wait for. -/
inductive Signal where
  /-- The clock has reached a time in nanoseconds. -/
  | due (time : Nat)
  /-- A scope is cancelled. -/
  | cancelled (scope : Scope)
  /-- A failure was reported and nobody has taken it. -/
  | failure
  /-- All tasks of the host have ended. -/
  | settled
  /-- All workers in a scope have ended. -/
  | idle (scope : Scope)
  /-- The program is asked to end. -/
  | interrupt
  deriving DecidableEq, Repr

end Sidecar
