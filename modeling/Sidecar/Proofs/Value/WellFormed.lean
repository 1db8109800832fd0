import Sidecar.Proofs.Json.Compact
import Sidecar.Proofs.Value.Members

/-!
# Values as they are read

Every value that is read from a document is well-formed (`Value.WellFormed`): its integers fit 64
bits and its members are in order.  Its doubles are finite besides (`Value.Sound`).  A well-formed
value without doubles is read back from its own tree (`Value.WellFormed.toValue?_ofValue`), and that
tree from its compact text as long as it does not nest too deep (`Value.WellFormed.legible`).

Doubles are left out because reading one does not always give the nearest.
-/

namespace Sidecar.Value

variable {v : Value} {vs : List Value} {ms : List (String × Value)} {depth : Nat}

/-- What a value keeps to besides its type: integers fit 64 bits, with a sign or without, and
members are in order. -/
inductive WellFormed : Value → Prop
  | null : WellFormed .null
  | bool {b : Bool} : WellFormed (.bool b)
  | int {i : Int} (least : -Int.pow 2 63 ≤ i) (most : i < Int.pow 2 64) : WellFormed (.int i)
  | float {x : Binary64} : WellFormed (.float x)
  | text {s : String} : WellFormed (.text s)
  | list {vs : List Value} (items : ∀ v ∈ vs, WellFormed v) : WellFormed (.list vs)
  | object {ms : List (String × Value)} (ordered : Ordered ms)
      (members : ∀ p ∈ ms, WellFormed p.2) : WellFormed (.object ms)

/-- A value as it is read from a document: well-formed, and its doubles are finite. -/
inductive Sound : Value → Prop
  | null : Sound .null
  | bool {b : Bool} : Sound (.bool b)
  | int {i : Int} (least : -Int.pow 2 63 ≤ i) (most : i < Int.pow 2 64) : Sound (.int i)
  | float {x : Binary64} (finite : x.isFinite = true) : Sound (.float x)
  | text {s : String} : Sound (.text s)
  | list {vs : List Value} (items : ∀ v ∈ vs, Sound v) : Sound (.list vs)
  | object {ms : List (String × Value)} (ordered : Ordered ms)
      (members : ∀ p ∈ ms, Sound p.2) : Sound (.object ms)

theorem Sound.wellFormed (h : Sound v) : WellFormed v := by
  induction h with
  | null => exact .null
  | bool => exact .bool
  | int least most => exact .int least most
  | float => exact .float
  | text => exact .text
  | list _ ih => exact .list ih
  | object ordered _ ih => exact .object ordered ih

mutual

/-- Whether a value holds no double. -/
def floatFree : Value → Bool
  | .float _ => false
  | .list vs => itemsFloatFree vs
  | .object ms => membersFloatFree ms
  | _ => true

/-- Whether items hold no double. -/
def itemsFloatFree : List Value → Bool
  | [] => true
  | v :: vs => floatFree v && itemsFloatFree vs

/-- Whether members hold no double. -/
def membersFloatFree : List (String × Value) → Bool
  | [] => true
  | (_, v) :: ms => floatFree v && membersFloatFree ms

end

mutual

/-- How deep lists and objects nest. -/
def nesting : Value → Nat
  | .list vs => itemsNesting vs + 1
  | .object ms => membersNesting ms + 1
  | _ => 0

/-- How deep they nest in items. -/
def itemsNesting : List Value → Nat
  | [] => 0
  | v :: vs => max (nesting v) (itemsNesting vs)

/-- How deep they nest in members. -/
def membersNesting : List (String × Value) → Nat
  | [] => 0
  | (_, v) :: ms => max (nesting v) (membersNesting ms)

end

theorem itemsFloatFree_iff : itemsFloatFree vs = true ↔ ∀ v ∈ vs, v.floatFree = true := by
  induction vs with
  | nil => simp [itemsFloatFree]
  | cons v vs ih => simp [itemsFloatFree, ih]

theorem membersFloatFree_iff : membersFloatFree ms = true ↔ ∀ p ∈ ms, p.2.floatFree = true := by
  induction ms with
  | nil => simp [membersFloatFree]
  | cons p ms ih => simp [membersFloatFree, ih]

theorem itemsNesting_le_iff : itemsNesting vs ≤ depth ↔ ∀ v ∈ vs, v.nesting ≤ depth := by
  induction vs with
  | nil => simp [itemsNesting]
  | cons v vs ih => rw [itemsNesting, Nat.max_le, ih, List.forall_mem_cons]

theorem membersNesting_le_iff : membersNesting ms ≤ depth ↔ ∀ p ∈ ms, p.2.nesting ≤ depth := by
  induction ms with
  | nil => simp [membersNesting]
  | cons p ms ih => rw [membersNesting, Nat.max_le, ih, List.forall_mem_cons]

/-- A value without doubles is read back where it does not nest too deep. -/
theorem WellFormed.legible (h : WellFormed v) (free : v.floatFree = true)
    (shallow : v.nesting ≤ depth) : Json.Legible .any depth v := by
  induction h generalizing depth with
  | null => exact .null
  | bool => exact .bool
  | int least most => exact .int least most
  | float => cases free
  | text => exact .text
  | list items ih =>
    obtain ⟨depth, rfl⟩ := Nat.exists_eq_add_of_le' (Nat.le_trans (Nat.le_add_left 1 _) shallow)
    have each := itemsNesting_le_iff.1 (Nat.le_of_succ_le_succ shallow)
    exact .list rfl fun v mem => ih v mem (itemsFloatFree_iff.1 free v mem) (each v mem)
  | object ordered members ih =>
    obtain ⟨depth, rfl⟩ := Nat.exists_eq_add_of_le' (Nat.le_trans (Nat.le_add_left 1 _) shallow)
    have each := membersNesting_le_iff.1 (Nat.le_of_succ_le_succ shallow)
    exact .ofMembers fun p mem => ih p mem (membersFloatFree_iff.1 free p mem) (each p mem)

theorem itemValues?_ofItems (h : ∀ v ∈ vs, (Node.ofValue v).toValue? = some v) :
    Node.itemValues? (Node.ofItems vs) = some vs := by
  induction vs with
  | nil => rfl
  | cons v vs ih =>
    obtain ⟨own, others⟩ := List.forall_mem_cons.1 h
    simp [Node.ofItems, Node.itemValues?, own, ih others]

theorem entryValues?_ofMembers (h : ∀ p ∈ ms, (Node.ofValue p.2).toValue? = some p.2) :
    Node.entryValues? (Node.ofMembers ms) = some ms := by
  induction ms with
  | nil => rfl
  | cons p ms ih =>
    obtain ⟨own, others⟩ := List.forall_mem_cons.1 h
    simp [Node.ofMembers, Node.entryValues?, own, ih others]

/-- **A value without doubles is read back from its tree.** -/
theorem WellFormed.toValue?_ofValue (h : WellFormed v) (free : v.floatFree = true) :
    (Node.ofValue v).toValue? = some v := by
  induction h with
  | null | bool | int | text => rfl
  | float => cases free
  | list items ih =>
    have each := itemsFloatFree_iff.1 free
    rw [Node.ofValue, Node.toValue?, itemValues?_ofItems fun v mem => ih v mem (each v mem)]
    rfl
  | object ordered members ih =>
    have each := membersFloatFree_iff.1 free
    rw [Node.ofValue, Node.toValue?, entryValues?_ofMembers fun p mem => ih p mem (each p mem),
      Option.map_some, ofPairs, ordered.members_eq]

end Sidecar.Value
