import Mathlib.Data.List.Induction
import Sidecar.Value

/-!
# Members in order

The members of an object are in byte order of their keys, each key once (`Value.Ordered`).  Setting
a member keeps this, and gathering members that are in order changes nothing.

Members that are set one after another (`Value.setMembers`) do not depend on the order in which
different keys are set, and of one key the last value counts: `setMembers_members` says that it does
not matter either whether they are gathered first.
-/

namespace Sidecar.Value

variable {α : Type} {key other : String} {v w : α} {p q : String × α} {ms pairs : List (String × α)}

/-- In byte order of the keys, each key once. -/
def Ordered (ms : List (String × α)) : Prop := ms.Pairwise fun p q => p.1 < q.1

/-- Set members one after another. -/
def setMembers (pairs ms : List (String × α)) : List (String × α) :=
  pairs.foldl (fun out p => insertMember p.1 p.2 out) ms

theorem members_eq_setMembers : members pairs = setMembers pairs [] := rfl

theorem setMembers_cons : setMembers (p :: pairs) ms = setMembers pairs (insertMember p.1 p.2 ms) :=
  rfl

theorem setMembers_append {more : List (String × α)} :
    setMembers (pairs ++ more) ms = setMembers more (setMembers pairs ms) :=
  List.foldl_append

theorem insertMember_nil : insertMember key v [] = [(key, v)] := rfl

theorem insertMember_cons_of_lt (h : key < other) :
    insertMember key v ((other, w) :: ms) = (key, v) :: (other, w) :: ms :=
  if_pos h

theorem insertMember_cons_self : insertMember key v ((key, w) :: ms) = (key, v) :: ms := by
  rw [insertMember, if_neg (String.lt_irrefl _), if_pos rfl]

theorem insertMember_cons_of_gt (h : other < key) :
    insertMember key v ((other, w) :: ms) = (other, w) :: insertMember key v ms := by
  rw [insertMember, if_neg (String.lt_asymm h), if_neg fun same => String.lt_irrefl _ (same ▸ h)]

theorem mem_of_mem_insertMember (h : p ∈ insertMember key v ms) : p = (key, v) ∨ p ∈ ms := by
  induction ms with
  | nil => exact .inl (List.mem_singleton.1 h)
  | cons q ms ih =>
    obtain ⟨k, u⟩ := q
    rcases Std.lt_trichotomy key k with before | rfl | after
    · rw [insertMember_cons_of_lt before] at h
      exact List.mem_cons.1 h
    · rw [insertMember_cons_self] at h
      exact (List.mem_cons.1 h).imp_right (List.mem_cons_of_mem _)
    · rw [insertMember_cons_of_gt after] at h
      rcases List.mem_cons.1 h with rfl | mem
      · exact .inr List.mem_cons_self
      · exact (ih mem).imp_right (List.mem_cons_of_mem _)

theorem mem_of_mem_setMembers (h : p ∈ setMembers pairs ms) : p ∈ pairs ∨ p ∈ ms := by
  induction pairs generalizing ms with
  | nil => exact .inr h
  | cons q pairs ih =>
    rcases ih h with mem | mem
    · exact .inl (List.mem_cons_of_mem _ mem)
    · rcases mem_of_mem_insertMember mem with rfl | mem
      · exact .inl List.mem_cons_self
      · exact .inr mem

theorem mem_of_mem_members (h : p ∈ members pairs) : p ∈ pairs :=
  (mem_of_mem_setMembers h).resolve_right List.not_mem_nil

/-! ### Order -/

theorem Ordered.insertMember (h : Ordered ms) : Ordered (insertMember key v ms) := by
  induction ms with
  | nil => exact List.pairwise_singleton _ _
  | cons q ms ih =>
    obtain ⟨k, u⟩ := q
    obtain ⟨least, tail⟩ := List.pairwise_cons.1 h
    rcases Std.lt_trichotomy key k with before | rfl | after
    · rw [insertMember_cons_of_lt before]
      refine List.pairwise_cons.2 ⟨List.forall_mem_cons.2 ⟨before, fun r mem => ?_⟩, h⟩
      exact String.lt_trans before (least r mem)
    · rw [insertMember_cons_self]
      exact List.pairwise_cons.2 ⟨least, tail⟩
    · rw [insertMember_cons_of_gt after]
      refine List.pairwise_cons.2 ⟨fun r mem => ?_, ih tail⟩
      rcases mem_of_mem_insertMember mem with rfl | mem
      · exact after
      · exact least r mem

theorem Ordered.setMembers (h : Ordered ms) : Ordered (setMembers pairs ms) := by
  induction pairs generalizing ms with
  | nil => exact h
  | cons q pairs ih => exact ih h.insertMember

theorem insertMember_perm (h : key ∉ ms.map Prod.fst) :
    (insertMember key v ms).Perm ((key, v) :: ms) := by
  induction ms with
  | nil => rfl
  | cons q ms ih =>
    obtain ⟨k, w⟩ := q
    obtain ⟨other, rest⟩ := not_or.1 (mt List.mem_cons.2 h)
    by_cases before : key < k
    · rw [insertMember_cons_of_lt before]
    · rw [insertMember, if_neg before, if_neg other]
      exact ((ih rest).cons _).trans (.swap _ _ _)

theorem setMembers_perm (h : ((pairs ++ ms).map Prod.fst).Nodup) :
    (setMembers pairs ms).Perm (pairs ++ ms) := by
  induction pairs generalizing ms with
  | nil => rfl
  | cons q pairs ih =>
    obtain ⟨new, distinct⟩ := List.nodup_cons.1 h
    have fresh : q.1 ∉ ms.map Prod.fst := fun mem => by
      obtain ⟨p, there, same⟩ := List.mem_map.1 mem
      exact new (List.mem_map.2 ⟨p, List.mem_append_right _ there, same⟩)
    have insert := insertMember_perm (v := q.2) fresh
    have move : (pairs ++ insertMember q.1 q.2 ms).Perm (q :: (pairs ++ ms)) :=
      ((insert.append_left pairs).trans List.perm_middle)
    exact (ih ((move.map Prod.fst).nodup_iff.2 h)).trans move

theorem members_perm (h : (pairs.map Prod.fst).Nodup) : (members pairs).Perm pairs := by
  have perm := @setMembers_perm _ [] pairs (by rwa [List.append_nil])
  rwa [List.append_nil] at perm

theorem ordered_members : Ordered (members pairs) := Ordered.setMembers List.Pairwise.nil

theorem insertMember_of_forall_lt (h : ∀ p ∈ ms, p.1 < key) :
    insertMember key v ms = ms ++ [(key, v)] := by
  induction ms with
  | nil => rfl
  | cons q ms ih =>
    obtain ⟨before, rest⟩ := List.forall_mem_cons.1 h
    obtain ⟨k, u⟩ := q
    rw [insertMember_cons_of_gt before, ih rest, List.cons_append]

theorem setMembers_of_ordered (h : Ordered (ms ++ pairs)) : setMembers pairs ms = ms ++ pairs := by
  induction pairs generalizing ms with
  | nil => exact (List.append_nil ms).symm
  | cons q pairs ih =>
    have before : ∀ p ∈ ms, p.1 < q.1 := fun p mem =>
      (List.pairwise_append.1 h).2.2 p mem q List.mem_cons_self
    rw [setMembers_cons, insertMember_of_forall_lt before]
    rw [ih (by simpa using h), List.append_assoc]
    rfl

/-- **Members that are in order stay as they are.** -/
theorem Ordered.members_eq (h : Ordered ms) : members ms = ms :=
  @setMembers_of_ordered _ [] ms h

/-! ### Setting again and in another order -/

theorem insertMember_insertMember_self :
    insertMember key w (insertMember key v ms) = insertMember key w ms := by
  induction ms with
  | nil => rw [insertMember_nil, insertMember_cons_self, insertMember_nil]
  | cons q ms ih =>
    obtain ⟨k, u⟩ := q
    rcases Std.lt_trichotomy key k with before | rfl | after
    · rw [insertMember_cons_of_lt before, insertMember_cons_of_lt before, insertMember_cons_self]
    · rw [insertMember_cons_self, insertMember_cons_self, insertMember_cons_self]
    · rw [insertMember_cons_of_gt after, insertMember_cons_of_gt after, ih,
        insertMember_cons_of_gt after]

theorem insertMember_comm_of_lt (h : key < other) :
    insertMember key v (insertMember other w ms) =
      insertMember other w (insertMember key v ms) := by
  induction ms with
  | nil =>
    rw [insertMember_nil, insertMember_nil, insertMember_cons_of_lt h, insertMember_cons_of_gt h,
      insertMember_nil]
  | cons q ms ih =>
    obtain ⟨k, u⟩ := q
    rcases Std.lt_trichotomy key k with before | rfl | after
    · rw [insertMember_cons_of_lt before, insertMember_cons_of_gt h]
      rcases Std.lt_trichotomy other k with first | rfl | later
      · rw [insertMember_cons_of_lt first, insertMember_cons_of_lt h]
      · rw [insertMember_cons_self, insertMember_cons_of_lt h]
      · rw [insertMember_cons_of_gt later, insertMember_cons_of_lt before]
    · rw [insertMember_cons_of_gt h, insertMember_cons_self, insertMember_cons_self,
        insertMember_cons_of_gt h]
    · have later := String.lt_trans after h
      rw [insertMember_cons_of_gt later, insertMember_cons_of_gt after,
        insertMember_cons_of_gt after, insertMember_cons_of_gt later, ih]

theorem insertMember_comm (h : key ≠ other) :
    insertMember key v (insertMember other w ms) =
      insertMember other w (insertMember key v ms) := by
  rcases Std.lt_trichotomy key other with before | same | after
  · exact insertMember_comm_of_lt before
  · exact absurd same h
  · exact (insertMember_comm_of_lt after).symm

theorem setMembers_insertMember_of_ne (h : ∀ p ∈ pairs, p.1 ≠ key) :
    setMembers pairs (insertMember key v ms) = insertMember key v (setMembers pairs ms) := by
  induction pairs generalizing ms with
  | nil => rfl
  | cons q pairs ih =>
    obtain ⟨differs, rest⟩ := List.forall_mem_cons.1 h
    rw [setMembers_cons, insertMember_comm differs, ih rest, setMembers_cons]

theorem setMembers_insertMember (h : Ordered pairs) :
    setMembers (insertMember key v pairs) ms = insertMember key v (setMembers pairs ms) := by
  induction pairs generalizing ms with
  | nil => rfl
  | cons q pairs ih =>
    obtain ⟨k, u⟩ := q
    obtain ⟨least, tail⟩ := List.pairwise_cons.1 h
    have others (less : key < k ∨ key = k) : ∀ p ∈ pairs, p.1 ≠ key := by
      rintro p mem rfl
      rcases less with less | rfl
      · exact String.lt_asymm less (least p mem)
      · exact String.lt_irrefl _ (least p mem)
    rcases Std.lt_trichotomy key k with before | rfl | after
    · have apart : k ≠ key := fun same => String.lt_irrefl _ (same ▸ before)
      rw [insertMember_cons_of_lt before, setMembers_cons]
      exact setMembers_insertMember_of_ne (List.forall_mem_cons.2 ⟨apart, others (.inl before)⟩)
    · rw [insertMember_cons_self, setMembers_cons, setMembers_cons,
        setMembers_insertMember_of_ne (others (.inr rfl)),
        setMembers_insertMember_of_ne (others (.inr rfl)), insertMember_insertMember_self]
    · rw [insertMember_cons_of_gt after, setMembers_cons, ih tail, setMembers_cons]

/-- **Members may be gathered before they are set.** -/
theorem setMembers_members : setMembers (members pairs) ms = setMembers pairs ms := by
  induction pairs using List.reverseRecOn with
  | nil => rfl
  | append_singleton pairs p ih =>
    calc setMembers (members (pairs ++ [p])) ms
      _ = setMembers (insertMember p.1 p.2 (members pairs)) ms := by
        rw [members_eq_setMembers, setMembers_append]
        rfl
      _ = insertMember p.1 p.2 (setMembers pairs ms) := by
        rw [setMembers_insertMember ordered_members, ih]
      _ = setMembers (pairs ++ [p]) ms := by
        rw [setMembers_append]
        rfl

/-- A key that is set has the last value that was set for it; the others stay. -/
theorem lookup_setMembers :
    (setMembers pairs ms).lookup key = (pairs.reverse.lookup key).or (ms.lookup key) := by
  induction pairs generalizing ms with
  | nil => rfl
  | cons p pairs ih =>
    obtain ⟨k, u⟩ := p
    rw [setMembers_cons, ih, lookup_insertMember, List.reverse_cons, List.lookup_append,
      Option.or_assoc, List.lookup_cons]
    by_cases same : key = k
    · simp [same]
    · simp [same, beq_eq_false_iff_ne.2 same]

theorem members_members : members (members pairs) = members pairs := setMembers_members

theorem members_eq_nil : members pairs = [] ↔ pairs = [] := by
  refine ⟨fun empty => ?_, fun empty => by rw [empty]; rfl⟩
  have unset (key : String) : pairs.reverse.lookup key = none := by
    simpa [members_eq_setMembers, lookup_setMembers] using congrArg (List.lookup key) empty
  refine List.eq_nil_iff_forall_not_mem.2 fun p mem => ?_
  exact bne_iff_ne.1 (List.lookup_eq_none_iff.1 (unset p.1) p (List.mem_reverse.2 mem)) rfl

theorem members_map {β : Type} {f : α → β} :
    members (pairs.map fun p => (p.1, f p.2)) = (members pairs).map fun p => (p.1, f p.2) := by
  have insert (key : String) (v : α) (ms : List (String × α)) :
      insertMember key (f v) (ms.map fun p => (p.1, f p.2)) =
        (insertMember key v ms).map fun p => (p.1, f p.2) := by
    induction ms with
    | nil => rfl
    | cons q ms ih =>
      simp only [List.map_cons, insertMember, ih]
      split
      · rfl
      · split <;> rfl
  induction pairs using List.reverseRecOn with
  | nil => rfl
  | append_singleton pairs p ih =>
    simp only [members_eq_setMembers, List.map_append, setMembers_append] at ih ⊢
    rw [ih]
    exact insert p.1 p.2 _

end Sidecar.Value
