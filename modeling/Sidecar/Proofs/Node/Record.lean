import Sidecar.Node
import Sidecar.Proofs.Node.Bounded

/-!
# Records that are read

The fields of a record are parts of the tree that it is read from (`Record.bounded_lookup`).

A record may be written with its fields in any order (`Arrangement`): they are all found again
(`Arrangement.record?_arrange`), and those that were left out are missing
(`Arrangement.record?_of_known`).
-/

namespace Sidecar

/-! ### Records -/

namespace Record

variable {α : Type} {fields : List String} {aliases : List (String × String)} {field : String}
  {n m : Node} {es : List (Node × Node)} {r : Record} {read : Node → Option α} {a b : α}

theorem mem_of_gather (h : gather fields aliases es = some r) (found : (field, m) ∈ r) :
    ∃ e ∈ es, e.2 = m := by
  induction es generalizing r with
  | nil =>
    cases h
    cases found
  | cons e es ih =>
    obtain ⟨k, n⟩ := e
    simp only [gather, Option.bind_eq_bind, Option.bind_eq_some_iff] at h
    obtain ⟨later, rest, f, -, h⟩ := h
    have later (found : (field, m) ∈ later) : ∃ e ∈ (k, n) :: es, e.2 = m := by
      obtain ⟨e, mem, same⟩ := ih rest found
      exact ⟨e, List.mem_cons_of_mem _ mem, same⟩
    split at h
    · cases h
      exact later found
    · split at h
      · cases h
      · cases h
        rcases List.mem_cons.1 found with same | found
        · cases same
          exact ⟨_, List.mem_cons_self, rfl⟩
        · exact later found

/-- The fields of a record are parts of its tree. -/
theorem bounded_lookup (h : n.Bounded) (record : n.record? fields aliases = some r)
    (found : r.lookup field = some m) : m.Bounded := by
  have found : (field, m) ∈ r := by
    obtain ⟨before, after, split, -⟩ := List.lookup_eq_some_iff.1 found
    simp [split]
  cases h with
  | table entries =>
    obtain ⟨e, mem, rfl⟩ := mem_of_gather record found
    exact entries e mem
  | list items =>
    rw [Node.record?] at record
    split at record
    · cases record
      exact items m (List.of_mem_zip found).2
    · cases record
  | _ => cases record

theorem defaulting_eq_some (h : r.defaulting field read b = some a) :
    a = b ∨ ∃ n, r.lookup field = some n ∧ read n = some a := by
  unfold defaulting at h
  split at h
  · exact .inr ⟨_, by assumption, h⟩
  · exact .inl (Option.some.inj h).symm

end Record

theorem exists_of_mem_mapM {α β : Type} {f : α → Option β} {l : List α} {r : List β} {b : β}
    (h : l.mapM f = some r) (mem : b ∈ r) : ∃ a ∈ l, f a = some b := by
  induction l generalizing r with
  | nil =>
    cases h
    cases mem
  | cons a l ih =>
    simp only [List.mapM_cons, Option.bind_eq_bind, Option.bind_eq_some_iff] at h
    obtain ⟨c, own, cs, others, ⟨⟩⟩ := h
    rcases List.mem_cons.1 mem with rfl | mem
    · exact ⟨a, List.mem_cons_self, own⟩
    · obtain ⟨d, there, same⟩ := ih others mem
      exact ⟨d, List.mem_cons_of_mem _ there, same⟩

theorem Node.exists_of_mem_table? {α : Type} {read : Node → Option α} {n : Node}
    {ps : List (String × α)} {p : String × α} (h : n.table? read = some ps) (mem : p ∈ ps) :
    ∃ es, n = .table es ∧ ∃ e ∈ es, read e.2 = some p.2 := by
  cases n with
  | table es =>
    obtain ⟨qs, pairs, rfl⟩ := Option.map_eq_some_iff.1 h
    obtain ⟨e, there, own⟩ := exists_of_mem_mapM pairs (Value.mem_of_mem_members mem)
    simp only [pair?, Option.bind_eq_bind, Option.bind_eq_some_iff] at own
    obtain ⟨k, -, a, value, ⟨⟩⟩ := own
    exact ⟨es, rfl, e, there, value⟩
  | _ => cases h

theorem Node.ordered_table? {α : Type} {read : Node → Option α} {n : Node}
    {ps : List (String × α)} (h : n.table? read = some ps) : Value.Ordered ps := by
  cases n with
  | table es =>
    obtain ⟨qs, -, rfl⟩ := Option.map_eq_some_iff.1 h
    exact Value.ordered_members
  | _ => cases h

theorem Node.lt_of_natBelow? {limit i : Nat} {n : Node} (h : n.natBelow? limit = some i) :
    i < limit := by
  cases n with
  | int j =>
    rw [natBelow?] at h
    split at h
    · cases h
      omega
    · cases h
  | _ => cases h

theorem Node.bounds_of_intIn? {least greatest i : Int} {n : Node}
    (h : n.intIn? least greatest = some i) : least ≤ i ∧ i ≤ greatest := by
  cases n with
  | int j =>
    rw [intIn?] at h
    split at h
    · cases h
      assumption
    · cases h
  | _ => cases h

/-! ### What is written is read back -/

theorem Node.text?_ofValue {s : String} : (Node.ofValue (.text s)).text? = some s := rfl

theorem Node.bool?_ofValue {b : Bool} : (Node.ofValue (.bool b)).bool? = some b := rfl

theorem Node.mapM_ofItems {α : Type} {read : Node → Option α} {write : α → Value} {l : List α}
    (h : ∀ x ∈ l, read (Node.ofValue (write x)) = some x) :
    (Node.ofItems (l.map write)).mapM read = some l := by
  induction l with
  | nil => rfl
  | cons x l ih =>
    obtain ⟨own, others⟩ := List.forall_mem_cons.1 h
    simp [Node.ofItems, own, ih others]

theorem Value.ofTexts_of_ordered {ps : List (String × String)} (h : Ordered ps) :
    ofTexts ps = .object (ps.map fun p => (p.1, .text p.2)) := by
  rw [ofTexts, ofPairs, members_map, h.members_eq]

theorem Node.table?_ofTexts {ps : List (String × String)} (h : Value.Ordered ps) :
    (Node.ofValue (Value.ofTexts ps)).table? Node.text? = some ps := by
  have pairs (ps : List (String × String)) :
      (Node.ofMembers (ps.map fun p => (p.1, .text p.2))).mapM (Node.pair? Node.text?) =
        some ps := by
    have pair {p : String × String} :
        Node.pair? Node.text? (.text p.1, Node.ofValue (.text p.2)) = some p := rfl
    induction ps with
    | nil => rfl
    | cons p ps ih => simp [Node.ofMembers, pair, ih]
  rw [Value.ofTexts_of_ordered h, Node.ofValue, Node.table?, pairs, Option.map_some, h.members_eq]

/-- The text of an object is read back if that of each of its members is, one level down. -/
theorem Json.Legible.ofPairs {ps : List (String × Value)} {depth : Nat}
    (h : ∀ p ∈ ps, Legible .any depth p.2) : Legible .any (depth + 1) (Value.ofPairs ps) :=
  .ofMembers fun p mem => h p (Value.mem_of_mem_members mem)

theorem Json.Legible.ofTexts {ps : List (String × String)} {depth : Nat} :
    Legible .any (depth + 1) (Value.ofTexts ps) := by
  refine .ofPairs fun p mem => ?_
  obtain ⟨q, -, rfl⟩ := List.mem_map.1 mem
  exact .text

theorem Json.Legible.natural {shape : Shape} {depth n : Nat} (h : n < Nat.pow 2 64) :
    Legible shape depth (.int n) := by
  have most : (n : Int) < Int.pow 2 64 := by
    have : ((Nat.pow 2 64 : Nat) : Int) = Int.pow 2 64 := by decide
    omega
  exact .int (Int.le_trans (by decide) (Int.natCast_nonneg n)) most

theorem Node.natBelow?_ofValue {limit n : Nat} :
    (Node.ofValue (.int n)).natBelow? limit = if n < limit then some n else none := by
  simp [Node.ofValue, Node.natBelow?]

theorem Node.nullable?_of_ne {α : Type} {read : Node → Option α} {n : Node} (h : n ≠ .null) :
    n.nullable? read = (read n).map some := by
  cases n with
  | null => exact absurd rfl h
  | _ => rfl

theorem Record.optional_of_lookup {α : Type} {r : Record} {field : String}
    {read : Node → Option α} {write : α → Value} {a : Option α}
    (found : r.lookup field = (a.map write).map Node.ofValue)
    (back : ∀ a, Node.ofValue (write a) ≠ .null ∧ read (Node.ofValue (write a)) = some a) :
    r.optional field read = some a := by
  cases a with
  | none => simp [optional, found]
  | some a =>
    have found : r.lookup field = some (Node.ofValue (write a)) := found
    rw [optional, found]
    simp only [Node.nullable?_of_ne (back a).1, (back a).2, Option.map_some]

/-! ### Records in any order -/

/-- An order for the members of an object, which leaves none of them out. -/
structure Arrangement where
  /-- The members in that order. -/
  arrange : List (String × Value) → List (String × Value)
  perm : ∀ ms, (ms.map Prod.fst).Nodup → (arrange ms).Perm ms

namespace Arrangement

variable {a : Arrangement} {ms : List (String × Value)} {p : String × Value} {fields : List String}
  {shape : Shape} {depth : Nat}

/-- The order in which fields are declared. -/
def declared : Arrangement := ⟨id, fun _ _ => .rfl⟩

/-- The byte order of the keys. -/
def sorted : Arrangement := ⟨Value.members, fun _ => Value.members_perm⟩

theorem mem_arrange (distinct : (ms.map Prod.fst).Nodup) : p ∈ a.arrange ms ↔ p ∈ ms :=
  (a.perm ms distinct).mem_iff

theorem legible_arrange (distinct : (ms.map Prod.fst).Nodup)
    (shallow : (Value.object (a.arrange ms)).nesting ≤ depth)
    (members : ∀ p ∈ ms, ∃ t, shape.field? p.1 = some t ∧
      ∀ d, p.2.nesting ≤ d → Json.Legible t d p.2) :
    Json.Legible shape depth (.object (a.arrange ms)) := by
  obtain ⟨depth, rfl⟩ := Nat.exists_eq_add_of_le' (Nat.le_trans (Nat.le_add_left 1 _) shallow)
  have each := Value.membersNesting_le_iff.1 (Nat.le_of_succ_le_succ shallow)
  refine .object (fun p mem => ?_) fun p mem t field => ?_
  · obtain ⟨t, field, -⟩ := members p ((mem_arrange distinct).1 mem)
    simp [field]
  · obtain ⟨u, same, legible⟩ := members p ((mem_arrange distinct).1 mem)
    obtain rfl := Option.some.inj (field.symm.trans same)
    exact legible depth (each p mem)

theorem lookup_of_mem {α : Type} {ps : List (String × α)} {p : String × α}
    (distinct : (ps.map Prod.fst).Nodup) (mem : p ∈ ps) : ps.lookup p.1 = some p.2 := by
  induction ps with
  | nil => cases mem
  | cons q ps ih =>
    obtain ⟨new, distinct⟩ := List.nodup_cons.1 distinct
    rcases List.mem_cons.1 mem with rfl | mem
    · exact List.lookup_cons_self
    · have other : p.1 ≠ q.1 := fun same => new (same ▸ List.mem_map_of_mem mem)
      rw [List.lookup_cons, beq_eq_false_iff_ne.2 other]
      exact ih distinct mem

theorem gather_ofMembers {aliases : List (String × String)} (distinct : (ms.map Prod.fst).Nodup)
    (known : ∀ p ∈ ms, p.1 ∈ fields ∧ aliases.lookup p.1 = none) :
    Record.gather fields aliases (Node.ofMembers ms) =
      some (ms.map fun p => (p.1, Node.ofValue p.2)) := by
  induction ms with
  | nil => rfl
  | cons p ms ih =>
    obtain ⟨k, v⟩ := p
    obtain ⟨new, distinct⟩ := List.nodup_cons.1 distinct
    obtain ⟨⟨own, unaliased⟩, others⟩ := List.forall_mem_cons.1 known
    have unset : (ms.map fun p => (p.1, Node.ofValue p.2)).lookup k = none := by
      refine List.lookup_eq_none_iff.2 fun q mem => ?_
      obtain ⟨r, there, rfl⟩ := List.mem_map.1 mem
      exact bne_iff_ne.2 fun same => new (List.mem_map.2 ⟨r, there, same.symm⟩)
    simp [Node.ofMembers, Record.gather, ih distinct others, Record.fieldOf, own, unaliased, unset]

theorem lookup_ofMembers {field : String} :
    (ms.map fun p => (p.1, Node.ofValue p.2)).lookup field =
      (ms.lookup field).map Node.ofValue := by
  induction ms with
  | nil => rfl
  | cons p ms ih =>
    rw [List.map_cons, List.lookup_cons, List.lookup_cons, ih]
    split <;> rfl

theorem lookup_arrange (a : Arrangement) (distinct : (ms.map Prod.fst).Nodup) {field : String} :
    (a.arrange ms).lookup field = ms.lookup field := by
  have perm := a.perm ms distinct
  cases found : ms.lookup field with
  | some v =>
    obtain ⟨before, after, split, -⟩ := List.lookup_eq_some_iff.1 found
    have mem : (field, v) ∈ ms := by simp [split]
    exact lookup_of_mem ((perm.map Prod.fst).nodup_iff.2 distinct) (perm.mem_iff.2 mem)
  | none =>
    have unset := List.lookup_eq_none_iff.1 found
    exact List.lookup_eq_none_iff.2 fun p mem => unset p (perm.mem_iff.1 mem)

/-- **The fields of an arranged record are found**, and those that were left out are missing. -/
theorem record?_of_known {aliases : List (String × String)} (a : Arrangement)
    (distinct : (ms.map Prod.fst).Nodup)
    (known : ∀ p ∈ ms, p.1 ∈ fields ∧ aliases.lookup p.1 = none) :
    ∃ r, (Node.ofValue (.object (a.arrange ms))).record? fields aliases = some r ∧
      ∀ field, r.lookup field = (ms.lookup field).map Node.ofValue := by
  have perm := a.perm ms distinct
  have gathered := @gather_ofMembers (a.arrange ms) fields aliases
    ((perm.map Prod.fst).nodup_iff.2 distinct) fun p mem => known p (perm.mem_iff.1 mem)
  refine ⟨_, gathered, fun field => ?_⟩
  rw [lookup_ofMembers, a.lookup_arrange distinct]

/-- **The fields of an arranged record are found.** -/
theorem record?_arrange (a : Arrangement) (distinct : (ms.map Prod.fst).Nodup) :
    ∃ r, (Node.ofValue (.object (a.arrange ms))).record? (ms.map Prod.fst) [] = some r ∧
      ∀ p ∈ ms, r.lookup p.1 = some (Node.ofValue p.2) := by
  obtain ⟨r, record, found⟩ := @record?_of_known ms (ms.map Prod.fst) [] a distinct
    fun p mem => ⟨List.mem_map_of_mem mem, rfl⟩
  exact ⟨r, record, fun p mem => by rw [found, lookup_of_mem distinct mem, Option.map_some]⟩

end Arrangement

end Sidecar
