import Sidecar.Proofs.Value.WellFormed

/-!
# Trees with integers of 64 bits

A value that is read from a tree with integers of 64 bits holds no others either, nor a double that is
not finite (`Node.Bounded.sound`), and every tree that is read from a JSON text is such a tree
(`Json.bounded_read`).
-/

namespace Sidecar

namespace Node

variable {n : Node} {ns : List Node} {es : List (Node × Node)} {v : Value} {vs : List Value}
  {ps : List (String × Value)}

/-- All integers of a tree fit 64 bits, with a sign or without. -/
inductive Bounded : Node → Prop
  | null : Bounded .null
  | bool {b : Bool} : Bounded (.bool b)
  | int {i : Int} (least : -Int.pow 2 63 ≤ i) (most : i < Int.pow 2 64) : Bounded (.int i)
  | float {x : Binary64} : Bounded (.float x)
  | text {s : String} : Bounded (.text s)
  | list {ns : List Node} (items : ∀ n ∈ ns, Bounded n) : Bounded (.list ns)
  | table {es : List (Node × Node)} (entries : ∀ e ∈ es, Bounded e.2) : Bounded (.table es)

theorem bounded_list_iff : (Node.list ns).Bounded ↔ ∀ n ∈ ns, n.Bounded := by
  refine ⟨fun h => ?_, .list⟩
  cases h
  assumption

theorem bounded_table_iff : (Node.table es).Bounded ↔ ∀ e ∈ es, e.2.Bounded := by
  refine ⟨fun h => ?_, .table⟩
  cases h
  assumption

theorem exists_of_mem_itemValues? (h : itemValues? ns = some vs) (mem : v ∈ vs) :
    ∃ n ∈ ns, n.toValue? = some v := by
  induction ns generalizing vs with
  | nil =>
    cases h
    cases mem
  | cons n ns ih =>
    simp only [itemValues?, Option.bind_eq_bind, Option.bind_eq_some_iff] at h
    obtain ⟨w, own, ws, others, ⟨⟩⟩ := h
    rcases List.mem_cons.1 mem with rfl | mem
    · exact ⟨n, List.mem_cons_self, own⟩
    · obtain ⟨m, there, read⟩ := ih others mem
      exact ⟨m, List.mem_cons_of_mem _ there, read⟩

theorem exists_of_mem_entryValues? {p : String × Value} (h : entryValues? es = some ps)
    (mem : p ∈ ps) : ∃ e ∈ es, e.2.toValue? = some p.2 := by
  induction es generalizing ps with
  | nil =>
    cases h
    cases mem
  | cons e es ih =>
    obtain ⟨k, n⟩ := e
    cases k with
    | text k =>
      simp only [entryValues?, Option.bind_eq_bind, Option.bind_eq_some_iff] at h
      obtain ⟨w, own, ws, others, ⟨⟩⟩ := h
      rcases List.mem_cons.1 mem with rfl | mem
      · exact ⟨_, List.mem_cons_self, own⟩
      · obtain ⟨m, there, read⟩ := ih others mem
        exact ⟨m, List.mem_cons_of_mem _ there, read⟩
    | _ => cases h

/-- **What is read from a tree fits 64 bits and is finite.** -/
theorem Bounded.sound (h : Bounded n) (read : n.toValue? = some v) : v.Sound := by
  induction h generalizing v with
  | null =>
    cases read
    exact .null
  | bool =>
    cases read
    exact .bool
  | int least most =>
    cases read
    exact .int least most
  | @float x =>
    cases read
    unfold Value.ofFloat
    split
    · exact .float ‹_›
    · exact .null
  | text =>
    cases read
    exact .text
  | list items ih =>
    rw [toValue?, Option.map_eq_some_iff] at read
    obtain ⟨vs, items', rfl⟩ := read
    refine .list fun v mem => ?_
    obtain ⟨n, there, own⟩ := exists_of_mem_itemValues? items' mem
    exact ih n there own
  | table entries ih =>
    rw [toValue?, Option.map_eq_some_iff] at read
    obtain ⟨ps, entries', rfl⟩ := read
    refine .object Value.ordered_members fun p mem => ?_
    obtain ⟨e, there, own⟩ := exists_of_mem_entryValues? entries' (Value.mem_of_mem_members mem)
    exact ih e there own

theorem Bounded.wellFormed (h : Bounded n) (read : n.toValue? = some v) : v.WellFormed :=
  (h.sound read).wellFormed

end Node

namespace Json

variable {cs rest : List Char} {n : Node} {ns : List Node} {es : List (Node × Node)}
  {fuel depth : Nat} {shape : Shape} {shapes : List Shape}

theorem bounded_node? {m : Numeral} (h : m.node? = some n) : n.Bounded := by
  have float (h : m.float?.map Node.float = some n) : n.Bounded := by
    obtain ⟨x, -, rfl⟩ := Option.map_eq_some_iff.1 h
    exact .float
  have least : -Int.pow 2 63 = -9223372036854775808 := by decide
  have most : Int.pow 2 64 = 18446744073709551616 := by decide
  unfold Numeral.node? at h
  split at h
  · simp only at h
    split at h
    · rename_i small
      have : maxSignificand = 18446744073709551615 := by decide
      cases h
      exact .int (by omega) (by omega)
    · split at h
      · rename_i small
        have : Nat.pow 2 63 = 9223372036854775808 := by decide
        cases h
        exact .int (by omega) (by omega)
      · exact float h
  · exact float h

theorem bounded_readScalar (h : readScalar cs = some (n, rest)) : n.Bounded := by
  unfold readScalar at h
  split at h
  · obtain ⟨_, -, ⟨⟩⟩ := Option.map_eq_some_iff.1 h
    exact .null
  · obtain ⟨_, -, ⟨⟩⟩ := Option.map_eq_some_iff.1 h
    exact .bool
  · obtain ⟨_, -, ⟨⟩⟩ := Option.map_eq_some_iff.1 h
    exact .bool
  · simp only [Option.bind_eq_bind, Option.bind_eq_some_iff] at h
    obtain ⟨_, -, _, number, ⟨⟩⟩ := h
    exact bounded_node? number

mutual

/-- What is read holds integers of 64 bits only. -/
theorem bounded_readValue : ∀ (fuel : Nat) {depth : Nat} {shape : Shape} {cs rest : List Char}
    {n : Node}, readValue fuel depth shape cs = some (n, rest) → n.Bounded
  | 0, _, _, _, _, _, h => nomatch h
  | fuel + 1, _, _, _, _, _, h => by
    simp only [readValue] at h
    split at h
    · obtain ⟨_, -, ⟨⟩⟩ := Option.map_eq_some_iff.1 h
      exact .text
    · split at h
      · cases h
      · split at h
        · cases h
          exact .list nofun
        · obtain ⟨_, items, ⟨⟩⟩ := Option.map_eq_some_iff.1 h
          exact .list (bounded_readItems fuel items)
    · split at h
      · cases h
      · split at h
        · cases h
          exact .table nofun
        · obtain ⟨_, members, ⟨⟩⟩ := Option.map_eq_some_iff.1 h
          exact .table (bounded_readMembers fuel members)
    · exact bounded_readScalar h

theorem bounded_readItems : ∀ (fuel : Nat) {depth : Nat} {shapes : List Shape}
    {cs rest : List Char} {ns : List Node},
    readItems fuel depth shapes cs = some (ns, rest) → ∀ n ∈ ns, n.Bounded
  | 0, _, _, _, _, _, h => nomatch h
  | fuel + 1, _, _, _, _, _, h => by
    simp only [readItems] at h
    split at h
    · cases h
    · rename_i own
      split at h
      · obtain ⟨_, others, ⟨⟩⟩ := Option.map_eq_some_iff.1 h
        exact List.forall_mem_cons.2 ⟨bounded_readValue fuel own, bounded_readItems fuel others⟩
      · cases h
        exact List.forall_mem_singleton.2 (bounded_readValue fuel own)
      · cases h

theorem bounded_readMembers : ∀ (fuel : Nat) {depth : Nat} {shape : Shape}
    {cs rest : List Char} {es : List (Node × Node)},
    readMembers fuel depth shape cs = some (es, rest) → ∀ e ∈ es, e.2.Bounded
  | 0, _, _, _, _, _, h => nomatch h
  | fuel + 1, _, _, _, _, _, h => by
    simp only [readMembers] at h
    split at h
    case h_2 => cases h
    split at h
    · cases h
    split at h
    case h_2 => cases h
    split at h
    · split at h
      · cases h
      · rename_i own
        split at h
        · obtain ⟨_, others, ⟨⟩⟩ := Option.map_eq_some_iff.1 h
          exact List.forall_mem_cons.2 ⟨bounded_readValue fuel own, bounded_readMembers fuel others⟩
        · cases h
          exact List.forall_mem_singleton.2 (bounded_readValue fuel own)
        · cases h
    -- what is not looked at is left out
    · split at h
      · cases h
      · split at h
        · exact bounded_readMembers fuel h
        · cases h
          nofun
        · cases h

end

/-- **A whole text holds integers of 64 bits only.** -/
theorem bounded_read {s : String} (h : Json.read shape s = some n) : n.Bounded := by
  simp only [Json.read] at h
  split at h
  · rename_i value
    split at h
    · cases h
      exact bounded_readValue _ value
    · cases h
  · cases h

end Json

end Sidecar
