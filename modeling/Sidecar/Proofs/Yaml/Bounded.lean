import Sidecar.Proofs.Node.Bounded
import Sidecar.Yaml.Reader

/-!
# YAML documents hold integers of 64 bits only

A plain scalar that looks like an integer is one if it fits 64 bits, with a sign or without.  If it
does not, it is read as a double or as text, or not at all, but never as a larger integer.
-/

namespace Sidecar.Yaml

variable {s : String} {n : Node} {α β : Type} {x : Read α} {f : α → Read β} {k : Nat} {r : β × Nat}

theorem Number.ofInt_eq_inside {i j : Int} (h : Number.ofInt i = .inside j) :
    -Int.pow 2 63 ≤ j ∧ j < Int.pow 2 64 := by
  unfold Number.ofInt at h
  split at h
  · cases h
    assumption
  · split at h <;> cases h

theorem bounded_of_inside {i : Option Int} {j : Int} (h : i.map Number.ofInt = some (.inside j)) :
    (Node.int j).Bounded := by
  obtain ⟨_, -, inside⟩ := Option.map_eq_some_iff.1 h
  have ⟨least, most⟩ := Number.ofInt_eq_inside inside
  exact .int least most

theorem bounded_byForm (h : byForm s = some n) : n.Bounded := by
  unfold byForm at h
  split at h
  · cases h
    exact .null
  split at h
  · cases h
    exact .bool
  simp only at h
  split at h
  · rename_i inside
    cases h
    exact bounded_of_inside inside
  · cases h
  -- what is no integer of 128 bits is a double or text
  all_goals
    split at h
    · cases h
      exact .text
    · split at h
      · cases h
        exact .float
      · cases h
        exact .text

theorem bounded_denote {tag : Option String} {style : Style} (h : denote tag style s = some n) :
    n.Bounded := by
  unfold denote at h
  split at h
  · split at h
    · exact bounded_byForm h
    · cases h
      exact .text
  split at h
  · cases h
  split at h
  · obtain ⟨_, -, rfl⟩ := Option.map_eq_some_iff.1 h
    exact .bool
  split at h
  · split at h
    · rename_i inside
      cases h
      exact bounded_of_inside inside
    · cases h
  split at h
  · obtain ⟨_, -, rfl⟩ := Option.map_eq_some_iff.1 h
    exact .float
  split at h
  · split at h
    · cases h
      exact .null
    · cases h
  · cases h
    exact .text

theorem bounded_scalarAs {shape : Shape} {tag : Option String} {style : Style}
    (h : scalarAs shape tag style s = some n) : n.Bounded := by
  unfold scalarAs at h
  split at h
  · exact bounded_denote h
  · cases h
    exact .text
  · split at h
    · obtain ⟨_, -, rfl⟩ := Option.map_eq_some_iff.1 h
      exact .bool
    · cases h
  all_goals
    split at h
    · cases h
      exact .table (List.forall_mem_nil _)
    · cases h

theorem Read.bind_eq_some_iff : (x >>= f) k = some r ↔ ∃ p, x k = some p ∧ f p.1 p.2 = some r :=
  Option.bind_eq_some_iff

theorem Read.ofOption_eq_some {o : Option α} {a : α} {l : Nat}
    (h : Read.ofOption o k = some (a, l)) : o = some a := by
  cases o with
  | none => cases h
  | some b =>
    cases h
    rfl

mutual

/-- What is read holds integers of 64 bits only. -/
theorem bounded_readTree (src : Source) : ∀ (fuel : Nat) {depth : Nat} {shape : Shape} {t : Tree}
    {n : Node} {k l : Nat}, readTree src fuel depth shape t k = some (n, l) → n.Bounded
  | 0, _, _, _, _, _, _, h => nomatch h
  | fuel + 1, _, _, _, _, _, _, h => by
    simp only [readTree] at h
    split at h
    · obtain ⟨_, -, read⟩ := Read.bind_eq_some_iff.1 h
      exact bounded_readTree src fuel read
    · exact bounded_scalarAs (Read.ofOption_eq_some h)
    · split at h
      · cases h
      · split at h
        · cases h
        · obtain ⟨_, items, ⟨⟩⟩ := Read.bind_eq_some_iff.1 h
          exact .list (bounded_readItems src fuel items)
    · split at h
      · cases h
      · split at h
        · cases h
        · obtain ⟨_, entries, ⟨⟩⟩ := Read.bind_eq_some_iff.1 h
          exact .table (bounded_readEntries src fuel entries)

theorem bounded_readItems (src : Source) : ∀ (fuel : Nat) {depth : Nat} {ts : List Tree}
    {ns : List Node} {k l : Nat}, readItems src fuel depth ts k = some (ns, l) →
      ∀ n ∈ ns, n.Bounded
  | 0, _, _, _, _, _, h => nomatch h
  | _ + 1, _, [], _, _, _, h => by
    cases h
    nofun
  | fuel + 1, _, _ :: _, _, _, _, h => by
    simp only [readItems, Read.bind_eq_some_iff] at h
    obtain ⟨_, own, _, others, ⟨⟩⟩ := h
    exact List.forall_mem_cons.2 ⟨bounded_readTree src fuel own, bounded_readItems src fuel others⟩

theorem bounded_readEntries (src : Source) : ∀ (fuel : Nat) {depth : Nat} {shape : Shape}
    {ts : List (Tree × Tree)} {es : List (Node × Node)} {k l : Nat},
    readEntries src fuel depth shape ts k = some (es, l) → ∀ e ∈ es, e.2.Bounded
  | 0, _, _, _, _, _, _, h => nomatch h
  | _ + 1, _, _, [], _, _, _, h => by
    cases h
    nofun
  | fuel + 1, depth, shape, (_, t) :: ts, es, _, l, h => by
    -- an entry that is looked at, and those after it
    have entry {s : Shape} {key : Node} {k : Nat}
        (h : (do
          let n ← readTree src fuel depth s t
          return (key, n) :: (← readEntries src fuel depth shape ts) : Read _) k = some (es, l)) :
        ∀ e ∈ es, e.2.Bounded := by
      obtain ⟨_, own, h⟩ := Read.bind_eq_some_iff.1 h
      obtain ⟨_, others, ⟨⟩⟩ := Read.bind_eq_some_iff.1 h
      exact List.forall_mem_cons.2
        ⟨bounded_readTree src fuel own, bounded_readEntries src fuel others⟩
    simp only [readEntries] at h
    split at h
    · obtain ⟨_, ⟨⟩, h⟩ := Read.bind_eq_some_iff.1 h
      obtain ⟨_, -, h⟩ := Read.bind_eq_some_iff.1 h
      exact entry h
    · obtain ⟨_, ⟨⟩, h⟩ := Read.bind_eq_some_iff.1 h
      obtain ⟨_, -, h⟩ := Read.bind_eq_some_iff.1 h
      exact entry h
    · obtain ⟨_, ⟨⟩, h⟩ := Read.bind_eq_some_iff.1 h
      obtain ⟨⟨key, _⟩, -, h⟩ := Read.bind_eq_some_iff.1 h
      cases key with
      | text name =>
        simp only at h
        cases field : shape.field? name with
        | some _ =>
          simp only [field] at h
          exact entry h
        | none =>
          simp only [field] at h
          exact bounded_readEntries src fuel h
      | _ => exact bounded_readEntries src fuel h

end

/-- **A whole text holds integers of 64 bits only.** -/
theorem bounded_read {shape : Shape} (h : Yaml.read shape s = some n) : n.Bounded := by
  unfold Yaml.read at h
  split at h
  · cases h
  · split at h
    · cases h
      exact .null
    · cases h
      exact .table nofun
    · cases h
      exact .table nofun
    · cases h
    · cases h
  · obtain ⟨_, read, rfl⟩ := Option.map_eq_some_iff.1 h
    exact bounded_readTree _ _ read

end Sidecar.Yaml
