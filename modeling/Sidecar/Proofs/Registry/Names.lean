import Mathlib.Data.List.Nodup
import Mathlib.Tactic.ByContra
import Sidecar.Proofs.Registry.Operation

/-!
# The names of a registry

No operation registers a name twice (`Registry.Distinct.perform`), so the entries are exactly those
that are found under their names.  It follows what `Registry.names` lists:

* `Registry.Distinct.mem_names_iff` : the names that have an entry;
* `Registry.Distinct.names_sorted` : each once, in strictly increasing order of their places in the
  order of starts, and of names where these are the same;
* `Registry.names_eq` : this depends on the names and their places only, not on when an entry was
  made.
-/

namespace Sidecar.Registry

variable {r r' : Registry} {name : String} {e : Entry}

/-- Whether no two entries have one name. -/
def Distinct (r : Registry) : Prop := (r.entries.map Prod.fst).Nodup

/-! ### Operations -/

@[simp] theorem entries_cancel? {s : Option Scope} : (r.cancel? s).entries = r.entries := by
  cases s <;> rfl

@[simp] theorem entries_retire : (r.retire e).entries = r.entries :=
  entries_cancel?

theorem distinct_empty : empty.Distinct := List.nodup_nil

theorem Distinct.update (h : r.Distinct) {f : Entry → Entry} : (r.update name f).Distinct := by
  have same : (r.update name f).entries.map Prod.fst = r.entries.map Prod.fst := by
    rw [Registry.update, List.map_map]
    refine List.map_congr_left fun p _ => ?_
    simp only [Function.comp_apply]
    split_ifs <;> rfl
  rw [Distinct, same]
  exact h

theorem Distinct.filter (h : r.Distinct) (p : String × Entry → Bool) :
    ((r.entries.filter p).map Prod.fst).Nodup :=
  List.Nodup.sublist (List.filter_sublist.map _) h

theorem Distinct.put (h : r.Distinct) : (r.put name e).Distinct := by
  refine List.nodup_cons.2 ⟨fun mem => ?_, h.filter _⟩
  obtain ⟨p, hp, heq⟩ := List.mem_map.1 mem
  exact of_decide_eq_true (List.mem_filter.1 hp).2 heq

theorem Distinct.insert (h : r.Distinct) {plugin : PluginId} {bootOrder : Int} :
    (r.insert name plugin bootOrder).Distinct := by
  -- a new scope leaves the entries as they are, and so does it to retire an entry
  have put : ((r.child .root).2.put name (r.newEntry plugin bootOrder)).Distinct :=
    Distinct.put (r := (r.child .root).2) h
  unfold Registry.insert
  simp only
  split
  · rw [Distinct, entries_retire]
    exact put
  · exact put

theorem Distinct.remove (h : r.Distinct) : (r.remove name).Distinct := by
  unfold Registry.remove
  split
  · rw [Distinct, entries_retire]
    exact h.filter _
  · exact h

/-- **No operation registers a name twice.** -/
theorem Distinct.perform (h : r.Distinct) (op : Op) : (r.perform op).Distinct := by
  cases op with
  | insert name plugin order => exact h.insert
  | remove name => exact h.remove
  | beginRun name =>
    change (r.beginRun name).2.Distinct
    unfold Registry.beginRun
    split
    · exact h
    · split_ifs
      · exact h
      · exact Distinct.update (r := (r.child _).2) h
  | endRun => exact h.update
  | markStopped name plugin =>
    change (r.markStopped name plugin).Distinct
    unfold Registry.markStopped
    split
    · exact h
    · split_ifs
      · refine Distinct.update ?_
        rw [Distinct, entries_cancel?]
        exact h
      · exact h
  | storeStatus => exact h.update
  | shutDown => exact h

theorem distinct_after : ∀ ops : List Op, (after ops).Distinct
  | [] => distinct_empty
  | op :: ops => (distinct_after ops).perform op

/-! ### Entries -/

theorem mem_of_get? (h : r.get? name = some e) : (name, e) ∈ r.entries := by
  unfold get? at h
  generalize r.entries = entries at h
  induction entries with
  | nil => cases h
  | cons p es ih =>
    rw [List.lookup_cons] at h
    split at h
    · rename_i heq
      cases h
      rw [beq_iff_eq.1 heq]
      exact List.mem_cons_self
    · exact List.mem_cons_of_mem _ (ih h)

theorem Distinct.get?_of_mem (h : r.Distinct) (mem : (name, e) ∈ r.entries) :
    r.get? name = some e := by
  unfold Distinct at h
  unfold get?
  generalize r.entries = entries at h mem
  induction entries with
  | nil => cases mem
  | cons p es ih =>
    obtain ⟨fresh, rest⟩ := List.nodup_cons.1 h
    rcases List.mem_cons.1 mem with rfl | mem
    · exact List.lookup_cons_self
    · have other : name ≠ p.1 := fun heq => fresh (heq ▸ List.mem_map_of_mem mem)
      rw [List.lookup_cons, beq_eq_false_iff_ne.2 other]
      exact ih rest mem

theorem Distinct.endRun_eq_self (h : r.Distinct) {plugin : PluginId} {state : Lifecycle}
    (gone : ∀ e, r.get? name = some e → e.plugin = plugin → ¬ e.state.isRunning) :
    r.endRun name plugin state = r := by
  have same : (r.endRun name plugin state).entries = r.entries := by
    refine (List.map_congr_left fun p mem => ?_).trans (List.map_id' _)
    split_ifs with own
    · have found : r.get? name = some p.2 := own ▸ h.get?_of_mem mem
      exact Prod.ext rfl (if_neg fun running => gone p.2 found running.1 running.2)
    · rfl
  exact congrArg (fun entries => { r with entries }) same

/-! ### The order of starts -/

/-- Whether one name with its entry comes before another in the order of starts. -/
def Precedes (a b : String × Entry) : Prop :=
  a.2.bootOrder < b.2.bootOrder ∨ a.2.bootOrder = b.2.bootOrder ∧ a.1 < b.1

theorem before_iff {a b : String × Entry} :
    before a b = true ↔
      a.2.bootOrder < b.2.bootOrder ∨ a.2.bootOrder = b.2.bootOrder ∧ a.1 ≤ b.1 := by
  rw [before, Bool.or_eq_true, Bool.and_eq_true, decide_eq_true_iff, beq_iff_eq, Bool.not_eq_true',
    decide_eq_false_iff_not, String.not_lt]

theorem before_trans (a b c : String × Entry) (hab : before a b = true) (hbc : before b c = true) :
    before a c = true := by
  rw [before_iff] at *
  rcases hab with hab | ⟨hab, le⟩ <;> rcases hbc with hbc | ⟨hbc, le'⟩
  · exact .inl (Int.lt_trans hab hbc)
  · exact .inl (hbc ▸ hab)
  · exact .inl (hab ▸ hbc)
  · exact .inr ⟨hab.trans hbc, String.le_trans le le'⟩

theorem before_total (a b : String × Entry) : (before a b || before b a) = true := by
  rw [Bool.or_eq_true, before_iff, before_iff]
  rcases Int.lt_trichotomy a.2.bootOrder b.2.bootOrder with lt | heq | lt
  · exact .inl (.inl lt)
  · rcases String.le_total a.1 b.1 with le | le
    · exact .inl (.inr ⟨heq, le⟩)
    · exact .inr (.inr ⟨heq.symm, le⟩)
  · exact .inr (.inl lt)

theorem names_of_sorted (sorted : r.entries.Pairwise fun a b => before a b = true) :
    r.names = r.entries.map Prod.fst :=
  congrArg (List.map Prod.fst) (List.mergeSort_of_pairwise sorted)

theorem Distinct.names_nodup (h : r.Distinct) : r.names.Nodup :=
  ((List.mergeSort_perm r.entries before).map Prod.fst).nodup_iff.2 h

/-- **What is listed are the names that have an entry.** -/
theorem Distinct.mem_names_iff (h : r.Distinct) :
    name ∈ r.names ↔ ∃ e, r.get? name = some e := by
  rw [names, List.mem_map]
  constructor
  · rintro ⟨⟨n, e⟩, mem, rfl⟩
    exact ⟨e, h.get?_of_mem (List.mem_mergeSort.1 mem)⟩
  · rintro ⟨e, found⟩
    exact ⟨(name, e), List.mem_mergeSort.2 (mem_of_get? found), rfl⟩

/-- **The names are listed in strictly increasing order.** -/
theorem Distinct.names_sorted (h : r.Distinct) :
    r.names.Pairwise fun m n => ∃ e e', r.get? m = some e ∧ r.get? n = some e' ∧
      Precedes (m, e) (n, e') := by
  have sorted := List.pairwise_mergeSort before_trans before_total r.entries
  have distinct : (r.entries.mergeSort before).Pairwise fun a b => a.1 ≠ b.1 :=
    List.pairwise_map.1 h.names_nodup
  rw [names, List.pairwise_map]
  refine (sorted.and distinct).imp_of_mem fun {a b} ha hb ⟨hle, hne⟩ => ?_
  refine ⟨a.2, b.2, h.get?_of_mem (List.mem_mergeSort.1 ha),
    h.get?_of_mem (List.mem_mergeSort.1 hb), ?_⟩
  rcases before_iff.1 hle with lt | ⟨heq, le⟩
  · exact .inl lt
  · refine .inr ⟨heq, ?_⟩
    by_contra hlt
    exact hne (String.le_antisymm le (String.not_lt.1 hlt))

/-- **The names depend on which there are and on their places only.** -/
theorem names_eq (h : r.Distinct) (h' : r'.Distinct)
    (same : ∀ name, (r.get? name).map Entry.bootOrder = (r'.get? name).map Entry.bootOrder) :
    r.names = r'.names := by
  -- both lists are sorted in the same way by what is the same for both
  let place (name : String) : Option Int := (r.get? name).map Entry.bootOrder
  let earlier (m n : String) : Prop :=
    ∃ o o', place m = some o ∧ place n = some o' ∧ (o < o' ∨ o = o' ∧ m < n)
  have sorted : r.names.Pairwise earlier := by
    refine h.names_sorted.imp fun {m n} ⟨e, e', found, found', precedes⟩ => ?_
    exact ⟨e.bootOrder, e'.bootOrder, by simp [place, found], by simp [place, found'], precedes⟩
  have sorted' : r'.names.Pairwise earlier := by
    refine h'.names_sorted.imp fun {m n} ⟨e, e', found, found', precedes⟩ => ?_
    exact ⟨e.bootOrder, e'.bootOrder, by simp [place, same, found],
      by simp [place, same, found'], precedes⟩
  refine List.Perm.eq_of_pairwise ?_ sorted sorted' ?_
  · rintro m n - - ⟨o, o', hm, hn, lt⟩ ⟨p', p, hn', hm', lt'⟩
    cases hm.symm.trans hm'
    cases hn.symm.trans hn'
    rcases lt with lt | ⟨heq, lt⟩ <;> rcases lt' with lt' | ⟨heq', lt'⟩
    · omega
    · omega
    · omega
    · exact absurd lt' (String.lt_asymm lt)
  · rw [List.perm_ext_iff_of_nodup h.names_nodup h'.names_nodup]
    intro name
    rw [h.mem_names_iff, h'.mem_names_iff, ← Option.isSome_iff_exists, ← Option.isSome_iff_exists,
      ← Option.isSome_map (f := Entry.bootOrder), same, Option.isSome_map]

end Sidecar.Registry
