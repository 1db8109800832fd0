import Mathlib.Data.List.Forall2
import Mathlib.Data.List.Nodup
import Sidecar.Node
import Sidecar.Proofs.Value.Members

/-!
# Tables that are read

A table is read into members in byte order of their keys; of several entries under one key the last
one counts (`LastUnder`).

* `Value.mem_members_iff` : members that are gathered from pairs are the last ones under their keys;
* `Node.table?_eq_some_iff` : **a table is read exactly if each of its entries is**, and what is
  read are the last entries under the keys.
-/

namespace Sidecar

/-- That an entry is the last one under its key. -/
def LastUnder {κ α : Type} (es : List (κ × α)) (key : κ) (a : α) : Prop :=
  ∃ before after, es = before ++ (key, a) :: after ∧ ∀ e ∈ after, e.1 ≠ key

section

variable {κ α β : Type} {es : List (κ × α)} {e : κ × α} {key : κ} {a : α}

theorem lastUnder_nil : ¬ LastUnder [] key a := by
  rintro ⟨before, after, split, -⟩
  simp at split

theorem lastUnder_cons :
    LastUnder (e :: es) key a ↔ LastUnder es key a ∨ e = (key, a) ∧ ∀ e ∈ es, e.1 ≠ key := by
  constructor
  · rintro ⟨before, after, split, last⟩
    cases before with
    | nil =>
      cases split
      exact .inr ⟨rfl, last⟩
    | cons d before =>
      cases split
      exact .inl ⟨before, after, rfl, last⟩
  · rintro (⟨before, after, rfl, last⟩ | ⟨rfl, last⟩)
    · exact ⟨e :: before, after, rfl, last⟩
    · exact ⟨[], es, rfl, last⟩

theorem mapM_eq_some_iff {f : α → Option β} {l : List α} {r : List β} :
    l.mapM f = some r ↔ List.Forall₂ (fun a b => f a = some b) l r := by
  induction l generalizing r with
  | nil => simp [eq_comm]
  | cons a l ih =>
    simp only [List.mapM_cons, Option.bind_eq_bind, Option.bind_eq_some_iff, ih,
      List.forall₂_cons_left_iff]
    constructor
    · rintro ⟨b, own, bs, others, ⟨⟩⟩
      exact ⟨b, bs, own, others, rfl⟩
    · rintro ⟨b, bs, own, others, rfl⟩
      exact ⟨b, own, bs, others, rfl⟩

theorem exists_mapM_iff {f : α → Option β} {l : List α} :
    (∃ r, l.mapM f = some r) ↔ ∀ a ∈ l, ∃ b, f a = some b := by
  induction l with
  | nil => simp
  | cons a l ih =>
    rw [List.forall_mem_cons, ← ih]
    simp only [mapM_eq_some_iff, List.forall₂_cons_left_iff]
    constructor
    · rintro ⟨_, b, bs, own, others, -⟩
      exact ⟨⟨b, own⟩, bs, others⟩
    · rintro ⟨⟨b, own⟩, bs, others⟩
      exact ⟨b :: bs, b, bs, own, others, rfl⟩

end

/-! ### Members -/

namespace Value

variable {α : Type} {ps qs : List (String × α)} {key : String} {a : α}

theorem lookup_reverse_eq_some_iff : ps.reverse.lookup key = some a ↔ LastUnder ps key a := by
  rw [List.lookup_eq_some_iff]
  constructor
  · rintro ⟨after, before, split, last⟩
    refine ⟨before.reverse, after.reverse, ?_, fun e mem same => ?_⟩
    · rw [← List.reverse_reverse ps, split]
      simp
    · have other := last e (List.mem_reverse.1 mem)
      simp [same] at other
  · rintro ⟨before, after, rfl, last⟩
    refine ⟨after.reverse, before.reverse, by simp, fun e mem => ?_⟩
    exact bne_iff_ne.2 (Ne.symm (last e (List.mem_reverse.1 mem)))

theorem Ordered.nodup (h : Ordered ps) : ps.Nodup := by
  refine List.Pairwise.imp ?_ h
  rintro p _ lt rfl
  exact String.lt_irrefl p.1 lt

theorem Ordered.mem_iff_lookup (h : Ordered ps) : (key, a) ∈ ps ↔ ps.lookup key = some a := by
  induction ps with
  | nil => simp
  | cons p ps ih =>
    obtain ⟨k, b⟩ := p
    obtain ⟨least, tail⟩ := List.pairwise_cons.1 h
    rw [List.mem_cons, ih tail, List.lookup_cons]
    by_cases same : key = k
    · have absent : ps.lookup key ≠ some a := fun found => by
        have lt := least _ ((ih tail).2 found)
        exact String.lt_irrefl key (by rwa [← same] at lt)
      simp [same, same ▸ absent, eq_comm]
    · simp [same, beq_eq_false_iff_ne.2 same]

theorem Ordered.eq_of_mem_iff (h : Ordered ps) (h' : Ordered qs) (same : ∀ p, p ∈ ps ↔ p ∈ qs) :
    ps = qs := by
  refine List.Perm.eq_of_pairwise ?_ h h' ((List.perm_ext_iff_of_nodup h.nodup h'.nodup).2 same)
  intro p q _ _ lt gt
  exact absurd gt (String.lt_asymm lt)

/-- **Gathered members are the last ones under their keys.** -/
theorem mem_members_iff : (key, a) ∈ members ps ↔ LastUnder ps key a := by
  rw [ordered_members.mem_iff_lookup, members_eq_setMembers, lookup_setMembers, List.lookup_nil,
    Option.or_none, lookup_reverse_eq_some_iff]

end Value

/-! ### Tables -/

namespace Node

variable {α : Type} {read : Node → Option α} {n : Node} {es : List (Node × Node)}
  {ps qs : List (String × α)} {e : Node × Node} {q : String × α} {key : String} {a : α}

theorem pair?_eq_some_iff :
    pair? read e = some q ↔ e.1 = .text q.1 ∧ read e.2 = some q.2 := by
  obtain ⟨k, n⟩ := e
  obtain ⟨key, a⟩ := q
  simp only [pair?, Option.bind_eq_bind, Option.bind_eq_some_iff]
  constructor
  · rintro ⟨key, text, a, own, ⟨⟩⟩
    cases k with
    | text s =>
      cases text
      exact ⟨rfl, own⟩
    | _ => cases text
  · rintro ⟨rfl, own⟩
    exact ⟨key, rfl, a, own, rfl⟩

theorem forall_ne_iff (h : List.Forall₂ (fun e q => pair? read e = some q) es qs) :
    (∀ e ∈ es, e.1 ≠ .text key) ↔ ∀ q ∈ qs, q.1 ≠ key := by
  induction h with
  | nil => simp
  | cons own _ ih =>
    rw [List.forall_mem_cons, List.forall_mem_cons, ih, (pair?_eq_some_iff.1 own).1]
    simp

theorem lastUnder_iff (h : List.Forall₂ (fun e q => pair? read e = some q) es qs) :
    (∃ n, LastUnder es (.text key) n ∧ read n = some a) ↔ LastUnder qs key a := by
  induction h with
  | nil => simp [lastUnder_nil]
  | @cons e q es qs own others ih =>
    obtain ⟨text, value⟩ := pair?_eq_some_iff.1 own
    rw [lastUnder_cons, ← ih, ← forall_ne_iff others]
    constructor
    · rintro ⟨n, last, found⟩
      rcases lastUnder_cons.1 last with later | ⟨rfl, only⟩
      · exact .inl ⟨n, later, found⟩
      · refine .inr ⟨Prod.ext ?_ ?_, only⟩
        · exact (Node.text.inj text).symm
        · exact Option.some.inj (value.symm.trans found)
    · rintro (⟨n, later, found⟩ | ⟨rfl, only⟩)
      · exact ⟨n, lastUnder_cons.2 (.inl later), found⟩
      · exact ⟨e.2, lastUnder_cons.2 (.inr ⟨Prod.ext text rfl, only⟩), value⟩

/-- What a table says, given what the trees of its entries say. -/
structure TableSays (Says : Node → α → Prop) (es : List (Node × Node)) (ps : List (String × α)) :
    Prop where
  /-- Each entry says something, also one that does not count. -/
  readable : ∀ e ∈ es, ∃ key a, e.1 = .text key ∧ Says e.2 a
  /-- The keys are in byte order, each of them once. -/
  ordered : Value.Ordered ps
  /-- The last entry under a key counts. -/
  mem_iff : ∀ key a, (key, a) ∈ ps ↔ ∃ n, LastUnder es (.text key) n ∧ Says n a

theorem TableSays.of_mapM (h : es.mapM (pair? read) = some qs) :
    TableSays (fun n a => read n = some a) es (Value.members qs) where
  readable e mem := by
    obtain ⟨q, own⟩ := exists_mapM_iff.1 ⟨qs, h⟩ e mem
    exact ⟨q.1, q.2, pair?_eq_some_iff.1 own⟩
  ordered := Value.ordered_members
  mem_iff key a := by rw [lastUnder_iff (mapM_eq_some_iff.1 h), Value.mem_members_iff]

/-- A table says one thing only. -/
theorem TableSays.unique {Says : Node → α → Prop} (h : TableSays Says es ps)
    (h' : TableSays Says es qs) : ps = qs :=
  h.ordered.eq_of_mem_iff h'.ordered fun (key, a) => by rw [h.mem_iff, h'.mem_iff]

/-- **A table is read exactly if each of its entries is**, and then its last entries count. -/
theorem table?_eq_some_iff :
    (table es).table? read = some ps ↔ TableSays (fun n a => read n = some a) es ps := by
  rw [table?, Option.map_eq_some_iff]
  constructor
  · rintro ⟨qs, pairs, rfl⟩
    exact .of_mapM pairs
  · intro h
    obtain ⟨qs, pairs⟩ : ∃ qs, es.mapM (pair? read) = some qs := by
      refine exists_mapM_iff.2 fun e mem => ?_
      obtain ⟨key, a, own⟩ := h.readable e mem
      exact ⟨(key, a), pair?_eq_some_iff.2 own⟩
    exact ⟨qs, pairs, (TableSays.of_mapM pairs).unique h⟩

end Node

end Sidecar
