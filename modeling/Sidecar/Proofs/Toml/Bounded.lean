import Sidecar.Proofs.Node.Bounded
import Sidecar.Toml.Reader

/-!
# TOML documents hold integers of 64 bits only

A table is taken to hold what its tree holds.  All that is ever put into a table is a value that
was read (`Toml.Table.bounded_insert`) or another such table.
-/

namespace Sidecar.Toml

variable {n : Node} {key : String} {path : List String}

namespace Table

variable {t u : Table} {ts us : List Table} {i : Item} {es : List (String × Item)} {dotted : Bool}
  {f : Table → Option Table}

theorem bounded_toNode :
    t.toNode.Bounded ↔ ∀ e ∈ t.entries, (itemNode e.2).Bounded := by
  have nodes (es : List (String × Item)) :
      (∀ e ∈ entryNodes es, e.2.Bounded) ↔ ∀ e ∈ es, (itemNode e.2).Bounded := by
    induction es with
    | nil => simp [entryNodes]
    | cons e es ih => rw [entryNodes, List.forall_mem_cons, List.forall_mem_cons, ih]
  obtain ⟨_, _, es⟩ := t
  rw [toNode, Node.bounded_table_iff, nodes]
  rfl

theorem bounded_tables : (itemNode (.tables ts)).Bounded ↔ ∀ t ∈ ts, t.toNode.Bounded := by
  have nodes : (∀ n ∈ tableNodes ts, n.Bounded) ↔ ∀ t ∈ ts, t.toNode.Bounded := by
    induction ts with
    | nil => simp [tableNodes]
    | cons t ts ih => rw [tableNodes, List.forall_mem_cons, List.forall_mem_cons, ih]
  rw [itemNode, Node.bounded_list_iff, nodes]

theorem bounded_nil {i d : Bool} : (Table.mk i d []).toNode.Bounded :=
  bounded_toNode.2 (List.forall_mem_nil _)

theorem bounded_get? (h : t.toNode.Bounded) (found : t.get? key = some i) :
    (itemNode i).Bounded := by
  obtain ⟨before, after, split, -⟩ := List.lookup_eq_some_iff.1 found
  exact bounded_toNode.1 h (key, i) (by simp [split])

theorem bounded_put (h : t.toNode.Bounded) (item : (itemNode i).Bounded) :
    (t.put key i).toNode.Bounded := by
  rw [bounded_toNode] at h ⊢
  obtain ⟨_, _, es⟩ := t
  unfold put
  split
  · intro e mem
    obtain ⟨d, there, rfl⟩ := List.mem_map.1 mem
    split
    · exact item
    · exact h d there
  · intro e mem
    rcases List.mem_append.1 mem with mem | mem
    · exact h e mem
    · obtain rfl := List.mem_singleton.1 mem
      exact item

theorem bounded_erase (h : t.toNode.Bounded) : (t.erase key).toNode.Bounded := by
  rw [bounded_toNode] at h ⊢
  obtain ⟨_, _, es⟩ := t
  exact fun e mem => h e (List.mem_filter.1 mem).1

/-- A change keeps tables bounded. -/
def Keeps (f : Table → Option Table) : Prop :=
  ∀ ⦃t u : Table⦄, t.toNode.Bounded → f t = some u → u.toNode.Bounded

theorem Keeps.updateLast (h : Keeps f) (tables : ∀ t ∈ ts, t.toNode.Bounded)
    (changed : Table.updateLast f ts = some us) : ∀ t ∈ us, t.toNode.Bounded := by
  induction ts generalizing us with
  | nil => cases changed
  | cons t ts ih =>
    obtain ⟨own, others⟩ := List.forall_mem_cons.1 tables
    cases ts with
    | nil =>
      obtain ⟨u, last, rfl⟩ := Option.map_eq_some_iff.1 changed
      exact List.forall_mem_singleton.2 (h own last)
    | cons _ _ =>
      obtain ⟨us, rest, rfl⟩ := Option.map_eq_some_iff.1 changed
      exact List.forall_mem_cons.2 ⟨own, ih others rest⟩

/-- **A change of a table keeps the tables around it bounded.** -/
theorem Keeps.update (h : Keeps f) : Keeps (Table.update dotted path f) := by
  induction path with
  | nil => exact h
  | cons key path ih =>
    intro t u bounded changed
    rw [Table.update] at changed
    split at changed
    · obtain ⟨v, made, rfl⟩ := Option.map_eq_some_iff.1 changed
      exact bounded_put bounded (ih bounded_nil made)
    · cases changed
    · rename_i found
      obtain ⟨us, last, rfl⟩ := Option.map_eq_some_iff.1 changed
      have tables := bounded_tables.1 (bounded_get? bounded found)
      exact bounded_put bounded (bounded_tables.2 (ih.updateLast tables last))
    · rename_i found
      split at changed
      · cases changed
      · obtain ⟨v, inner, rfl⟩ := Option.map_eq_some_iff.1 changed
        exact bounded_put bounded (ih (bounded_get? bounded found) inner)

theorem bounded_insert (h : t.toNode.Bounded) (value : n.Bounded)
    (inserted : t.insert path key n = some u) : u.toNode.Bounded := by
  refine Keeps.update (fun v w bounded put => ?_) h inserted
  split at put
  · cases put
  split at put
  · cases put
  · cases put
    exact bounded_put bounded value

end Table

/-! ### Documents under construction -/

/-- Nothing in a draft is beyond 64 bits. -/
structure Draft.Bounded (d : Draft) : Prop where
  root : d.root.toNode.Bounded
  current : d.current.toNode.Bounded

namespace Draft

variable {d e : Draft} {t u : Table}

theorem Bounded.finish (h : d.Bounded) (finished : d.finish = some t) : t.toNode.Bounded := by
  unfold Draft.finish at finished
  split at finished
  · cases finished
    exact h.current
  · refine Table.Keeps.update (fun v w bounded put => ?_) h.root finished
    split at put
    · cases put
      exact Table.bounded_put bounded (Table.bounded_tables.2 (by simpa using h.current))
    · rename_i found _
      cases put
      have tables := Table.bounded_tables.1 (Table.bounded_get? bounded found)
      refine Table.bounded_put bounded (Table.bounded_tables.2 fun x mem => ?_)
      rcases List.mem_append.1 mem with mem | mem
      · exact tables x mem
      · exact List.mem_singleton.1 mem ▸ h.current
    · cases put
      exact Table.bounded_put bounded h.current
    · split at put
      · cases put
        exact Table.bounded_put bounded h.current
      · cases put
    · cases put

theorem bounded_lookupPath (h : t.toNode.Bounded)
    (found : header.lookupPath path t = some u) : u.toNode.Bounded := by
  induction path generalizing t with
  | nil =>
    cases found
    exact h
  | cons key path ih =>
    rw [header.lookupPath] at found
    split at found
    · rename_i inner
      exact ih (Table.bounded_get? h inner) found
    · rename_i inner
      obtain ⟨v, last, found⟩ := Option.bind_eq_some_iff.1 found
      have tables := Table.bounded_tables.1 (Table.bounded_get? h inner)
      exact ih (tables v (List.mem_of_getLast? last)) found
    · cases found

theorem Bounded.header (h : d.Bounded) (made : d.header path = some e) : e.Bounded := by
  simp only [Draft.header, Option.bind_eq_bind, Option.bind_eq_some_iff] at made
  obtain ⟨root, finished, way, onWay, place, found, made⟩ := made
  have onWay : way.toNode.Bounded :=
    Table.Keeps.update (fun v w bounded same => Option.some.inj same ▸ bounded) (h.finish finished)
      onWay
  have place := bounded_lookupPath onWay found
  split at made
  · cases made
    exact ⟨onWay, Table.bounded_nil⟩
  · rename_i inner
    have inner : (Table.toNode _).Bounded := Table.bounded_get? place inner
    split at made
    · simp only [Option.bind_eq_some_iff] at made
      obtain ⟨root, erased, ⟨⟩⟩ := made
      refine ⟨Table.Keeps.update (fun v w bounded erased => ?_) onWay erased, ?_⟩
      · cases erased
        exact Table.bounded_erase bounded
      · have entries := Table.bounded_toNode.1 inner
        exact Table.bounded_toNode.2 entries
    · cases made
  · cases made

theorem Bounded.repeatedHeader (h : d.Bounded) (made : d.repeatedHeader path = some e) :
    e.Bounded := by
  simp only [Draft.repeatedHeader, Option.bind_eq_bind, Option.bind_eq_some_iff] at made
  obtain ⟨root, finished, way, onWay, ⟨⟩⟩ := made
  refine ⟨Table.Keeps.update (fun v w bounded same => ?_) (h.finish finished) onWay,
    Table.bounded_nil⟩
  split at same
  · exact Option.some.inj same ▸ bounded
  · exact Option.some.inj same ▸ bounded
  · cases same

theorem Bounded.assign (h : d.Bounded) (value : n.Bounded) (made : d.assign path n = some e) :
    e.Bounded := by
  simp only [Draft.assign, Option.bind_eq_bind, Option.bind_eq_some_iff] at made
  obtain ⟨current, inserted, ⟨⟩⟩ := made
  exact ⟨h.root, Table.bounded_insert h.current value inserted⟩

end Draft

/-! ### Values -/

variable {cs rest : List Char} {i : Int}

theorem bounded_int64? (h : int64? i = some n) : n.Bounded := by
  unfold int64? at h
  split at h
  · rename_i fits
    cases h
    exact .int fits.1 (Int.lt_trans fits.2 (by decide))
  · cases h

theorem bounded_integer? (h : integer? cs = some (n, rest)) : n.Bounded := by
  unfold integer? at h
  simp only at h
  split at h
  all_goals
    simp only [Option.bind_eq_bind, Option.bind_eq_some_iff] at h
    obtain ⟨_, -, _, -, _, fits, ⟨⟩⟩ := h
    exact bounded_int64? fits

theorem bounded_numeric? (h : numeric? cs = some (n, rest)) : n.Bounded := by
  unfold numeric? at h
  split at h
  · cases h
    exact .table (List.forall_mem_singleton.2 .text)
  split at h
  · cases h
  · cases h
    exact .float
  split at h
  · cases h
    exact .float
  · exact bounded_integer? h

theorem eq_of_word {w : String} {m : Node} (h : word w m cs = some (n, rest)) : n = m := by
  unfold word at h
  split at h <;> cases h
  rfl

mutual

/-- What is read holds integers of 64 bits only. -/
theorem bounded_value? : ∀ (fuel : Nat) {depth : Nat} {cs rest : List Char} {n : Node},
    value? fuel depth cs = some (n, rest) → n.Bounded
  | 0, _, _, _, _, h => nomatch h
  | fuel + 1, _, _, _, _, h => by
    simp only [value?] at h
    split at h
    · obtain ⟨_, -, ⟨⟩⟩ := Option.map_eq_some_iff.1 h
      exact .text
    · obtain ⟨_, -, ⟨⟩⟩ := Option.map_eq_some_iff.1 h
      exact .text
    · split at h
      · cases h
      · obtain ⟨_, items, ⟨⟩⟩ := Option.map_eq_some_iff.1 h
        exact .list (bounded_items? fuel items)
    · split at h
      · cases h
      · split at h
        · cases h
          exact .table nofun
        · obtain ⟨_, entries, ⟨⟩⟩ := Option.map_eq_some_iff.1 h
          exact bounded_entries? fuel Table.bounded_nil entries
    · exact eq_of_word h ▸ .bool
    · exact eq_of_word h ▸ .bool
    · exact bounded_numeric? h

theorem bounded_items? : ∀ (fuel : Nat) {depth : Nat} {cs rest : List Char} {ns : List Node},
    items? fuel depth cs = some (ns, rest) → ∀ n ∈ ns, n.Bounded
  | 0, _, _, _, _, h => nomatch h
  | fuel + 1, _, _, _, _, h => by
    simp only [items?, Option.bind_eq_bind, Option.bind_eq_some_iff] at h
    obtain ⟨_, -, h⟩ := h
    split at h
    · cases h
      nofun
    · simp only [Option.bind_eq_some_iff] at h
      obtain ⟨_, own, _, -, h⟩ := h
      split at h
      · simp only [Option.bind_eq_some_iff] at h
        obtain ⟨_, others, ⟨⟩⟩ := h
        exact List.forall_mem_cons.2 ⟨bounded_value? fuel own, bounded_items? fuel others⟩
      · cases h
        exact List.forall_mem_singleton.2 (bounded_value? fuel own)
      · cases h

theorem bounded_entries? : ∀ (fuel : Nat) {depth : Nat} {t u : Table} {cs rest : List Char},
    t.toNode.Bounded → entries? fuel depth t cs = some (u, rest) → u.toNode.Bounded
  | 0, _, _, _, _, _, _, h => nomatch h
  | fuel + 1, _, _, _, _, _, bounded, h => by
    simp only [entries?, Option.bind_eq_bind, Option.bind_eq_some_iff] at h
    obtain ⟨_, -, h⟩ := h
    split at h
    · simp only [Option.bind_eq_some_iff] at h
      obtain ⟨_, own, _, inserted, h⟩ := h
      have more := Table.bounded_insert bounded (bounded_value? fuel own) inserted
      split at h
      · exact bounded_entries? fuel more h
      · cases h
        exact more
      · cases h
    · cases h

end

/-! ### Documents -/

theorem Draft.Bounded.lines? {fuel : Nat} {d e : Draft} (h : d.Bounded)
    (read : lines? fuel d cs = some e) : e.Bounded := by
  induction fuel generalizing d cs with
  | zero => cases read
  | succ fuel ih =>
    simp only [Toml.lines?, Option.bind_eq_bind] at read
    split at read
    · cases read
      exact h
    · simp only [Option.bind_eq_some_iff] at read
      obtain ⟨_, -, read⟩ := read
      exact ih h read
    · simp only [Option.bind_eq_some_iff] at read
      obtain ⟨_, -, read⟩ := read
      split at read
      · simp only [Option.bind_eq_some_iff] at read
        obtain ⟨_, made, _, -, read⟩ := read
        exact ih (h.repeatedHeader made) read
      · cases read
    · simp only [Option.bind_eq_some_iff] at read
      obtain ⟨_, -, read⟩ := read
      split at read
      · simp only [Option.bind_eq_some_iff] at read
        obtain ⟨_, made, _, -, read⟩ := read
        exact ih (h.header made) read
      · cases read
    · split at read
      · exact ih h read
      · simp only [Option.bind_eq_some_iff] at read
        obtain ⟨_, -, read⟩ := read
        split at read
        · simp only [Option.bind_eq_some_iff] at read
          obtain ⟨_, value, _, made, _, -, read⟩ := read
          exact ih (h.assign (bounded_value? _ value) made) read
        · cases read

theorem bounded_tree? {s : String} (h : tree? s = some n) : n.Bounded := by
  simp only [tree?, Option.bind_eq_bind, Option.bind_eq_some_iff] at h
  obtain ⟨d, lines, t, finished, ⟨⟩⟩ := h
  have empty : Draft.empty.Bounded := ⟨Table.bounded_nil, Table.bounded_nil⟩
  exact (empty.lines? lines).finish finished

theorem bounded_trimmed {shape : Shape} (h : n.Bounded) : (n.trimmed shape).Bounded := by
  induction h generalizing shape with
  | null => exact .null
  | bool => exact .bool
  | int least most => exact .int least most
  | float => exact .float
  | text => exact .text
  | @list ns items ih =>
    have trimmed (shapes : List Shape) : ∀ n ∈ Node.trimmedItems shapes ns, n.Bounded := by
      induction ns generalizing shapes with
      | nil => cases shapes <;> nofun
      | cons n ns rest =>
        obtain ⟨own, others⟩ := List.forall_mem_cons.1 items
        cases shapes with
        | nil => nofun
        | cons s shapes =>
          refine List.forall_mem_cons.2 ⟨ih n List.mem_cons_self, rest others ?_ shapes⟩
          exact fun n mem => ih n (List.mem_cons_of_mem _ mem)
    cases shape with
    | record fs => exact .list (trimmed _)
    | _ => exact .list items
  | @table es entries ih =>
    have trimmed : ∀ e ∈ Node.trimmedEntries shape es, e.2.Bounded := by
      induction es with
      | nil => nofun
      | cons e es rest =>
        obtain ⟨own, others⟩ := List.forall_mem_cons.1 entries
        have rest := rest others fun e mem => ih e (List.mem_cons_of_mem _ mem)
        obtain ⟨k, n⟩ := e
        cases k with
        | text k => exact List.forall_mem_cons.2 ⟨ih _ List.mem_cons_self, rest⟩
        | _ => exact List.forall_mem_cons.2 ⟨own, rest⟩
    exact .table trimmed

/-- **A whole text holds integers of 64 bits only.** -/
theorem bounded_read {shape : Shape} {s : String} (h : Toml.read shape s = some n) :
    n.Bounded := by
  obtain ⟨m, tree, rfl⟩ := Option.map_eq_some_iff.1 h
  exact bounded_trimmed (bounded_tree? tree)

end Sidecar.Toml
