import Sidecar.Plugin.Basic
import Sidecar.Scope

/-!
# The registry of plugins

One entry per name: which plugin instance has the name, the state of its life, the status it last
gave, and two scopes.  The registration scope lasts as long as the entry, the run scope, under it,
as long as the current run.

An entry that is replaced or removed is retired: both its scopes are cancelled.  Whoever records
something about an instance names it, and nothing is recorded once the name belongs to another.

The lemmas `get?_insert`, `get?_remove` and their like say what each operation does to the entries
as they are looked up.
-/

namespace Sidecar

/-- A plugin instance, by its number. -/
abbrev PluginId := Nat

/-- What is known of a registered plugin. -/
structure Entry where
  plugin : PluginId
  /-- Its place in the order of starts. -/
  bootOrder : Int
  state : Lifecycle
  /-- The status it last gave. -/
  status : Option PluginStatus
  /-- Cancelled when the entry is replaced or removed. -/
  registration : Scope
  /-- Cancelled when the current run is stopped. -/
  run : Option Scope
  deriving DecidableEq, Inhabited

/-- The registered plugins, and all scopes. -/
structure Registry where
  entries : List (String × Entry)
  scopes : Scopes
  deriving DecidableEq, Inhabited

namespace Registry

/-- No plugins. -/
def empty : Registry := { entries := [], scopes := .empty }

/-- The entry of a name. -/
def get? (r : Registry) (name : String) : Option Entry := r.entries.lookup name

/-- Put an entry in the place of another of the name, if there is one. -/
def put (r : Registry) (name : String) (e : Entry) : Registry :=
  { r with entries := (name, e) :: r.entries.filter fun p => p.1 ≠ name }

/-- Change the entry of a name. -/
def update (r : Registry) (name : String) (f : Entry → Entry) : Registry :=
  { r with entries := r.entries.map fun p => if p.1 = name then (p.1, f p.2) else p }

/-- Cancel a scope. -/
def cancel (r : Registry) (s : Scope) : Registry := { r with scopes := r.scopes.cancel s }

/-- Cancel a scope, if there is one. -/
def cancel? (r : Registry) : Option Scope → Registry
  | some s => r.cancel s
  | none => r

/-- Cancel the scopes of an entry. -/
def retire (r : Registry) (e : Entry) : Registry := (r.cancel? e.run).cancel e.registration

/-- A new scope. -/
def child (r : Registry) (parent : Scope) : Scope × Registry :=
  let (s, scopes) := r.scopes.child parent
  (s, { r with scopes })

/-- Register a plugin, which retires the entry that had the name. -/
def insert (r : Registry) (name : String) (plugin : PluginId) (bootOrder : Int) : Registry :=
  let (registration, r) := r.child .root
  let old := r.get? name
  let r := r.put name {
    plugin, bootOrder, state := .bound, status := none, registration, run := none }
  match old with
  | some e => r.retire e
  | none => r

/-- Take out an entry and retire it. -/
def remove (r : Registry) (name : String) : Registry :=
  match r.get? name with
  | some e => { r with entries := r.entries.filter fun p => p.1 ≠ name }.retire e
  | none => r

/-- Whether one entry comes before another, or at the same place: by boot order, then by name. -/
def before (a b : String × Entry) : Bool :=
  a.2.bootOrder < b.2.bootOrder ||
    (a.2.bootOrder == b.2.bootOrder && !decide (b.1 < a.1))

/-- The names in the order of starts. -/
def names (r : Registry) : List String := (r.entries.mergeSort before).map Prod.fst

/-- The state of a plugin. -/
def state? (r : Registry) (name : String) : Option Lifecycle := (r.get? name).map Entry.state

/-- Begin a run of a plugin unless it runs: which instance, and the scope of the run. -/
def beginRun (r : Registry) (name : String) : Option (PluginId × Scope) × Registry :=
  match r.get? name with
  | none => (none, r)
  | some e =>
    if e.state.isRunning then (none, r)
    else
      let (run, r) := r.child e.registration
      (some (e.plugin, run), r.update name fun e => { e with state := .running, run := some run })

/-- Record that a run of an instance has ended. -/
def endRun (r : Registry) (name : String) (plugin : PluginId) (state : Lifecycle) : Registry :=
  r.update name fun e =>
    if e.plugin = plugin ∧ e.state.isRunning then { e with state, run := none } else e

/-- Record that an instance was stopped, which ends its run. -/
def markStopped (r : Registry) (name : String) (plugin : PluginId) : Registry :=
  match r.get? name with
  | none => r
  | some e =>
    if e.plugin = plugin then
      (r.cancel? e.run).update name fun e => { e with state := .stopped, run := none }
    else r

/-- The status that a plugin last gave. -/
def cachedStatus (r : Registry) (name : String) : Option PluginStatus :=
  (r.get? name).bind Entry.status

/-- Record the status that an instance gave. -/
def storeStatus (r : Registry) (name : String) (plugin : PluginId) (status : PluginStatus) :
    Registry :=
  r.update name fun e => if e.plugin = plugin then { e with status := some status } else e

/-! ### What is found under a name -/

variable {r : Registry} {name other : String}

@[simp] theorem get?_empty : empty.get? name = none := rfl

@[simp] theorem get?_cancel {s : Scope} : (r.cancel s).get? name = r.get? name := rfl

@[simp] theorem get?_cancel? {s : Option Scope} : (r.cancel? s).get? name = r.get? name := by
  cases s <;> rfl

@[simp] theorem get?_retire {e : Entry} : (r.retire e).get? name = r.get? name := by
  simp [retire]

@[simp] theorem get?_child {parent : Scope} : (r.child parent).2.get? name = r.get? name := rfl

theorem lookup_filter_ne (es : List (String × Entry)) :
    (es.filter fun p => p.1 ≠ name).lookup other =
      if other = name then none else es.lookup other := by
  induction es with
  | nil => simp
  | cons p es ih =>
    obtain ⟨k, e⟩ := p
    rw [List.filter_cons]
    by_cases ho : other = k
    · subst ho
      by_cases hn : other = name
      · rw [if_neg (by simp [hn]), ih, if_pos hn, if_pos hn]
      · rw [if_pos (by simp [hn]), if_neg hn, List.lookup_cons_self, List.lookup_cons_self]
    · have hb := beq_eq_false_iff_ne.2 ho
      have rest : ((k, e) :: es).lookup other = es.lookup other := by rw [List.lookup_cons, hb]
      rw [rest]
      split
      · rw [List.lookup_cons, hb, ih]
      · exact ih

theorem get?_put {e : Entry} :
    (r.put name e).get? other = if other = name then some e else r.get? other := by
  unfold get? put
  by_cases h : other = name
  · rw [h, if_pos rfl, List.lookup_cons_self]
  · rw [if_neg h, List.lookup_cons, beq_eq_false_iff_ne.2 h, lookup_filter_ne, if_neg h]

theorem get?_update {f : Entry → Entry} :
    (r.update name f).get? other =
      if other = name then (r.get? other).map f else r.get? other := by
  unfold get? update
  induction r.entries with
  | nil => simp
  | cons p es ih =>
    obtain ⟨k, e⟩ := p
    rw [List.map_cons]
    by_cases ho : other = k
    · subst ho
      by_cases hn : other = name
      · rw [if_pos hn, if_pos hn, List.lookup_cons_self, List.lookup_cons_self, Option.map_some]
      · rw [if_neg hn, if_neg hn, List.lookup_cons_self, List.lookup_cons_self]
    · have hb := beq_eq_false_iff_ne.2 ho
      have rest : ((k, e) :: es).lookup other = es.lookup other := by rw [List.lookup_cons, hb]
      rw [rest, ← ih]
      split <;> rw [List.lookup_cons, hb]

/-- Registering a plugin changes the entry of its name only. -/
theorem get?_insert {plugin : PluginId} {bootOrder : Int} :
    (r.insert name plugin bootOrder).get? other =
      if other = name then
        some {
          plugin, bootOrder, state := .bound, status := none,
          registration := (r.child .root).1, run := none }
      else r.get? other := by
  unfold insert
  simp only
  split <;> simp [get?_put]

/-- Removing a plugin changes the entry of its name only. -/
theorem get?_remove :
    (r.remove name).get? other = if other = name then none else r.get? other := by
  unfold remove
  split
  · simp only [get?_retire]
    exact lookup_filter_ne r.entries
  · rename_i h
    by_cases ho : other = name
    · simp [ho, h]
    · simp [ho]

end Registry

end Sidecar
