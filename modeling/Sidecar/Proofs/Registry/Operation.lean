import Mathlib.Tactic.SplitIfs
import Mathlib.Tactic.Tauto
import Sidecar.Host.Registry

/-!
# Operations on the registry

`Registry.Op` lists the operations that change the registry, `Registry.perform` carries one out and
`Registry.after` a whole sequence of them, the newest first.

What an operation does is said once, in two parts:

* `was_of_get?_perform` : what the entry of a name was before, if there is one afterwards, and
  `get?_perform_of_stays` : that there is one unless it was replaced;
* `isCancelled_perform` : which scopes are cancelled afterwards, `Registry.cancels` being those that
  the operation cancels.
-/

namespace Sidecar

theorem Scopes.next_cancel {t : Scopes} {s : Scope} : (t.cancel s).next = t.next := by
  unfold Scopes.cancel
  split_ifs <;> rfl

namespace Registry

/-- The operations that change the registry. -/
inductive Op where
  /-- Register an instance. -/
  | insert (name : String) (plugin : PluginId) (bootOrder : Int)
  /-- Take out the entry of a name. -/
  | remove (name : String)
  /-- Begin a run. -/
  | beginRun (name : String)
  /-- Record that a run has ended, and in what state, which is not that of a running plugin. -/
  | endRun (name : String) (plugin : PluginId) (state : Lifecycle)
    (halted : state.isRunning = false)
  /-- Record that an instance was stopped. -/
  | markStopped (name : String) (plugin : PluginId)
  /-- Record the status that an instance gave. -/
  | storeStatus (name : String) (plugin : PluginId) (status : PluginStatus)
  /-- Cancel the scope above all others. -/
  | shutDown
  deriving DecidableEq

/-- Carry out an operation. -/
def perform (r : Registry) : Op → Registry
  | .insert name plugin order => r.insert name plugin order
  | .remove name => r.remove name
  | .beginRun name => (r.beginRun name).2
  | .endRun name plugin state _ => r.endRun name plugin state
  | .markStopped name plugin => r.markStopped name plugin
  | .storeStatus name plugin status => r.storeStatus name plugin status
  | .shutDown => r.cancel .root

/-- The registry after some operations, the newest first. -/
def after : List Op → Registry
  | [] => .empty
  | op :: ops => (after ops).perform op

/-- Whether a scope is cancelled. -/
def isCancelled (r : Registry) (s : Scope) : Bool := r.scopes.isCancelled s

/-- Whether an operation puts another entry, or none, in the place of that of a name. -/
def Op.Replaces (name : String) : Op → Prop
  | .insert other _ _ | .remove other => other = name
  | .beginRun _ | .endRun .. | .markStopped .. | .storeStatus .. | .shutDown => False

/-- The entry of a plugin that was just registered. -/
def newEntry (r : Registry) (plugin : PluginId) (bootOrder : Int) : Entry where
  plugin
  bootOrder
  state := .bound
  status := none
  registration := (r.child .root).1
  run := none

/-- The scopes of an entry. -/
def scopesOf (e : Entry) : List Scope := e.run.toList ++ [e.registration]

/-- The scopes that an operation cancels. -/
def cancels (r : Registry) : Op → List Scope
  | .insert name _ _ | .remove name => (r.get? name).toList.flatMap scopesOf
  | .markStopped name plugin =>
    (r.get? name).toList.flatMap fun e => if e.plugin = plugin then e.run.toList else []
  | .shutDown => [.root]
  | .beginRun _ | .endRun .. | .storeStatus .. => []

variable {r : Registry} {name other : String}

/-! ### Entries -/

theorem get?_perform_insert {plugin : PluginId} {bootOrder : Int} :
    (r.perform (.insert name plugin bootOrder)).get? other =
      if other = name then some (r.newEntry plugin bootOrder) else r.get? other :=
  get?_insert

theorem get?_perform_remove :
    (r.perform (.remove name)).get? other = if other = name then none else r.get? other :=
  get?_remove

theorem beginRun_eq_some_iff {plugin : PluginId} {run : Scope} :
    (r.beginRun name).1 = some (plugin, run) ↔
      ∃ e, r.get? name = some e ∧ e.state.isRunning = false ∧ e.plugin = plugin ∧
        run = (r.child e.registration).1 := by
  unfold beginRun
  cases he : r.get? name with
  | none => simp
  | some e =>
    cases hr : e.state.isRunning
    · simp only [hr, Bool.false_eq_true, ↓reduceIte, Option.some.injEq, Prod.mk.injEq,
        exists_eq_left', true_and]
      exact and_congr_right fun _ => eq_comm
    · simp [hr]

theorem get?_perform_beginRun :
    (r.perform (.beginRun name)).get? other =
      if other = name then
        (r.get? other).map fun e =>
          if e.state.isRunning then e
          else { e with state := .running, run := some (r.child e.registration).1 }
      else r.get? other := by
  change (r.beginRun name).2.get? other = _
  unfold beginRun
  cases he : r.get? name with
  | none =>
    by_cases h : other = name
    · simp [h, he]
    · simp [h]
  | some e =>
    cases hr : e.state.isRunning
    · by_cases h : other = name
      · subst h; simp [hr, get?_update, he]
      · simp [hr, get?_update, h]
    · by_cases h : other = name
      · simp [h, he, hr]
      · simp [hr, h]

theorem get?_perform_endRun {plugin : PluginId} {state : Lifecycle}
    {halted : state.isRunning = false} :
    (r.perform (.endRun name plugin state halted)).get? other =
      if other = name then
        (r.get? other).map fun e =>
          if e.plugin = plugin ∧ e.state.isRunning then { e with state, run := none } else e
      else r.get? other :=
  get?_update

theorem get?_perform_markStopped {plugin : PluginId} :
    (r.perform (.markStopped name plugin)).get? other =
      if other = name then
        (r.get? other).map fun e =>
          if e.plugin = plugin then { e with state := .stopped, run := none } else e
      else r.get? other := by
  change (r.markStopped name plugin).get? other = _
  unfold markStopped
  cases he : r.get? name with
  | none =>
    by_cases h : other = name
    · simp [h, he]
    · simp [h]
  | some e =>
    by_cases h : other = name
    · subst h
      by_cases hp : e.plugin = plugin
      · simp [hp, get?_update, he]
      · simp [hp, he]
    · by_cases hp : e.plugin = plugin
      · simp [hp, get?_update, h]
      · simp [hp, h]

theorem get?_perform_storeStatus {plugin : PluginId} {status : PluginStatus} :
    (r.perform (.storeStatus name plugin status)).get? other =
      if other = name then
        (r.get? other).map fun e =>
          if e.plugin = plugin then { e with status := some status } else e
      else r.get? other :=
  get?_update

/-- What the entry of a name may have been before an operation after which it is `e`. -/
inductive Was (r : Registry) (name : String) : Op → Entry → Prop
  /-- The entry is the same. -/
  | same {op : Op} {e : Entry} (found : r.get? name = some e) (stays : ¬ op.Replaces name) :
      Was r name op e
  /-- The plugin was just registered. -/
  | inserted {plugin : PluginId} {bootOrder : Int} :
      Was r name (.insert name plugin bootOrder) (r.newEntry plugin bootOrder)
  /-- A run begins. -/
  | launched {e : Entry} (found : r.get? name = some e) (idle : e.state.isRunning = false) :
      Was r name (.beginRun name)
        { e with state := .running, run := some (r.child e.registration).1 }
  /-- The run has ended. -/
  | ended {e : Entry} {state : Lifecycle} {halted : state.isRunning = false}
      (found : r.get? name = some e) (busy : e.state.isRunning = true) :
      Was r name (.endRun name e.plugin state halted) { e with state, run := none }
  /-- The plugin was stopped. -/
  | stopped {e : Entry} (found : r.get? name = some e) :
      Was r name (.markStopped name e.plugin) { e with state := .stopped, run := none }
  /-- The plugin gave a status. -/
  | polled {e : Entry} {status : PluginStatus} (found : r.get? name = some e) :
      Was r name (.storeStatus name e.plugin status) { e with status := some status }

/-- **What an operation does to the entry of a name.** -/
theorem was_of_get?_perform {op : Op} {e : Entry} (h : (r.perform op).get? name = some e) :
    Was r name op e := by
  cases op with
  | insert n p o =>
    rw [get?_perform_insert] at h
    split_ifs at h with hn
    · cases h; subst hn; exact .inserted
    · exact .same h (Ne.symm hn)
  | remove n =>
    rw [get?_perform_remove] at h
    split_ifs at h with hn
    exact .same h (Ne.symm hn)
  | beginRun n =>
    rw [get?_perform_beginRun] at h
    split_ifs at h with hn
    · subst hn
      obtain ⟨old, found, rfl⟩ := Option.map_eq_some_iff.1 h
      split_ifs with hr
      · exact .same found id
      · exact .launched found (by simpa using hr)
    · exact .same h id
  | endRun n p state halted =>
    rw [get?_perform_endRun] at h
    split_ifs at h with hn
    · subst hn
      obtain ⟨old, found, rfl⟩ := Option.map_eq_some_iff.1 h
      split_ifs with hp
      · obtain ⟨rfl, busy⟩ := hp
        exact .ended found busy
      · exact .same found id
    · exact .same h id
  | markStopped n p =>
    rw [get?_perform_markStopped] at h
    split_ifs at h with hn
    · subst hn
      obtain ⟨old, found, rfl⟩ := Option.map_eq_some_iff.1 h
      split_ifs with hp
      · subst hp; exact .stopped found
      · exact .same found id
    · exact .same h id
  | storeStatus n p status =>
    rw [get?_perform_storeStatus] at h
    split_ifs at h with hn
    · subst hn
      obtain ⟨old, found, rfl⟩ := Option.map_eq_some_iff.1 h
      split_ifs with hp
      · subst hp; exact .polled found
      · exact .same found id
    · exact .same h id
  | shutDown => exact .same h id

/-- An entry keeps its instance and its registration as long as it is in its place. -/
theorem Was.registration {op : Op} {e : Entry} (h : Was r name op e) :
    (∃ old, r.get? name = some old ∧ old.registration = e.registration ∧
        old.plugin = e.plugin ∧ ¬ op.Replaces name) ∨
      ∃ plugin order, op = .insert name plugin order ∧
        e.registration = (r.child .root).1 := by
  cases h with
  | same found stays => exact .inl ⟨e, found, rfl, rfl, stays⟩
  | inserted => exact .inr ⟨_, _, rfl, rfl⟩
  | launched found => exact .inl ⟨_, found, rfl, rfl, id⟩
  | ended found => exact .inl ⟨_, found, rfl, rfl, id⟩
  | stopped found => exact .inl ⟨_, found, rfl, rfl, id⟩
  | polled found => exact .inl ⟨_, found, rfl, rfl, id⟩

/-- An entry stays in its place, with its instance and its registration, until it is replaced. -/
theorem get?_perform_of_stays {op : Op} {e : Entry} (found : r.get? name = some e)
    (stays : ¬ op.Replaces name) :
    ∃ e', (r.perform op).get? name = some e' ∧ e'.plugin = e.plugin ∧
      e'.registration = e.registration := by
  cases op with
  | insert n p o =>
    refine ⟨e, ?_, rfl, rfl⟩
    rw [get?_perform_insert, if_neg (Ne.symm stays), found]
  | remove n =>
    refine ⟨e, ?_, rfl, rfl⟩
    rw [get?_perform_remove, if_neg (Ne.symm stays), found]
  | beginRun n =>
    rw [get?_perform_beginRun, found, Option.map_some]
    split_ifs <;> exact ⟨_, rfl, rfl, rfl⟩
  | endRun n p state halted =>
    rw [get?_perform_endRun, found, Option.map_some]
    split_ifs <;> exact ⟨_, rfl, rfl, rfl⟩
  | markStopped n p =>
    rw [get?_perform_markStopped, found, Option.map_some]
    split_ifs <;> exact ⟨_, rfl, rfl, rfl⟩
  | storeStatus n p status =>
    rw [get?_perform_storeStatus, found, Option.map_some]
    split_ifs <;> exact ⟨_, rfl, rfl, rfl⟩
  | shutDown => exact ⟨e, found, rfl, rfl⟩

/-! ### Scopes -/

/-- How many scopes an operation makes. -/
def made (r : Registry) : Op → Nat
  | .insert .. => 1
  | .beginRun name => (r.beginRun name).1.toList.length
  | .remove _ | .endRun .. | .markStopped .. | .storeStatus .. | .shutDown => 0

theorem scopes_cancel? {s : Option Scope} :
    (r.cancel? s).scopes = s.toList.foldl Scopes.cancel r.scopes := by
  cases s <;> rfl

theorem scopes_retire {e : Entry} :
    (r.retire e).scopes = (scopesOf e).foldl Scopes.cancel r.scopes := by
  rw [scopesOf, List.foldl_append, ← scopes_cancel?]
  rfl

/-- **What an operation does to the scopes**: it makes some and then cancels some. -/
theorem scopes_perform {op : Op} :
    (r.perform op).scopes =
      (r.cancels op).foldl Scopes.cancel { r.scopes with next := r.scopes.next + r.made op } := by
  cases op with
  | insert n p o =>
    simp only [perform, insert, cancels, made]
    split
    next e h =>
      have found : r.get? n = some e := h
      rw [scopes_retire, found, Option.toList_some, List.flatMap_singleton]
      rfl
    next h =>
      have found : r.get? n = none := h
      rw [found]
      rfl
  | remove n =>
    simp only [perform, remove, cancels, made]
    cases he : r.get? n with
    | none => rfl
    | some e =>
      simp only [scopes_retire, Option.toList_some, List.flatMap_singleton]
      rfl
  | beginRun n =>
    simp only [perform, beginRun, cancels, made]
    cases he : r.get? n with
    | none => rfl
    | some e => cases hr : e.state.isRunning <;> simp only [hr] <;> rfl
  | endRun n p state halted => rfl
  | markStopped n p =>
    simp only [perform, markStopped, cancels, made]
    cases he : r.get? n with
    | none => rfl
    | some e =>
      simp only [Option.toList_some, List.flatMap_singleton]
      split_ifs with hp
      · exact scopes_cancel?
      · rfl
  | storeStatus n p status => rfl
  | shutDown => rfl

theorem mem_ended_foldl_cancel {ss : List Scope} {t : Scopes} {u : Scope} :
    u ∈ (ss.foldl Scopes.cancel t).ended ↔ u ∈ ss ∨ u ∈ t.ended := by
  induction ss generalizing t with
  | nil => simp
  | cons s ss ih =>
    rw [List.foldl_cons, ih, Scopes.mem_ended_cancel, List.mem_cons]
    tauto

theorem next_foldl_cancel {ss : List Scope} {t : Scopes} :
    (ss.foldl Scopes.cancel t).next = t.next := by
  induction ss generalizing t with
  | nil => rfl
  | cons s ss ih =>
    rw [List.foldl_cons, ih, Scopes.next_cancel]

theorem mem_cancels {op : Op} {s : Scope} (h : s ∈ r.cancels op) :
    (op = .shutDown ∧ s = .root) ∨
      ∃ name e, r.get? name = some e ∧ s ∈ scopesOf e ∧
        (op.Replaces name ∨ op = .markStopped name e.plugin ∧ e.run = some s) := by
  cases op with
  | insert n p o =>
    obtain ⟨e, he, hs⟩ := List.mem_flatMap.1 h
    exact .inr ⟨n, e, Option.mem_toList.1 he, hs, .inl rfl⟩
  | remove n =>
    obtain ⟨e, he, hs⟩ := List.mem_flatMap.1 h
    exact .inr ⟨n, e, Option.mem_toList.1 he, hs, .inl rfl⟩
  | markStopped n p =>
    obtain ⟨e, he, hs⟩ := List.mem_flatMap.1 h
    split_ifs at hs with hp
    · subst hp
      exact .inr ⟨n, e, Option.mem_toList.1 he, List.mem_append_left _ hs,
        .inr ⟨rfl, Option.mem_toList.1 hs⟩⟩
    · cases hs
  | shutDown => exact .inl ⟨rfl, List.mem_singleton.1 h⟩
  | beginRun n => cases h
  | endRun n p state halted => cases h
  | storeStatus n p status => cases h

theorem mem_ended_perform {op : Op} {u : Scope} :
    u ∈ (r.perform op).scopes.ended ↔ u ∈ r.cancels op ∨ u ∈ r.scopes.ended := by
  rw [scopes_perform, mem_ended_foldl_cancel]

/-- **Which scopes are cancelled after an operation.** -/
theorem isCancelled_perform {op : Op} {u : Scope} :
    (r.perform op).isCancelled u ↔ (∃ s ∈ r.cancels op, s <:+ u) ∨ r.isCancelled u := by
  simp only [isCancelled, Scopes.isCancelled_iff, mem_ended_perform, or_and_right, exists_or]

theorem next_perform {op : Op} : (r.perform op).scopes.next = r.scopes.next + r.made op := by
  rw [scopes_perform, next_foldl_cancel]

theorem made_beginRun {e : Entry} (found : r.get? name = some e)
    (idle : e.state.isRunning = false) : r.made (.beginRun name) = 1 := by
  simp [made, beginRun, found, idle]

end Registry

end Sidecar
