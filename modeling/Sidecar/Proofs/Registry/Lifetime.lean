import Mathlib.Tactic.ByContra
import Sidecar.Proofs.Registry.Operation

/-!
# Lifetimes of entries, runs and their scopes

An entry is known by its registration scope, which no other entry ever has.  `Registry.history`
lists what became of entries and runs in a sequence of operations, the newest first.

* `Registry.sound_after` : the invariant `Registry.Sound` holds after every sequence of operations:
  it ties the state of an entry, its run and the tree of scopes together.
* `Registry.running_iff_launched` : an entry runs exactly if the last thing that happened to its
  runs was a launch.
* `Registry.orderly` : what follows for every sequence of operations, `Registry.Orderly`.
-/

namespace Sidecar

namespace Registry

/-- What may become of an entry or a run. -/
inductive Effect where
  /-- A plugin was registered. -/
  | inserted (registration : Scope)
  /-- A run of an entry began. -/
  | launched (registration run : Scope)
  /-- An entry was running and is not any more. -/
  | left (registration : Scope)
  deriving DecidableEq

/-- The entry that an effect is about. -/
def Effect.registration : Effect → Scope
  | .inserted registration | .launched registration _ | .left registration => registration

/-- The effect of the end of a run, or of a stop, of an instance. -/
def leave? (r : Registry) (name : String) (plugin : PluginId) : Option Effect :=
  match r.get? name with
  | some e => if e.plugin = plugin ∧ e.state.isRunning then some (.left e.registration) else none
  | none => none

/-- The effect of an operation, if it has one. -/
def effect? (r : Registry) : Op → Option Effect
  | .insert .. => some (.inserted (r.child .root).1)
  | .beginRun name =>
    match r.get? name, (r.beginRun name).1 with
    | some e, some (_, run) => some (.launched e.registration run)
    | _, _ => none
  | .endRun name plugin _ _ | .markStopped name plugin => r.leave? name plugin
  | .remove _ | .storeStatus .. | .shutDown => none

/-- The effects of some operations, the newest first. -/
def history : List Op → List Effect
  | [] => []
  | op :: ops => ((after ops).effect? op).toList ++ history ops

/-- Whether the last thing that happened to the runs of an entry was a launch. -/
def isLaunched (registration : Scope) : List Effect → Bool
  | [] => false
  | .inserted _ :: h => isLaunched registration h
  | .launched s _ :: h => s = registration || isLaunched registration h
  | .left s :: h => s ≠ registration && isLaunched registration h

variable {r : Registry} {name : String} {ops : List Op}

theorem leave?_eq_some {plugin : PluginId} {x : Effect} (h : r.leave? name plugin = some x) :
    ∃ e, r.get? name = some e ∧ e.plugin = plugin ∧ e.state.isRunning = true ∧
      x = .left e.registration := by
  unfold leave? at h
  split at h
  next e found =>
    split_ifs at h with hp
    exact ⟨e, found, hp.1, hp.2, (Option.some.inj h).symm⟩
  next => cases h

theorem effect?_eq_some {op : Op} {x : Effect} (h : r.effect? op = some x) :
    (∃ name plugin order, op = .insert name plugin order ∧ x = .inserted (r.child .root).1) ∨
    (∃ name e, op = .beginRun name ∧ r.get? name = some e ∧ e.state.isRunning = false ∧
      x = .launched e.registration (r.child e.registration).1) ∨
    (∃ name e, (op = .markStopped name e.plugin ∨
        ∃ state halted, op = .endRun name e.plugin state halted) ∧
      r.get? name = some e ∧ e.state.isRunning = true ∧ x = .left e.registration) := by
  cases op with
  | insert n p o => exact .inl ⟨n, p, o, rfl, (Option.some.inj h).symm⟩
  | beginRun n =>
    simp only [effect?] at h
    split at h
    next e q run found begun =>
      obtain ⟨e', found', idle, -, rfl⟩ := beginRun_eq_some_iff.1 begun
      obtain rfl : e = e' := Option.some.inj (found.symm.trans found')
      exact .inr (.inl ⟨n, e, rfl, found, idle, (Option.some.inj h).symm⟩)
    next => cases h
  | endRun n p state halted =>
    obtain ⟨e, found, rfl, busy, rfl⟩ := leave?_eq_some h
    exact .inr (.inr ⟨n, e, .inr ⟨state, halted, rfl⟩, found, busy, rfl⟩)
  | markStopped n p =>
    obtain ⟨e, found, rfl, busy, rfl⟩ := leave?_eq_some h
    exact .inr (.inr ⟨n, e, .inl rfl, found, busy, rfl⟩)
  | remove n => cases h
  | storeStatus n p status => cases h
  | shutDown => cases h

/-! ### The invariant -/

/-- What holds of entries and scopes after every sequence of operations. -/
structure Sound (r : Registry) : Prop where
  /-- An entry has a run scope exactly while its plugin runs. -/
  run_isSome : ∀ {name e}, r.get? name = some e → e.run.isSome = e.state.isRunning
  /-- The run scope of an entry is right under its registration. -/
  run_under : ∀ {name e s}, r.get? name = some e → e.run = some s →
    ∃ k < r.scopes.next, s = k :: e.registration
  /-- A registration is right under the root. -/
  registration_under : ∀ {name e}, r.get? name = some e →
    ∃ n < r.scopes.next, e.registration = [n]
  /-- No two names share a registration. -/
  name_eq : ∀ {name other e e'}, r.get? name = some e → r.get? other = some e' →
    e.registration = e'.registration → name = other
  /-- Nothing was cancelled before it was made. -/
  ended_lt : ∀ {s n}, s ∈ r.scopes.ended → n ∈ s → n < r.scopes.next
  /-- The registration of an entry is cancelled with the root only. -/
  registration_cancelled : ∀ {name e}, r.get? name = some e →
    (r.isCancelled e.registration ↔ r.isCancelled .root)

namespace Sound

theorem empty : Registry.empty.Sound where
  run_isSome h := by cases h
  run_under h := by cases h
  registration_under h := by cases h
  name_eq h := by cases h
  ended_lt h := by cases h
  registration_cancelled h := by cases h

theorem scopesOf_spec (hr : r.Sound) {e : Entry} (found : r.get? name = some e) {s : Scope}
    (hs : s ∈ scopesOf e) :
    s ≠ [] ∧ (∀ n ∈ s, n < r.scopes.next) ∧ (s = e.registration ∨ 2 ≤ s.length) := by
  obtain ⟨n, hn, hreg⟩ := hr.registration_under found
  rcases List.mem_append.1 hs with hs | hs
  · obtain ⟨k, hk, rfl⟩ := hr.run_under found (Option.mem_toList.1 hs)
    simp [hreg, hk, hn]
  · rw [List.mem_singleton.1 hs]
    simp [hreg, hn]

theorem name_eq_of_run_suffix (hr : r.Sound) {other : String} {e e' : Entry} {s s' u : Scope}
    (found : r.get? name = some e) (found' : r.get? other = some e') (hs : e.run = some s)
    (hs' : e'.run = some s') (above : s <:+ u) (above' : s' <:+ u) : name = other := by
  obtain ⟨k, -, rfl⟩ := hr.run_under found hs
  obtain ⟨k', -, rfl⟩ := hr.run_under found' hs'
  obtain ⟨n, -, hreg⟩ := hr.registration_under found
  obtain ⟨n', -, hreg'⟩ := hr.registration_under found'
  have length : (k :: e.registration).length = (k' :: e'.registration).length := by
    rw [hreg, hreg']
    rfl
  have heq : k :: e.registration = k' :: e'.registration :=
    (List.suffix_of_suffix_length_le above above' (Nat.le_of_eq length)).eq_of_length length
  exact hr.name_eq found found' (List.cons.inj heq).2

theorem cancels_lt (hr : r.Sound) {op : Op} {s : Scope} (hs : s ∈ r.cancels op) {n : Nat}
    (hn : n ∈ s) : n < r.scopes.next := by
  obtain ⟨-, rfl⟩ | ⟨m, e, found, hs, -⟩ := mem_cancels hs
  · cases hn
  · exact (hr.scopesOf_spec found hs).2.1 n hn

/-- An operation that leaves an entry in its place does not cancel its registration, unless it
cancels the root. -/
theorem eq_root_of_cancels (hr : r.Sound) {op : Op} {e : Entry} (found : r.get? name = some e)
    (stays : ¬ op.Replaces name) {s : Scope} (hs : s ∈ r.cancels op) (h : s <:+ e.registration) :
    s = .root := by
  obtain ⟨n, -, hreg⟩ := hr.registration_under found
  have len : s.length ≤ 1 := by simpa [hreg] using h.length_le
  obtain ⟨-, rfl⟩ | ⟨m, e', found', hs', hop⟩ := mem_cancels hs
  · rfl
  · obtain ⟨k, -, hreg'⟩ := hr.registration_under found'
    rcases hop with hop | ⟨-, hrun⟩
    · -- a scope of another entry is its registration, which this entry does not share, or a run
      obtain ⟨-, -, heq | hlen⟩ := hr.scopesOf_spec found' hs'
      · have same : s = e.registration := h.eq_of_length (by rw [hreg, heq, hreg']; rfl)
        exact absurd (hr.name_eq found' found (heq ▸ same) ▸ hop) stays
      · omega
    · obtain ⟨l, -, rfl⟩ := hr.run_under found' hrun
      simp [hreg'] at len

theorem perform_run_isSome (hr : r.Sound) {op : Op} {e : Entry}
    (h : (r.perform op).get? name = some e) : e.run.isSome = e.state.isRunning := by
  cases was_of_get?_perform h with
  | same found => exact hr.run_isSome found
  | inserted => rfl
  | launched => rfl
  | @ended _ state halted => exact halted.symm
  | stopped => rfl
  | @polled old status found => exact hr.run_isSome (e := old) found

theorem perform_run_under (hr : r.Sound) {op : Op} {e : Entry} {s : Scope}
    (h : (r.perform op).get? name = some e) (hs : e.run = some s) :
    ∃ k < (r.perform op).scopes.next, s = k :: e.registration := by
  rw [next_perform]
  have before {old : Entry} (found : r.get? name = some old) (hs : old.run = some s) :
      ∃ k < r.scopes.next + r.made op, s = k :: old.registration := by
    obtain ⟨k, hk, rfl⟩ := hr.run_under found hs
    exact ⟨k, by omega, rfl⟩
  cases was_of_get?_perform h with
  | same found => exact before found hs
  | inserted => cases hs
  | launched found idle =>
    cases hs
    exact ⟨r.scopes.next, by rw [made_beginRun found idle]; omega, rfl⟩
  | ended => cases hs
  | stopped => cases hs
  | @polled old status found => exact @before old found hs

theorem perform_registration_under (hr : r.Sound) {op : Op} {e : Entry}
    (h : (r.perform op).get? name = some e) :
    ∃ n < (r.perform op).scopes.next, e.registration = [n] := by
  rw [next_perform]
  obtain ⟨old, found, hreg, -, -⟩ | ⟨p, o, rfl, hreg⟩ := (was_of_get?_perform h).registration
  · obtain ⟨n, hn, h'⟩ := hr.registration_under found
    exact ⟨n, by omega, hreg ▸ h'⟩
  · exact ⟨r.scopes.next, Nat.lt_succ_self _, hreg⟩

theorem registration_ne_child (hr : r.Sound) {e : Entry} (found : r.get? name = some e) :
    e.registration ≠ (r.child .root).1 := by
  obtain ⟨n, hn, h⟩ := hr.registration_under found
  rw [h]
  intro heq
  have : n = r.scopes.next := (List.cons.inj heq).1
  omega

theorem perform_name_eq (hr : r.Sound) {op : Op} {other : String} {e e' : Entry}
    (h : (r.perform op).get? name = some e) (h' : (r.perform op).get? other = some e')
    (heq : e.registration = e'.registration) : name = other := by
  obtain ⟨old, found, hreg, -, -⟩ | ⟨p, o, hop, hreg⟩ := (was_of_get?_perform h).registration
  · obtain ⟨old', found', hreg', -, -⟩ | ⟨p', o', -, hreg'⟩ := (was_of_get?_perform h').registration
    · exact hr.name_eq found found' (by rw [hreg, hreg', heq])
    · exact absurd (by rw [hreg, heq, hreg']) (hr.registration_ne_child found)
  · obtain ⟨old', found', hreg', -, -⟩ | ⟨p', o', hop', -⟩ := (was_of_get?_perform h').registration
    · exact absurd (by rw [hreg', ← heq, hreg]) (hr.registration_ne_child found')
    · rw [hop] at hop'
      cases hop'
      rfl

theorem perform_ended_lt (hr : r.Sound) {op : Op} {s : Scope} {n : Nat}
    (hs : s ∈ (r.perform op).scopes.ended) (hn : n ∈ s) : n < (r.perform op).scopes.next := by
  rw [next_perform]
  rcases mem_ended_perform.1 hs with hs | hs
  · have := hr.cancels_lt hs hn; omega
  · have := hr.ended_lt hs hn; omega

theorem isCancelled_child (hr : r.Sound) :
    r.isCancelled (r.child .root).1 ↔ r.isCancelled .root := by
  simp only [isCancelled, Scopes.isCancelled_iff]
  constructor
  · rintro ⟨u, hu, hsuf⟩
    rcases List.suffix_cons_iff.1 hsuf with rfl | hsuf
    · exact absurd (hr.ended_lt hu List.mem_cons_self) (Nat.lt_irrefl _)
    · exact ⟨u, hu, hsuf⟩
  · rintro ⟨u, hu, hsuf⟩
    exact ⟨u, hu, hsuf.trans (List.suffix_cons _ _)⟩

theorem perform_registration_cancelled (hr : r.Sound) {op : Op} {e : Entry}
    (h : (r.perform op).get? name = some e) :
    (r.perform op).isCancelled e.registration ↔ (r.perform op).isCancelled .root := by
  -- what is cancelled above the registration is the root, in both cases
  have only_root (hc : r.isCancelled e.registration ↔ r.isCancelled .root)
      (hroot : ∀ s ∈ r.cancels op, s <:+ e.registration → s = .root) :
      (r.perform op).isCancelled e.registration ↔ (r.perform op).isCancelled .root := by
    rw [isCancelled_perform, isCancelled_perform, hc]
    refine or_congr_left ⟨?_, ?_⟩
    · rintro ⟨s, hs, hsuf⟩
      exact ⟨s, hs, hroot s hs hsuf ▸ List.suffix_refl _⟩
    · rintro ⟨s, hs, hsuf⟩
      exact ⟨s, hs, List.suffix_nil.1 hsuf ▸ List.nil_suffix⟩
  obtain ⟨old, found, hreg, -, stays⟩ | ⟨p, o, -, hreg⟩ := (was_of_get?_perform h).registration
  · refine only_root (hreg ▸ hr.registration_cancelled found) fun s hs hsuf => ?_
    exact hr.eq_root_of_cancels found stays hs (hreg ▸ hsuf)
  · refine only_root (hreg ▸ hr.isCancelled_child) fun s hs hsuf => ?_
    rw [hreg] at hsuf
    rcases List.suffix_cons_iff.1 hsuf with rfl | hsuf
    · exact absurd (hr.cancels_lt hs List.mem_cons_self) (Nat.lt_irrefl _)
    · exact List.suffix_nil.1 hsuf

/-- The invariant is kept by every operation. -/
theorem perform (hr : r.Sound) (op : Op) : (r.perform op).Sound where
  run_isSome := hr.perform_run_isSome
  run_under := hr.perform_run_under
  registration_under := hr.perform_registration_under
  name_eq := hr.perform_name_eq
  ended_lt := hr.perform_ended_lt
  registration_cancelled := hr.perform_registration_cancelled

end Sound

/-- The invariant holds after every sequence of operations. -/
theorem sound_after : ∀ ops : List Op, (after ops).Sound
  | [] => .empty
  | op :: ops => (sound_after ops).perform op

/-! ### Histories -/

theorem registration_of_mem_history {x : Effect} (h : x ∈ history ops) :
    ∃ n < (after ops).scopes.next, x.registration = [n] := by
  induction ops with
  | nil => cases h
  | cons op ops ih =>
    have hr := sound_after ops
    rw [after, next_perform]
    rcases List.mem_append.1 h with h | h
    · obtain ⟨n, p, o, rfl, rfl⟩ | ⟨n, e, -, found, -, rfl⟩ | ⟨n, e, -, found, -, rfl⟩ :=
        effect?_eq_some (Option.mem_toList.1 h)
      · exact ⟨(after ops).scopes.next, Nat.lt_succ_self _, rfl⟩
      · obtain ⟨m, hm, heq⟩ := hr.registration_under found
        exact ⟨m, by omega, heq⟩
      · obtain ⟨m, hm, heq⟩ := hr.registration_under found
        exact ⟨m, by omega, heq⟩
    · obtain ⟨n, hn, heq⟩ := ih h
      exact ⟨n, by omega, heq⟩

theorem registration_ne_of_mem_history {x : Effect} (h : x ∈ history ops) :
    x.registration ≠ ((after ops).child .root).1 := by
  obtain ⟨n, hn, hreg⟩ := registration_of_mem_history h
  rw [hreg]
  intro heq
  have : n = (after ops).scopes.next := (List.cons.inj heq).1
  omega

theorem isLaunched_eq_false {registration : Scope} {h : List Effect}
    (new : ∀ x ∈ h, x.registration ≠ registration) : isLaunched registration h = false := by
  induction h with
  | nil => rfl
  | cons x h ih =>
    have rest := ih fun y hy => new y (List.mem_cons_of_mem _ hy)
    have hx := new x List.mem_cons_self
    cases x with
    | inserted s => exact rest
    | launched s run => simp [isLaunched, rest, show s ≠ registration from hx]
    | left s => simp [isLaunched, rest]

theorem isLaunched_cons_of_ne {registration : Scope} {x : Effect} {h : List Effect}
    (hx : x.registration ≠ registration) :
    isLaunched registration (x :: h) = isLaunched registration h := by
  cases x with
  | inserted s => rfl
  | launched s run => simp [isLaunched, show s ≠ registration from hx]
  | left s => simp [isLaunched, show s ≠ registration from hx]

theorem isLaunched_append {registration run : Scope} {mid pre : List Effect}
    (h : .left registration ∉ mid) :
    isLaunched registration (mid ++ .launched registration run :: pre) = true := by
  induction mid with
  | nil => simp [isLaunched]
  | cons x mid ih =>
    have rest := ih fun hm => h (List.mem_cons_of_mem _ hm)
    cases x with
    | inserted s => exact rest
    | launched s run' => simp [isLaunched, rest]
    | left s =>
      have hs : s ≠ registration := fun heq => h (heq ▸ List.mem_cons_self)
      simp [isLaunched, rest, hs]

theorem effect?_beginRun {e : Entry} (found : r.get? name = some e)
    (idle : e.state.isRunning = false) :
    r.effect? (.beginRun name) = some (.launched e.registration (r.child e.registration).1) := by
  have begun := beginRun_eq_some_iff.2 ⟨e, found, idle, rfl, rfl⟩
  simp only [effect?, found, begun]

theorem leave?_eq {e : Entry} (found : r.get? name = some e) :
    r.leave? name e.plugin = if e.state.isRunning then some (.left e.registration) else none := by
  simp only [leave?, found, true_and]

theorem isRunning_ne_of_effect? (hr : r.Sound) {op : Op} {e e' : Entry} {x : Effect}
    (found : r.get? name = some e) (found' : (r.perform op).get? name = some e')
    (hx : r.effect? op = some x) (same : x.registration = e.registration) :
    e'.state.isRunning ≠ e.state.isRunning := by
  -- an effect on the registration is one on the entry of this name
  have here {n : String} {e₀ : Entry} (h : r.get? n = some e₀)
      (heq : e₀.registration = e.registration) : n = name ∧ e₀ = e := by
    obtain rfl := hr.name_eq h found heq
    exact ⟨rfl, Option.some.inj (h.symm.trans found)⟩
  obtain ⟨n, p, o, rfl, rfl⟩ | ⟨n, e₀, rfl, h, idle, rfl⟩ | ⟨n, e₀, hop, h, busy, rfl⟩ :=
    effect?_eq_some hx
  · exact absurd same.symm (hr.registration_ne_child found)
  · obtain ⟨rfl, rfl⟩ := here h same
    rw [get?_perform_beginRun, if_pos rfl, found, Option.map_some, if_neg (by simp [idle])]
      at found'
    obtain rfl := Option.some.inj found'
    rw [idle]
    exact Bool.false_ne_true.symm
  · obtain ⟨rfl, rfl⟩ := here h same
    rw [busy]
    obtain rfl | ⟨state, halted, rfl⟩ := hop
    · rw [get?_perform_markStopped, if_pos rfl, found, Option.map_some, if_pos rfl] at found'
      obtain rfl := Option.some.inj found'
      exact Bool.false_ne_true
    · rw [get?_perform_endRun, if_pos rfl, found, Option.map_some, if_pos ⟨rfl, busy⟩] at found'
      obtain rfl := Option.some.inj found'
      exact halted.symm ▸ Bool.false_ne_true

/-- **An entry runs exactly if the last thing that happened to its runs was a launch.** -/
theorem running_iff_launched {e : Entry} (h : (after ops).get? name = some e) :
    isLaunched e.registration (history ops) = e.state.isRunning := by
  induction ops generalizing e with
  | nil => cases h
  | cons op ops ih =>
    have hr := sound_after ops
    rw [history]
    cases was_of_get?_perform h with
    | same found =>
      rw [← ih found]
      cases hx : (after ops).effect? op with
      | none => rfl
      | some x =>
        -- an effect on this entry would have changed whether it runs
        refine isLaunched_cons_of_ne fun same => ?_
        exact isRunning_ne_of_effect? hr found h hx same rfl
    | inserted =>
      exact isLaunched_eq_false (h := history ops) fun x => registration_ne_of_mem_history
    | @launched old found idle =>
      rw [effect?_beginRun found idle]
      simp [isLaunched, Lifecycle.isRunning]
    | @ended old state halted found busy =>
      rw [effect?, leave?_eq found, if_pos busy]
      simp [isLaunched, halted]
    | @stopped old found =>
      rw [effect?, leave?_eq found]
      split_ifs with busy
      · simp [isLaunched, Lifecycle.isRunning]
      · exact (ih found).trans (Bool.not_eq_true _ ▸ busy)
    | @polled old status found => exact ih (e := old) found

theorem history_eq_append_cons {x : Effect} {later earlier : List Effect}
    (h : history ops = later ++ x :: earlier) :
    ∃ op before, (after before).effect? op = some x ∧ history before = earlier := by
  induction ops generalizing later with
  | nil => simp [history] at h
  | cons op ops ih =>
    rw [history] at h
    cases hx : (after ops).effect? op with
    | none =>
      rw [hx] at h
      exact ih h
    | some y =>
      rw [hx] at h
      cases later with
      | nil =>
        obtain ⟨rfl, rfl⟩ := List.cons.inj h
        exact ⟨op, ops, hx, rfl⟩
      | cons z later => exact ih (List.cons.inj h).2

theorem suffix_of_launched {registration run : Scope}
    (h : .launched registration run ∈ history ops) : registration <:+ run := by
  obtain ⟨later, earlier, h⟩ := List.append_of_mem h
  obtain ⟨op, before, hx, -⟩ := history_eq_append_cons h
  obtain ⟨n, p, o, -, hx⟩ | ⟨n, e, -, -, -, hx⟩ | ⟨n, e, -, -, -, hx⟩ := effect?_eq_some hx
  · cases hx
  · cases hx
    exact List.suffix_cons _ _
  · cases hx

theorem left_mem_of_launched {registration first second : Scope}
    {later between earlier : List Effect}
    (h : history ops = later ++ .launched registration second ::
      (between ++ .launched registration first :: earlier)) :
    .left registration ∈ between := by
  obtain ⟨op, before, hx, hb⟩ := history_eq_append_cons h
  obtain ⟨n, p, o, -, hx⟩ | ⟨n, e, -, found, idle, hx⟩ | ⟨n, e, -, -, -, hx⟩ := effect?_eq_some hx
  · cases hx
  · cases hx
    -- the entry is idle before the second launch, so the first is not the last that happened
    have last := running_iff_launched found
    rw [idle, hb] at last
    by_contra hleft
    rw [isLaunched_append hleft] at last
    exact Bool.false_ne_true last.symm
  · cases hx

/-! ### Entries that are gone -/

theorem isCancelled_of_suffix {u v : Scope} (h : u <:+ v) (hu : r.isCancelled u) :
    r.isCancelled v := by
  obtain ⟨s, hs, hsu⟩ := Scopes.isCancelled_iff.1 hu
  exact Scopes.isCancelled_iff.2 ⟨s, hs, hsu.trans h⟩

theorem mem_cancels_of_replaces {op : Op} {e : Entry} {s : Scope} (found : r.get? name = some e)
    (replaced : op.Replaces name) (hs : s ∈ scopesOf e) : s ∈ r.cancels op := by
  cases op with
  | insert n p o =>
    obtain rfl : n = name := replaced
    exact List.mem_flatMap.2 ⟨e, Option.mem_toList.2 found, hs⟩
  | remove n =>
    obtain rfl : n = name := replaced
    exact List.mem_flatMap.2 ⟨e, Option.mem_toList.2 found, hs⟩
  | _ => cases replaced

theorem registered_or_cancelled {registration : Scope} (h : .inserted registration ∈ history ops) :
    (∃ name e, (after ops).get? name = some e ∧ e.registration = registration) ∨
      (after ops).isCancelled registration := by
  induction ops with
  | nil => cases h
  | cons op ops ih =>
    rcases List.mem_append.1 h with h | h
    · obtain ⟨n, p, o, rfl, hx⟩ | ⟨n, e, -, -, -, hx⟩ | ⟨n, e, -, -, -, hx⟩ :=
        effect?_eq_some (Option.mem_toList.1 h)
      · cases hx
        exact .inl ⟨n, _, get?_perform_insert.trans (if_pos rfl), rfl⟩
      · cases hx
      · cases hx
    · rcases ih h with ⟨n, e, found, rfl⟩ | hc
      · -- the entry stays in its place, or it is retired with the operation
        by_cases replaced : op.Replaces n
        · refine .inr (isCancelled_perform.2 (.inl ⟨e.registration, ?_, List.suffix_refl _⟩))
          exact mem_cancels_of_replaces found replaced (List.mem_append_right _ List.mem_cons_self)
        · obtain ⟨e', found', -, hreg⟩ := get?_perform_of_stays found replaced
          exact .inl ⟨n, e', found', hreg⟩
      · exact .inr (isCancelled_perform.2 (.inr hc))

theorem failed_before {op : Op} {e : Entry} {failure : String}
    (h : (r.perform op).get? name = some e) (failed : e.state = .failed failure) :
    ∃ old, r.get? name = some old ∧ old.registration = e.registration ∧
      (old.state = .failed failure ∨ old.state.isRunning = true) := by
  cases was_of_get?_perform h with
  | same found => exact ⟨e, found, rfl, .inl failed⟩
  | inserted => cases failed
  | launched => cases failed
  | @ended old state halted found busy => exact ⟨old, found, rfl, .inr busy⟩
  | stopped => cases failed
  | @polled old status found => exact ⟨old, found, rfl, .inl failed⟩

/-- What entries, their runs and their scopes are like after some operations. -/
structure Orderly (ops : List Op) : Prop where
  /-- An entry has a run scope exactly while its plugin runs. -/
  run_isSome : ∀ {name e}, (after ops).get? name = some e → e.run.isSome = e.state.isRunning
  /-- The registration of an entry is cancelled exactly if the root is. -/
  registration_cancelled : ∀ {name e}, (after ops).get? name = some e →
    ((after ops).isCancelled e.registration ↔ (after ops).isCancelled .root)
  /-- An entry that was replaced or taken out is cancelled, and so is every run it ever had. -/
  gone_cancelled : ∀ {registration}, .inserted registration ∈ history ops →
    (∀ name e, (after ops).get? name = some e → e.registration ≠ registration) →
    (after ops).isCancelled registration ∧
      ∀ run, .launched registration run ∈ history ops → (after ops).isCancelled run
  /-- A run begins exactly for an entry that does not run. -/
  begins_iff : ∀ name, ((after ops).beginRun name).1.isSome ↔
    ∃ e, (after ops).get? name = some e ∧ e.state.isRunning = false
  /-- Between two launches of an entry it has left. -/
  left_between : ∀ {registration first second later between earlier},
    history ops = later ++ .launched registration second ::
      (between ++ .launched registration first :: earlier) →
    .left registration ∈ between
  /-- A plugin that has failed had failed before the last operation, or was running. -/
  failed_from : ∀ {op before name e failure}, ops = op :: before →
    (after ops).get? name = some e → e.state = .failed failure →
    ∃ old, (after before).get? name = some old ∧ old.registration = e.registration ∧
      (old.state = .failed failure ∨ old.state.isRunning = true)

/-- **The registry is orderly after every sequence of operations.** -/
theorem orderly (ops : List Op) : Orderly ops where
  run_isSome := (sound_after ops).run_isSome
  registration_cancelled := (sound_after ops).registration_cancelled
  gone_cancelled h gone := by
    obtain ⟨name, e, found, heq⟩ | hc := registered_or_cancelled h
    · exact absurd heq (gone name e found)
    · exact ⟨hc, fun run hrun => isCancelled_of_suffix (suffix_of_launched hrun) hc⟩
  begins_iff name := by
    rw [Option.isSome_iff_exists]
    constructor
    · rintro ⟨⟨p, run⟩, begun⟩
      obtain ⟨e, found, idle, -, -⟩ := beginRun_eq_some_iff.1 begun
      exact ⟨e, found, idle⟩
    · rintro ⟨e, found, idle⟩
      exact ⟨_, beginRun_eq_some_iff.2 ⟨e, found, idle, rfl, rfl⟩⟩
  left_between := left_mem_of_launched
  failed_from := by
    rintro op before name e failure rfl h failed
    exact failed_before h failed

end Registry

end Sidecar
