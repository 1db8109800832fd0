import Sidecar.Proofs.Host.Instance
import Sidecar.Proofs.Host.Launch

/-!
# Main loops at the same time

A run of an instance begins if its entry does not run, whether or not an earlier main loop of the
instance has returned.

* `Host.Trace.run_unique` : every run has one task;
* `Host.Trace.left_between` : an entry that was launched twice has left the running state in between;
* `Host.Trace.start_calls` : two main loops of one instance are at work at the same time **only if its
  entry has left the running state between their launches**: it was stopped, or the end of a run was
  recorded.

`Host.two_at_once` shows that this happens: an instance is stopped and started again while its first
main loop goes on.
-/

namespace Sidecar.Host

open HostExchange (of)

/-- The run whose main loop a call is about to wait for, or waits for: its name, instance and
scope. -/
def World.execution? (w : World) (j : Nat) : Option (String × PluginId × Scope) :=
  match w.jobs j with
  | some ⟨.task (.run name plugin scope), Activity.ask (.start _ _) _⟩ => some (name, plugin, scope)
  | _ => none

variable {config : Config} {es : List Event} {w w' : World} {e e' : Event} {i j : Nat}
  {name name' : String} {plugin plugin' : PluginId} {scope scope' : Scope}

theorem exists_of_execution? (h : w.execution? j = some (name, plugin, scope)) :
    ∃ x, w.jobs j = some ⟨.task (.run name plugin scope), x⟩ := by
  unfold World.execution? at h
  split at h
  next found =>
    cases h
    exact ⟨_, found⟩
  next => cases h

/-! ### Every run has one task -/

/-- The task of a run was started right after the run was launched, for the same call. -/
theorem Trace.spawned (t : Trace config es w) {x : Hosting (Option HostTask)}
    (h : w.jobs j = some ⟨.task (.run name plugin scope), x⟩) :
    ∃ i newer older, newer ≠ [] ∧
      own i es = newer ++ of (.beginRun name) (some (plugin, scope)) :: older := by
  induction t generalizing j x with
  | nil => cases h
  | @cons es w w' e before step ih =>
    rcases before.came_of_run step h with ⟨y, found⟩ | ⟨-, i, older, launched, asked⟩
    · obtain ⟨i, newer, older, some, hown⟩ := ih found
      refine ⟨i, own i [e] ++ newer, older, List.append_ne_nil_of_right_ne_nil _ some, ?_⟩
      rw [← List.singleton_append, own_append, hown, List.append_assoc]
    · exact ⟨i, [of (.spawn (.run name plugin scope)) ()], older, List.cons_ne_nil _ _,
        by rw [asked, launched]; rfl⟩

theorem Trace.launch_unique (t : Trace config es w) {later later' earlier earlier' : List Event}
    (h : es = later ++ e :: earlier) (h' : es = later' ++ e' :: earlier')
    (hl : e.launch? = some (name, plugin, scope))
    (hl' : e'.launch? = some (name', plugin', scope)) : later = later' ∧ e = e' := by
  refine eq_of_first (h.symm.trans h') (p := fun x => ∃ n p, x.launch? = some (n, p, scope))
    ⟨_, _, hl⟩ ⟨_, _, hl'⟩ ?_ ?_
  · rintro x hx ⟨n, p, hx'⟩
    exact t.scope_ne_of_launch h hl hx hx' rfl
  · rintro x hx ⟨n, p, hx'⟩
    exact t.scope_ne_of_launch h' hl' hx hx' rfl

theorem Trace.not_spawning (t : Trace config es w) {x : Hosting (Option HostTask)}
    (h : w.jobs j = some ⟨.task (.run name plugin scope), x⟩) {past : List HostExchange} :
    own i es ≠ of (.beginRun name') (some (plugin', scope)) :: past := by
  intro about
  have about : own i es = [] ++ of (.beginRun name') (some (plugin', scope)) :: past := about
  obtain ⟨k, newer, older, some, hown⟩ := t.spawned h
  -- both are about the same launch, after which one call has asked nothing and the other has
  obtain ⟨later, c, earlier, heq, nothing, -⟩ := exists_of_own about
  obtain ⟨later', c', earlier', heq', something, -⟩ := exists_of_own hown
  obtain ⟨rfl, same⟩ := t.launch_unique heq heq' rfl rfl
  cases same
  exact some (something.symm.trans nothing)

/-- **Every run has one task.** -/
theorem Trace.run_unique (t : Trace config es w) {x y : Hosting (Option HostTask)}
    (hi : w.jobs i = some ⟨.task (.run name plugin scope), x⟩)
    (hj : w.jobs j = some ⟨.task (.run name' plugin' scope), y⟩) : i = j := by
  induction t generalizing i j name plugin name' plugin' x y with
  | nil => cases hi
  | @cons es w w' e before step ih =>
    rcases before.came_of_run step hi with ⟨x, hi⟩ | ⟨newi, l, past, launched, -⟩
    · rcases before.came_of_run step hj with ⟨y, hj⟩ | ⟨-, l, past, launched, -⟩
      · exact ih hi hj
      · exact absurd launched (before.not_spawning hi)
    · rcases before.came_of_run step hj with ⟨y, hj⟩ | ⟨newj, -⟩
      · exact absurd launched (before.not_spawning hj)
      · exact newi.trans newj.symm

/-! ### Between two launches -/

/-- That an entry leaves the running state with an event: its instance was stopped, or a main loop of
its instance has returned. -/
structure Leaves (config : Config) (name : String) (plugin : PluginId) (older : List Event)
    (e : Event) : Prop where
  /-- The entry was running. -/
  running : ∃ w entry, Trace config older w ∧ w.get? name = some entry ∧ entry.plugin = plugin ∧
    entry.state.isRunning = true
  cause :
    (∃ j c limit, e = .asked j c (of (.markStopped name plugin) ()) ∧
      of (.stop plugin limit) (some (.ok ())) ∈ own j older) ∨
    ∃ j scope outcome,
      e = .asked j (.task (.run name plugin scope))
        (of (.endRun name plugin (HostTask.stateAfter outcome)) ()) ∧
      of (.start plugin scope) outcome ∈ own j older

theorem Trace.stop_of_markStopped (t : Trace config es w) {later earlier : List Event}
    (h : es = later ++ e :: earlier) (hop : e.op? = some (.markStopped name plugin)) :
    ∃ j c limit, e = .asked j c (of (.markStopped name plugin) ()) ∧
      of (.stop plugin limit) (some (.ok ())) ∈ own j earlier := by
  obtain ⟨j, c, r, rfl⟩ := eq_asked_of_op? hop
  have may := t.mayAsk h
  generalize hown : own j earlier = past at may
  cases may with
  | free hf => cases hf
  | @markStopped _ _ _ entry limit => exact ⟨j, c, limit, rfl, hown ▸ List.mem_cons_self⟩

theorem Trace.start_of_endRun (t : Trace config es w) {later earlier : List Event}
    {state : Lifecycle} {halted : state.isRunning = false} (h : es = later ++ e :: earlier)
    (hop : e.op? = some (.endRun name plugin state halted)) :
    ∃ j scope outcome,
      e = .asked j (.task (.run name plugin scope))
        (of (.endRun name plugin (HostTask.stateAfter outcome)) ()) ∧
      of (.start plugin scope) outcome ∈ own j earlier := by
  obtain ⟨j, c, r, rfl⟩ := eq_asked_of_op? hop
  have may := t.mayAsk h
  generalize hown : own j earlier = past at may
  cases may with
  | free hf => cases hf
  | @endRun _ _ scope outcome => exact ⟨j, scope, outcome, rfl, hown ▸ List.mem_cons_self⟩

theorem Trace.inserted_of_launch (t : Trace config es w) {later earlier : List Event}
    (h : es = later ++ e :: earlier) (hl : e.launch? = some (name, plugin, scope)) :
    ∃ newer x older, earlier = newer ++ x :: older ∧ x.insertion? = some (name, plugin) := by
  obtain ⟨w₁, w₂, before, step⟩ := t.split h
  obtain ⟨-, entry, found, -, rfl, -⟩ := launched_of_step step hl
  obtain ⟨newer, x, older, heq, hx, -⟩ := before.inserted_of_entry found
  exact ⟨newer, x, older, heq, hx⟩

/-- **An entry of a launched instance that does not run has left the running state since.** -/
theorem Trace.left_since {between earlier : List Event}
    (t : Trace config (between ++ e :: earlier) w) (hl : e.launch? = some (name, plugin, scope))
    {entry : Entry} (found : w.get? name = some entry) (same : entry.plugin = plugin)
    (idle : entry.state.isRunning = false) :
    ∃ newer x older, between = newer ++ x :: older ∧
      Leaves config name plugin (older ++ e :: earlier) x := by
  induction between generalizing w entry with
  | nil =>
    -- the instance has just been launched
    cases t with
    | cons before step =>
      obtain ⟨hop, old, found', idle', -, -⟩ := launched_of_step step hl
      have changed := before.get?_of_step step name
      rw [found, hop, Option.elim_some, Registry.get?_perform_beginRun, if_pos rfl] at changed
      have found' : Registry.get? _ name = some old := found'
      rw [found', Option.map_some, if_neg (by rw [idle']; exact Bool.false_ne_true)] at changed
      cases changed
      cases idle
  | cons x between ih =>
    have whole := t
    cases t with
    | @cons _ w₀ _ _ before step =>
      -- if it was idle before this event then it has left the running state earlier
      have older {old : Entry} (found : w₀.get? name = some old) (same : old.plugin = plugin)
          (idle : old.state.isRunning = false) :
          ∃ newer y older, x :: between = newer ++ y :: older ∧
            Leaves config name plugin (older ++ e :: earlier) y := by
        obtain ⟨newer, y, older, rfl, leaves⟩ := ih before found same idle
        exact ⟨x :: newer, y, older, rfl, leaves⟩
      have changed := before.get?_of_step step name
      rw [found] at changed
      cases hop : x.op? with
      | none =>
        rw [hop] at changed
        exact older changed.symm same idle
      | some op =>
        rw [hop] at changed
        have now : x :: between ++ e :: earlier = [] ++ x :: (between ++ e :: earlier) := rfl
        cases Registry.was_of_get?_perform changed.symm with
        | same was => exact older was same idle
        | @inserted p order =>
          -- the instance was registered before it was launched, and is not registered again
          obtain rfl : p = plugin := same
          obtain ⟨newest, y, oldest, rfl, hi⟩ := before.inserted_of_launch rfl hl
          have split : x :: (between ++ e :: (newest ++ y :: oldest)) =
              (x :: between ++ e :: newest) ++ y :: oldest := by simp
          have twice : x.insertion? = some (name, p) := insertion?_eq_some.2 ⟨order, hop⟩
          exact absurd twice (whole.insertion_unique split hi x List.mem_cons_self name)
        | launched => cases idle
        | @ended old state halted was busy =>
          obtain rfl : old.plugin = plugin := same
          exact ⟨[], x, between, rfl, ⟨w₀, old, before, was, rfl, busy⟩,
            .inr (whole.start_of_endRun now hop)⟩
        | @stopped old was =>
          obtain rfl : old.plugin = plugin := same
          by_cases busy : old.state.isRunning = true
          · exact ⟨[], x, between, rfl, ⟨w₀, old, before, was, rfl, busy⟩,
              .inl (whole.stop_of_markStopped now hop)⟩
          · exact older was rfl (eq_false_of_ne_true busy)
        | @polled old status was => exact @older old was same idle

theorem Trace.name_of_launch (t : Trace config es w) (h : e ∈ es) (h' : e' ∈ es)
    (hl : e.launch? = some (name, plugin, scope)) (hl' : e'.launch? = some (name', plugin, scope')) :
    name' = name := by
  have inserted {x : Event} {n : String} {s : Scope} (hx : x ∈ es)
      (hl : x.launch? = some (n, plugin, s)) :
      ∃ later y earlier, es = later ++ y :: earlier ∧ y.insertion? = some (n, plugin) := by
    obtain ⟨later, earlier, rfl⟩ := List.append_of_mem hx
    obtain ⟨newer, y, older, rfl, hi⟩ := t.inserted_of_launch rfl hl
    exact ⟨later ++ x :: newer, y, older, by simp, hi⟩
  obtain ⟨later, y, earlier, heq, hi⟩ := inserted h hl
  obtain ⟨later', y', earlier', heq', hi'⟩ := inserted h' hl'
  exact (t.insertion_eq heq' heq hi' hi).2

/-- Whether the entry of an instance has left the running state between the launches of two runs. -/
def LeftBetween (config : Config) (es : List Event) (name : String) (plugin : PluginId)
    (first second : Scope) : Prop :=
  ∃ later e' newer x older e earlier,
    es = later ++ e' :: (newer ++ x :: (older ++ e :: earlier)) ∧
    e.launch? = some (name, plugin, first) ∧ e'.launch? = some (name, plugin, second) ∧
    Leaves config name plugin (older ++ e :: earlier) x

/-- **An entry that was launched twice has left the running state in between.** -/
theorem Trace.left_between (t : Trace config es w) {later between earlier : List Event}
    (h : es = later ++ e' :: (between ++ e :: earlier))
    (hl : e.launch? = some (name, plugin, scope)) (hl' : e'.launch? = some (name, plugin, scope')) :
    LeftBetween config es name plugin scope scope' := by
  obtain ⟨w₁, w₂, before, step⟩ := t.split h
  obtain ⟨-, entry, found, idle, same, -⟩ := launched_of_step step hl'
  obtain ⟨newer, x, older, rfl, leaves⟩ := before.left_since hl found same idle
  exact ⟨later, e', newer, x, older, e, earlier, by simp [h], hl, hl', leaves⟩

theorem exists_append_of_mem {α : Type} {xs : List α} {x y : α} (hx : x ∈ xs) (hy : y ∈ xs)
    (hne : x ≠ y) :
    (∃ a b c, xs = a ++ y :: (b ++ x :: c)) ∨ ∃ a b c, xs = a ++ x :: (b ++ y :: c) := by
  obtain ⟨newer, older, rfl⟩ := List.append_of_mem hx
  rcases List.mem_append.1 hy with hy | hy
  · obtain ⟨a, b, rfl⟩ := List.append_of_mem hy
    exact .inl ⟨a, b, older, by simp⟩
  · obtain ⟨b, c, rfl⟩ := List.append_of_mem ((List.mem_cons.1 hy).resolve_left hne.symm)
    exact .inr ⟨newer, b, c, rfl⟩

/-- When main loops of one instance begin, and when several of them are at work. -/
structure StartCalls (config : Config) (es : List Event) (w : World) : Prop where
  /-- A run is launched exactly if there is an entry of the name that does not run. -/
  launches_iff : ∀ {j c name w'} {run : Option (PluginId × Scope)},
    Step config w (.asked j c (of (.beginRun name) run)) w' →
    (run.isSome = true ↔ ∃ entry, w.get? name = some entry ∧ entry.state.isRunning = false)
  /-- If two main loops of an instance are at work then its entry has left the running state between
  their launches. -/
  overlap : ∀ {i j name name' plugin scope scope'}, i ≠ j →
    w.execution? i = some (name, plugin, scope) → w.execution? j = some (name', plugin, scope') →
    name' = name ∧ (LeftBetween config es name plugin scope scope' ∨
      LeftBetween config es name plugin scope' scope)

/-- **Two main loops of one instance are at work at the same time only if its entry has left the
running state between their launches.** -/
theorem Trace.start_calls (t : Trace config es w) : StartCalls config es w where
  launches_iff {j c name w' run} step := by
    have begun : run = (w.host.registry.beginRun name).1 := (eq_of_answer? step rfl).1
    rw [begun, Option.isSome_iff_exists]
    constructor
    · rintro ⟨⟨p, s⟩, hrun⟩
      obtain ⟨entry, found, idle, -, -⟩ := Registry.beginRun_eq_some_iff.1 hrun
      exact ⟨entry, found, idle⟩
    · rintro ⟨entry, found, idle⟩
      exact ⟨_, Registry.beginRun_eq_some_iff.2 ⟨entry, found, idle, rfl, rfl⟩⟩
  overlap {i j name name' plugin scope scope'} different hi hj := by
    obtain ⟨x, hi⟩ := exists_of_execution? hi
    obtain ⟨y, hj⟩ := exists_of_execution? hj
    obtain ⟨e, he, hl⟩ := t.launched hi
    obtain ⟨e', he', hl'⟩ := t.launched hj
    obtain rfl := t.name_of_launch he he' hl hl'
    have distinct : e ≠ e' := by
      rintro rfl
      cases hl.symm.trans hl'
      exact different (t.run_unique hi hj)
    refine ⟨rfl, ?_⟩
    rcases exists_append_of_mem he he' distinct with ⟨a, b, c, h⟩ | ⟨a, b, c, h⟩
    · exact .inl (t.left_between h hl hl')
    · exact .inr (t.left_between h hl' hl)

/-- A main loop goes on while its instance is stopped and started again. -/
theorem two_at_once : ∃ es w, Trace (onePlugin "a") es w ∧
    w.execution? 2 = some ("a", 0, [1, 0]) ∧ w.execution? 5 = some ("a", 0, [2, 0]) := by
  have played :
      (play (onePlugin "a") (.failing (.runtime "late") "a") restart.dropLast ([], .new)).map
        (fun p => [p.2.execution? 2, p.2.execution? 5]) =
      some [some ("a", 0, [1, 0]), some ("a", 0, [2, 0])] := by
    decide +kernel
  obtain ⟨⟨es, w⟩, hplay, hw⟩ := Option.map_eq_some_iff.1 played
  obtain ⟨first, rest⟩ := List.cons.inj hw
  obtain ⟨second, -⟩ := List.cons.inj rest
  exact ⟨es, w, trace_play .nil hplay, first, second⟩

theorem start_calls_twice : ∃ es w, StartCalls (onePlugin "a") es w ∧
    w.execution? 2 = some ("a", 0, [1, 0]) ∧ w.execution? 5 = some ("a", 0, [2, 0]) ∧
    (LeftBetween (onePlugin "a") es "a" 0 [1, 0] [2, 0] ∨
      LeftBetween (onePlugin "a") es "a" 0 [2, 0] [1, 0]) := by
  obtain ⟨es, w, t, first, second⟩ := two_at_once
  exact ⟨es, w, t.start_calls, first, second, (t.start_calls.overlap (by decide) first second).2⟩

/-- **Several main loops of one instance may be at work at the same time.** -/
theorem not_only_one_at_once : ¬ ∀ (config : Config) (es : List Event) (w : World) (i j : Nat)
    (name name' : String) (plugin : PluginId) (scope scope' : Scope),
    Trace config es w →
    w.execution? i = some (name, plugin, scope) → w.execution? j = some (name', plugin, scope') →
    i = j := by
  intro only_one
  obtain ⟨es, w, t, first, second⟩ := two_at_once
  cases only_one _ es w 2 5 _ _ _ _ _ t first second

end Sidecar.Host
