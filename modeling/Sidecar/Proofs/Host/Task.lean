import Sidecar.Proofs.Host.Failure
import Sidecar.Proofs.Host.Overlap

/-!
# Runs and their tasks

A run is begun in the registry and its task is started right after, by the same call and with nothing
asked in between (`HostCall.launches_activity`).  So an entry that runs always has a task that will
record the end of the run, whatever else is recorded about other runs of the instance, or of other
instances of the name: `Host.Trace.unended_of_run` is the invariant.

It follows that nothing is left running (`Host.Trace.runs_have_tasks`): **once every task has ended,
no entry runs**, and this stays so after a shutdown that has waited for all of them.
-/

namespace Sidecar

open HostExchange (of)

/-- Whether the shutdown of the host waits for a task. -/
def HostTask.isAwaited : HostTask → Bool
  | .run .. | .pollAfter .. | .poll .. | .serve _ => true
  | .heed _ => false

namespace HostCall

variable {settings : HostSettings} {past : List HostExchange}

/-- The task that is due after what was asked: that of a run that has just begun. -/
def due? : List HostExchange → Option HostTask
  | ⟨.beginRun name, some (plugin, scope)⟩ :: _ => some (.run name plugin scope)
  | _ => none

/-- That a task is started when it is due. -/
def StartsDue (past : List HostExchange) (q : HostAsk) : Prop := ∀ t ∈ due? past, q = .spawn t

/-- Whether an activity starts every task when it is due. -/
abbrev Launches (past : List HostExchange) (x : Hosting α) : Prop :=
  x.Keeps StartsDue (fun past _ => due? past = none) past

theorem startsDue_of_none {q : HostAsk} (h : due? past = none) : StartsDue past q := by
  intro t ht
  rw [h] at ht
  cases ht

theorem due?_cons_of_isPlain {x : HostExchange} (h : x.question.isPlain = true) :
    due? (x :: past) = none := by
  obtain ⟨q, r⟩ := x
  cases q <;> first | rfl | cases h

theorem launches_of_plain {x : Hosting α} (h : Plain x) (hpast : due? past = none) :
    Launches past x := by
  have undue {later : List HostExchange} (asked : ∀ e ∈ later, e.question.isPlain = true) :
      due? (later ++ past) = none := by
    cases later with
    | nil => exact hpast
    | cons e later => exact due?_cons_of_isPlain (asked e List.mem_cons_self)
  refine .weaken (h.keeps fun later q asked _ => startsDue_of_none (undue asked)) ?_
  rintro past' - ⟨later, rfl, asked⟩
  exact undue asked

theorem launches_launch {name : String} (hpast : due? past = none) :
    Launches past (Host.launch name) := by
  refine .ask (startsDue_of_none hpast) fun run => ?_
  cases run with
  | none => exact rfl
  | some run =>
    refine .ask (fun t ht => ?_) fun _ => rfl
    cases ht
    rfl

theorem launches_launchEach {names : List String} (hpast : due? past = none) :
    Launches past (Host.launchEach names) := by
  induction names generalizing past with
  | nil => exact hpast
  | cons name names ih =>
    refine .bind (launches_launch hpast) fun past started h => ?_
    exact .bind (ih h) fun past more h => h

theorem launches_startAll (hpast : due? past = none) : Launches past Host.startAll :=
  .ask (startsDue_of_none hpast) fun _ => launches_launchEach rfl

theorem launches_watch (hpast : due? past = none) : Launches past Host.watch := by
  refine .ask (startsDue_of_none hpast) fun signal => ?_
  cases signal with
  | failure =>
    refine .ask (startsDue_of_none rfl) fun failure => ?_
    cases failure <;> exact rfl
  | _ => exact rfl

theorem launches_run : Launches [] (Host.run settings) := by
  refine .ask (startsDue_of_none rfl) fun _ => ?_
  refine .bind (launches_of_plain plain_openEndpoint rfl) fun past ready h => ?_
  cases ready with
  | false => exact .ask (startsDue_of_none h) fun _ => rfl
  | true =>
    refine .bind (launches_startAll h) fun past _ h => ?_
    refine .bind (launches_of_plain plain_startPolling h) fun past _ h => ?_
    refine .bind (launches_watch h) fun past result h => ?_
    exact .ask (startsDue_of_none h) fun _ => .ask (startsDue_of_none rfl) fun _ => rfl

/-- **The task of a run is started right after the run has begun.** -/
theorem launches_activity (config : Config) (c : HostCall) : Launches [] (c.activity config) := by
  cases c with
  | run => exact launches_run
  | startAll => exact launches_startAll rfl
  | _ => exact launches_of_plain (plain_activity config nofun nofun) rfl

end HostCall

namespace Host

open HostCall (due?)

/-- The task that is started with an event. -/
def Event.task? : Event → Option HostTask
  | .asked _ _ x => x.question.task?
  | .called .. | .ended .. | .dropped _ | .done _ => none

/-- Whether a task is at work. -/
def World.Does (w : World) (t : HostTask) : Prop := ∃ j x, w.jobs j = some ⟨.task t, x⟩

/-- Whether a call is just about to start a task. -/
def World.Starts (w : World) (t : HostTask) : Prop :=
  ∃ j c next, w.jobs j = some ⟨c, Activity.ask (.spawn t) next⟩

/-- Whether the task of a run is at work and has not recorded the end of the run. -/
def Unended (es : List Event) (w : World) (name : String) (plugin : PluginId) (scope : Scope) :
    Prop :=
  ∃ j x, w.jobs j = some ⟨.task (.run name plugin scope), x⟩ ∧
    ∀ state, of (.endRun name plugin state) () ∉ own j es

/-- What may happen from one world to another, the newest first. -/
inductive Steps (config : Config) (w : World) : List Event → World → Prop
  | nil : Steps config w [] w
  | cons {es : List Event} {w₁ w₂ : World} {e : Event} (before : Steps config w es w₁)
      (step : Step config w₁ e w₂) : Steps config w (e :: es) w₂

variable {config : Config} {es later : List Event} {w w' : World} {e : Event} {j : Nat}
  {c : HostCall} {name : String} {plugin : PluginId} {scope : Scope} {entry : Entry}

theorem Trace.append (t : Trace config es w) (more : Steps config w later w') :
    Trace config (later ++ es) w' := by
  induction more with
  | nil => exact t
  | cons before step ih => exact .cons ih step

/-! ### The task of a run -/

theorem Trace.starts_of_due (t : Trace config es w) {x : Hosting c.Result} {task : HostTask}
    (doing : w.jobs j = some ⟨c, x⟩) (h : due? (own j es) = some task) : w.Starts task := by
  have keeps := t.keeps (HostCall.launches_activity config c) doing
  cases x with
  | done result =>
    have undue : due? (own j es) = none := keeps
    rw [h] at undue
    cases undue
  | ask q next =>
    obtain rfl : q = .spawn task := keeps.1 task h
    exact ⟨j, c, next, doing⟩

theorem Trace.unended_of_starts (t : Trace config es w) (step : Step config w e w')
    (h : w.Starts (.run name plugin scope)) :
    w'.Starts (.run name plugin scope) ∨ Unended (e :: es) w' name plugin scope := by
  obtain ⟨j, c, next, doing⟩ := h
  generalize hx : (Activity.ask (.spawn (.run name plugin scope)) next : Hosting c.Result) = x
    at doing
  cases goes_of_step t.fresh step doing with
  | same now others => exact .inl ⟨j, c, next, hx ▸ now⟩
  | asked =>
    cases hx
    obtain ⟨now, unasked⟩ := t.doing_of_spawned step
    exact .inr ⟨_, _, now, fun state mem => List.not_mem_nil (unasked ▸ mem)⟩
  | ended => cases hx
  | dropped waits =>
    cases hx
    cases waits

theorem Trace.unended_of_unended (t : Trace config es w) (step : Step config w e w')
    (h : Unended es w name plugin scope) :
    Unended (e :: es) w' name plugin scope ∨ ∃ j state,
      e = .asked j (.task (.run name plugin scope)) (of (.endRun name plugin state) ()) := by
  obtain ⟨j, x, doing, unended⟩ := h
  cases goes_of_step t.fresh step doing with
  | same now others =>
    refine .inl ⟨j, x, now, fun state mem => unended state ?_⟩
    rwa [own_cons_of_ne others] at mem
  | @asked q next r now =>
    by_cases recorded : ∃ state, q = .endRun name plugin state
    · obtain ⟨state, rfl⟩ := recorded
      exact .inr ⟨j, state, rfl⟩
    · refine .inl ⟨j, _, now, fun state mem => ?_⟩
      rw [own_asked] at mem
      rcases List.mem_cons.1 mem with heq | mem
      · exact recorded ⟨state, (congrArg Exchange.question heq).symm⟩
      · exact unended state mem
  | ended =>
    -- a task that ends has recorded that
    have ends : HostCall.TaskEnds name plugin scope (own j es) _ :=
      t.keeps HostCall.keeps_runPlugin doing
    generalize own j es = past at ends unended
    cases ends with
    | finished => exact absurd List.mem_cons_self (unended _)
    | failed => exact absurd (List.mem_cons_of_mem _ List.mem_cons_self) (unended _)
  | dropped waits outside => cases outside

theorem Trace.run_ne_of_recorded (t : Trace config es w) {state : Lifecycle}
    (step : Step config w
      (.asked j (.task (.run name entry.plugin scope)) (of (.endRun name entry.plugin state) ())) w')
    (found : w'.get? name = some entry) : entry.run ≠ some scope := by
  intro hrun
  obtain ⟨next, doing⟩ := exists_of_asked step
  have may := (t.allows doing).1
  generalize own j es = past at may
  cases may with
  | free free => cases free
  | endRun =>
    rw [t.get?_of_endRun step isRunning_stateAfter, if_pos rfl] at found
    obtain ⟨old, hold, heq⟩ := Option.map_eq_some_iff.1 found
    split_ifs at heq with busy
    · rw [← heq] at hrun
      cases hrun
    · subst heq
      have running := (t.run_eq_lastLaunch hold).1
      rw [hrun] at running
      exact busy ⟨rfl, running.symm⟩

/-- **The run of an entry has a task** that is at work and has not recorded the end of the run, or
that is just about to be started. -/
theorem Trace.unended_of_run (t : Trace config es w) (found : w.get? name = some entry)
    (hrun : entry.run = some scope) :
    w.Starts (.run name entry.plugin scope) ∨ Unended es w name entry.plugin scope := by
  induction t generalizing entry with
  | nil => cases found
  | @cons es w w' e before step ih =>
    -- the same run was there before
    have older {old : Entry} (hold : w.get? name = some old) (same : old.plugin = entry.plugin)
        (hrun' : old.run = some scope) :
        w'.Starts (.run name entry.plugin scope) ∨
          Unended (e :: es) w' name entry.plugin scope := by
      rcases same ▸ ih hold hrun' with starts | unended
      · exact before.unended_of_starts step starts
      · rcases before.unended_of_unended step unended with unended | ⟨j, state, rfl⟩
        · exact .inr unended
        · exact absurd hrun (before.run_ne_of_recorded step found)
    have was := found
    rw [before.get?_of_step step] at was
    cases hop : e.op? with
    | none =>
      rw [hop] at was
      exact older was rfl hrun
    | some op =>
      rw [hop] at was
      cases Registry.was_of_get?_perform was with
      | same hold => exact older hold rfl hrun
      | @launched old hold idle =>
        -- the call that has begun the run goes on to start its task
        obtain rfl := Option.some.inj hrun
        have hl := launch?_of_step step hop
        rw [Registry.beginRun_eq_some_iff.2 ⟨old, hold, idle, rfl, rfl⟩] at hl
        obtain ⟨j, c, rfl⟩ := eq_asked_of_launch? hl
        obtain ⟨next, doing⟩ := exists_of_asked step
        cases goes_of_step before.fresh step doing with
        | same _ others => exact absurd rfl others
        | asked now =>
          refine .inl ((before.cons step).starts_of_due now ?_)
          rw [own_asked]
          rfl
      | polled hold => exact older hold rfl hrun
      | inserted | ended | stopped => cases hrun

/-! ### Runs that have ended -/

theorem Trace.launched_of_asked (t : Trace config es w) {x : HostExchange}
    (h : .asked j (.task (.run name plugin scope)) x ∈ es) :
    ∃ e ∈ es, e.launch? = some (name, plugin, scope) := by
  obtain ⟨later, earlier, rfl⟩ := List.append_of_mem h
  obtain ⟨w₁, w₂, before, step⟩ := t.split rfl
  obtain ⟨next, doing⟩ := exists_of_asked step
  obtain ⟨e, he, hl⟩ := before.launched doing
  exact ⟨e, List.mem_append_right _ (List.mem_cons_of_mem _ he), hl⟩

theorem Trace.plugin_eq_of_run (t : Trace config es w) (found : w.get? name = some entry)
    (hrun : entry.run = some scope) (h : e ∈ es)
    (hl : e.launch? = some (name, plugin, scope)) : entry.plugin = plugin := by
  obtain ⟨x, hx, hl'⟩ := exists_of_lastLaunch ((t.run_eq_lastLaunch found).2 scope hrun)
  obtain ⟨_, _, split⟩ := List.append_of_mem h
  obtain ⟨_, _, split'⟩ := List.append_of_mem hx
  obtain ⟨-, rfl⟩ := t.launch_unique split split' hl hl'
  cases hl.symm.trans hl'
  rfl

theorem Trace.run_ne_of_endRun (t : Trace config es w) {state : Lifecycle}
    (h : .asked j (.task (.run name plugin scope)) (of (.endRun name plugin state) ()) ∈ es)
    (found : w.get? name = some entry) : entry.run ≠ some scope := by
  induction t generalizing entry with
  | nil => cases h
  | @cons es w w' e before step ih =>
    rcases List.mem_cons.1 h with rfl | h
    · intro hrun
      -- an entry that has the run is of the same instance
      obtain ⟨e, he, hl⟩ := (before.cons step).launched_of_asked List.mem_cons_self
      obtain rfl := (before.cons step).plugin_eq_of_run found hrun he hl
      exact before.run_ne_of_recorded step found hrun
    · rw [before.get?_of_step step] at found
      cases hop : e.op? with
      | none =>
        rw [hop] at found
        exact ih h found
      | some op =>
        rw [hop] at found
        cases Registry.was_of_get?_perform found with
        | same hold => exact ih h hold
        | @launched old hold idle =>
          -- another run begins in a new scope
          obtain ⟨x, hx, hl⟩ := before.launched_of_asked h
          obtain ⟨k, hk, parent, rfl⟩ := before.scope_lt hx hl
          intro hrun
          have new : w.host.registry.scopes.next = k := (List.cons.inj (Option.some.inj hrun)).1
          exact Nat.ne_of_gt hk new
        | @polled old status hold => exact @ih old h hold
        | inserted | ended | stopped => exact nofun

theorem Trace.run_ne_of_ended (t : Trace config es w) {result : Option HostTask}
    (h : .ended j (.task (.run name plugin scope)) result ∈ es)
    (found : w.get? name = some entry) : entry.run ≠ some scope := by
  obtain ⟨later, earlier, split⟩ := List.append_of_mem h
  obtain ⟨w₁, before, doing⟩ := t.doing_of_ended split
  have recorded : ∃ state, of (.endRun name plugin state) () ∈ own j earlier := by
    have ends := t.keeps_ended HostCall.keeps_runPlugin split
    generalize own j earlier = past at ends
    cases ends with
    | finished => exact ⟨_, List.mem_cons_self⟩
    | failed => exact ⟨_, List.mem_cons_of_mem _ List.mem_cons_self⟩
  obtain ⟨state, mem⟩ := recorded
  obtain ⟨c, asked⟩ := mem_of_own mem
  obtain rfl := before.call_eq doing asked
  have asked :
      .asked j (.task (.run name plugin scope)) (of (.endRun name plugin state) ()) ∈ es := by
    rw [split]
    exact List.mem_append_right _ (List.mem_cons_of_mem _ asked)
  exact t.run_ne_of_endRun asked found

/-! ### Shutdowns -/

theorem Trace.rests_of_step (t : Trace config es w) (step : Step config w e w')
    (quiet : e.task? = none) (rests : ∀ task : HostTask, task.isAwaited = true → ¬ w.Does task)
    (task : HostTask) (awaited : task.isAwaited = true) : ¬ w'.Does task := by
  rintro ⟨j, x, doing⟩
  generalize hjob : (⟨.task task, x⟩ : Job) = job at doing
  cases came_of_step t.fresh step doing with
  | same found others => exact rests task awaited ⟨j, x, hjob ▸ found⟩
  | asked found =>
    cases hjob
    exact rests task awaited ⟨j, _, found⟩
  | called new outside =>
    cases hjob
    cases outside
  | spawned => cases quiet
  | @follows i t₀ t' new found =>
    have ends := t.allows found
    cases t₀ with
    | run => cases ends
    | pollAfter => exact rests _ rfl ⟨i, _, found⟩
    | poll => exact rests _ rfl ⟨i, _, found⟩
    | serve => cases ends
    | heed => cases ends

/-- If none of them is at work, and none is started, then none is at work later. -/
theorem Trace.rests (t : Trace config es w) (more : Steps config w later w')
    (quiet : ∀ e ∈ later, e.task? = none)
    (rests : ∀ task : HostTask, task.isAwaited = true → ¬ w.Does task) :
    ∀ task : HostTask, task.isAwaited = true → ¬ w'.Does task := by
  induction more with
  | nil => exact rests
  | cons before step ih =>
    obtain ⟨now, earlier⟩ := List.forall_mem_cons.1 quiet
    exact (t.append before).rests_of_step step now (ih earlier)

/-! ### Nothing is left running -/

/-- Whether a run goes on: its task is at work, or just about to be started. -/
def World.Runs (w : World) (name : String) (plugin : PluginId) (scope : Scope) : Prop :=
  w.Does (.run name plugin scope) ∨ w.Starts (.run name plugin scope)

/-- That no entry is left running. -/
structure RunsHaveTasks (config : Config) (es : List Event) (w : World) : Prop where
  /-- An entry that runs has a run of its own instance.  The task of the run is at work and has not
  recorded the end, or it is just about to be started by the call that has begun the run. -/
  task : ∀ {name entry}, w.get? name = some entry → entry.state = .running →
    ∃ scope, entry.run = some scope ∧ (Unended es w name entry.plugin scope ∨
      w.Starts (.run name entry.plugin scope))
  /-- Once no run goes on, no entry runs. -/
  idle : (∀ name plugin scope, ¬ w.Runs name plugin scope) →
    ∀ {name entry}, w.get? name = some entry → entry.state ≠ .running
  /-- Once the tasks of all runs that were ever launched have ended, no entry runs. -/
  finished :
    (∀ e ∈ es, ∀ {name plugin scope}, e.launch? = some (name, plugin, scope) →
      ∃ j result, .ended j (.task (.run name plugin scope)) result ∈ es) →
    ∀ {name entry}, w.get? name = some entry → entry.state ≠ .running
  /-- A shutdown has waited for all tasks before its time was over, and from then on nothing is
  launched: no task is started, nor is one about to be.  Then no entry runs, and no plugin is
  polled. -/
  shut_down : ∀ {j signals w₁ later w₂},
    Step config w (.asked j .shutDown (of (.await signals) .settled)) w₁ →
    (∀ task : HostTask, task.isAwaited = true → ¬ w.Does task) →
    Steps config w₁ later w₂ → (∀ e ∈ later, e.task? = none) → (∀ task, ¬ w₂.Starts task) →
    (∀ {name entry}, w₂.get? name = some entry →
      entry.state = .bound ∨ entry.state = .stopped ∨ ∃ why, entry.state = .failed why) ∧
    ∀ delay time interval name plugin scope,
      ¬ w₂.Does (.pollAfter delay interval name plugin scope) ∧
      ¬ w₂.Does (.poll time interval name plugin scope)

theorem Trace.exists_run (t : Trace config es w) (found : w.get? name = some entry)
    (running : entry.state = .running) : ∃ scope, entry.run = some scope := by
  have hrun := (t.run_eq_lastLaunch found).1
  rw [running] at hrun
  exact Option.isSome_iff_exists.1 hrun

theorem Trace.not_running_of_idle (t : Trace config es w)
    (idle : ∀ name plugin scope, ¬ w.Runs name plugin scope) (found : w.get? name = some entry) :
    entry.state ≠ .running := by
  intro running
  obtain ⟨scope, hrun⟩ := t.exists_run found running
  rcases t.unended_of_run found hrun with starts | ⟨j, x, doing, -⟩
  · exact idle name entry.plugin scope (.inr starts)
  · exact idle name entry.plugin scope (.inl ⟨j, x, doing⟩)

/-- **No entry is left running**, whatever is registered, replaced, started, stopped and removed, and
whenever the tasks of runs come to record their ends. -/
theorem Trace.runs_have_tasks (t : Trace config es w) : RunsHaveTasks config es w where
  task found running := by
    obtain ⟨scope, hrun⟩ := t.exists_run found running
    exact ⟨scope, hrun, (t.unended_of_run found hrun).symm⟩
  idle idle := t.not_running_of_idle idle
  finished finished := by
    intro name entry found running
    obtain ⟨scope, hrun⟩ := t.exists_run found running
    obtain ⟨e, he, hl⟩ := exists_of_lastLaunch ((t.run_eq_lastLaunch found).2 scope hrun)
    obtain ⟨j, result, ended⟩ := finished e he hl
    exact t.run_ne_of_ended ended found hrun
  shut_down := by
    intro j signals w₁ later w₂ step settled more quiet unlaunched
    have after := t.rests_of_step step rfl settled
    have rests := (t.cons step).rests more quiet after
    refine ⟨fun {name entry} found => ?_, fun delay time interval name plugin scope =>
      ⟨rests _ rfl, rests _ rfl⟩⟩
    have halted : entry.state ≠ .running := by
      refine ((t.cons step).append more).not_running_of_idle (fun name plugin scope runs => ?_) found
      exact runs.elim (rests _ rfl) (unlaunched _)
    cases hstate : entry.state with
    | bound => exact .inl rfl
    | running => exact absurd hstate halted
    | stopped => exact .inr (.inl rfl)
    | failed why => exact .inr (.inr ⟨why, rfl⟩)

/-- A plugin is started and polled, and fails; then the host is shut down, and its polling ends. -/
def shutDownAfterFailure : List Turn :=
  [.call (.add "a" 0), .go 0, .go 0, .go 0, .call .startAll, .go 1, .go 1, .go 1,
    .call .startPolling, .go 3, .go 3, .go 3, .go 2, .go 2, .go 2, .go 2,
    .call .shutDown, .go 5, .go 5, .go 4, .go 4, .go 4]

theorem runs_have_tasks_failed : ∃ es w w₁ j signals entry,
    RunsHaveTasks (onePlugin "a") es w ∧
    Step (onePlugin "a") w (.asked j .shutDown (of (.await signals) .settled)) w₁ ∧
    (∀ task : HostTask, task.isAwaited = true → ¬ w.Does task) ∧
    w₁.get? "a" = some entry ∧ entry.state = .failed "Runtime error: late" := by
  have played :
      (play (onePlugin "a") (.failing (.runtime "late") "a") shutDownAfterFailure ([], .new)).bind
        (fun p => (p.2.turn (onePlugin "a") (.failing (.runtime "late") "a") (.go 5)).bind
          fun q => q.1.settled?.map fun s =>
            (s, p.2.tasks, (q.2.get? "a").map Entry.state)) =
      some ((5, [.settled, .due 0]), [], some (.failed "Runtime error: late")) := by
    decide +kernel
  obtain ⟨⟨es, w⟩, hplay, hw⟩ := Option.bind_eq_some_iff.1 played
  obtain ⟨⟨e, w₁⟩, hturn, hw₁⟩ := Option.bind_eq_some_iff.1 hw
  obtain ⟨s, hs, heq⟩ := Option.map_eq_some_iff.1 hw₁
  obtain ⟨rfl, hrest⟩ := Prod.mk.inj heq
  obtain ⟨htasks, hstate⟩ := Prod.mk.inj hrest
  obtain ⟨entry, found, failed⟩ := Option.map_eq_some_iff.1 hstate
  obtain rfl := eq_asked_of_settled? hs
  have t : Trace (onePlugin "a") es w := trace_play .nil hplay
  have idle (task : HostTask) : ¬ w.Does task := by
    rintro ⟨j, x, doing⟩
    have mem : task ∈ w.tasks := mem_tasks t.fresh doing
    rw [htasks] at mem
    cases mem
  exact ⟨es, w, w₁, 5, _, entry, t.runs_have_tasks, step_turn hturn, fun task _ => idle task,
    found, failed⟩

end Host

end Sidecar
