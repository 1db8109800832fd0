import Sidecar.Proofs.Rehearsal.Waiting

/-!
# Stopping all plugins

What an instance does when it is stopped is free (`Stopping`): it returns a result after some
milliseconds, or it never returns.  A `Scene` is a stage on which the host stops such instances,
with the calls that were made.  Its entries may be in any state, and its plugins may run and be polled:
all tasks on it wait until the last instance has been stopped (`Stage.Waits`, `stoppedBy`).

* `Scene.perform_stopPlugin` : to stop one plugin is one call, after which the stage is like
  `Stage.afterStop`;
* `Scene.exists_rounds` : to stop some plugins makes `Rounds` of such calls;
* `Scene.exists_stopAll` : **what it comes to that all plugins are stopped**, `StopsAll`: in which
  order and when they are called, with what result, and what becomes of their entries and runs.
-/

namespace Sidecar.Rehearsal

open Host (stopPlugin stopEach lateStop)

/-! ### Instances that are stopped -/

/-- What an instance does when it is stopped. -/
inductive Stopping where
  /-- It returns after some milliseconds. -/
  | returns (millis : Nat) (result : Except PluginError Unit)
  /-- It never returns. -/
  | never

namespace Stopping

/-- The stop of an instance at a time. -/
def activity (began : Nat) : Stopping → Playing (Except PluginError Unit)
  | returns millis result => awaitDue [began + millis * Span.perMilli] fun _ => result
  | never => awaitDue [] fun _ => .ok ()

/-- What comes of a stop for which a timer is set: its result, if it has returned when the timer
goes off. -/
def outcome (began timer : Nat) : Stopping → Option (Except PluginError Unit)
  | returns millis result =>
    if began + millis * Span.perMilli ≤ Clock.fires timer then some result else none
  | never => none

/-- What is due first, the stop or the timer. -/
def due (began timer : Nat) : Stopping → Nat
  | returns millis _ => min (began + millis * Span.perMilli) timer
  | never => timer

/-- When a stop is over for which a timer is set. -/
def ended (began timer : Nat) (b : Stopping) : Nat :=
  if b.due began timer ≤ began then began else Clock.fires (b.due began timer)

end Stopping

variable {s : Stage} {limit : Span} {fuel later : Nat}

/-- A stop that takes whole milliseconds has returned when the first timer has gone off exactly if
it has when that of the limit goes off. -/
theorem Stage.le_now_reach_iff {timer millis : Nat} (later : s.now ≤ timer) :
    s.now + millis * Span.perMilli ≤
        (s.reach (min (s.now + millis * Span.perMilli) timer)).now ↔
      s.now + millis * Span.perMilli ≤ Clock.fires timer := by
  have limited := Clock.le_fires timer
  rw [reach]
  split_ifs with now
  · -- the clock stands still: the stop returns at once, or the limit is over at once
    cases millis with
    | zero => omega
    | succ n =>
      have more : Span.perMilli ≤ (n + 1) * Span.perMilli := Nat.le_mul_of_pos_left _ n.succ_pos
      have at_once : timer = s.now := by
        have : 0 < Span.perMilli := by decide
        omega
      have early := Clock.fires_lt timer
      omega
  · rw [Stage.now_setClock]
    refine ⟨fun h => Nat.le_trans h (Clock.fires_mono (Nat.min_le_right _ _)), fun h => ?_⟩
    rcases Nat.le_total (s.now + millis * Span.perMilli) timer with le | le
    · rw [Nat.min_eq_left le]
      exact Clock.le_fires _
    · rwa [Nat.min_eq_right le]

/-- **What comes of a stop with a limit.** -/
theorem Stage.playFrom_stop (waits : s.Waits later) (distinct : s.host.registry.Distinct)
    (b : Stopping) (enough : b.ended s.now (Clock.deadline s.now limit) ≤ later) :
    ∃ s' : Stage, s'.Alike (s.setClock (b.ended s.now (Clock.deadline s.now limit))) ∧
      s'.Waits later ∧ s.playFrom (fuel + 4) (timed limit (b.activity s.now)) =
        some (b.outcome s.now (Clock.deadline s.now limit), s') := by
  have since := Clock.le_deadline s.now limit
  generalize hd : Clock.deadline s.now limit = timer at *
  have clock : s.reach (b.due s.now timer) = s.setClock (b.ended s.now timer) := by
    rw [reach, Stopping.ended]
    split <;> rfl
  have enough : (s.reach (b.due s.now timer)).now ≤ later := clock ▸ enough
  rw [← clock]
  cases b with
  | never =>
    refine @playFrom_timed _ s limit [] _ fuel later waits distinct timer timer enough
      (by rw [hd]; rfl) ?_
    rw [hd]
    exact List.find?_cons_of_pos (decide_eq_true (s.le_now_reach timer))
  | returns millis result =>
    have in_time := @Stage.le_now_reach_iff s timer millis since
    simp only [Stopping.activity, Stopping.outcome, Stopping.due, ← in_time]
    exact playFrom_timed_one waits distinct enough hd

/-! ### Calls of stops -/

/-- A call of the stop of an instance. -/
structure StopCall where
  plugin : PluginId
  /-- For how long it is waited. -/
  limit : Span
  /-- When it is made. -/
  began : Nat
  /-- When it is waited for no more. -/
  ended : Nat
  /-- Its result, unless it takes too long. -/
  outcome : Option (Except PluginError Unit)

/-- Why a stop has failed, if it has. -/
def StopCall.failure? (c : StopCall) : Option PluginError :=
  match c.outcome with
  | some (.ok ()) => none
  | some (.error why) => some why
  | none => some (lateStop c.limit)

/-- The call of the stop of an instance at a time. -/
def Stopping.call (b : Stopping) (plugin : PluginId) (limit : Span) (began : Nat) : StopCall where
  plugin
  limit
  began
  ended := b.ended began (Clock.deadline began limit)
  outcome := b.outcome began (Clock.deadline began limit)

/-- A stage with the stops that were called on it, the oldest first. -/
structure Scene where
  stage : Stage
  calls : List StopCall

namespace Scene

variable {α β : Type} {behave : PluginId → Stopping}

/-- Answer a question of the host.  An instance that is stopped does what it is said to do, with the
limit that actors have (`hostAnswer_stop`); everything else is a question about the records. -/
def answer? (behave : PluginId → Stopping) (s : Scene) : (q : HostAsk) → Option (q.Reply × Scene)
  | .stop plugin limit =>
    (s.stage.playFrom Stage.patience (timed limit ((behave plugin).activity s.stage.now))).map
      fun (outcome, stage) =>
        (outcome, {
          stage
          calls := s.calls ++
            [{ plugin, limit, began := s.stage.now, ended := stage.now, outcome }] })
  | q => (s.stage.answer? (.records q)).map fun (r, stage) => (r, { s with stage })

/-- Do what the host is to do: the result, and the scene afterwards. -/
def perform (behave : PluginId → Stopping) (x : Hosting α) (s : Scene) : Option (α × Scene) :=
  x.run (m := StateT Scene Option) (fun q s => s.answer? behave q) s

theorem perform_bind {s : Scene} (x : Hosting α) (f : α → Hosting β) :
    perform behave (x >>= f) s = (perform behave x s).bind fun p => perform behave (f p.1) p.2 := by
  rw [perform, Activity.run_bind]
  rfl

theorem perform_ask {s s' : Scene} {q : HostAsk} {r : q.Reply} {f : q.Reply → Hosting β}
    (answer : s.answer? behave q = some (r, s')) :
    perform behave (Hosting.ask q >>= f) s = perform behave (f r) s' :=
  Activity.run_query_bind answer

end Scene

/-- Record that the plugin of a name was stopped, if it was. -/
def Stage.recordStop (s : Stage) (name : String) (c : StopCall) : Stage :=
  match c.failure? with
  | none => { s with host := s.host.withRegistry (·.markStopped name c.plugin) }
  | some _ => s

/-- The stage after the plugin of a name was stopped. -/
def Stage.afterStop (s : Stage) (name : String) (c : StopCall) : Stage :=
  (s.setClock c.ended).recordStop name c

/-- The instances of some names. -/
def Stage.instances (s : Stage) (names : List String) : List PluginId :=
  names.filterMap fun name => (s.host.registry.get? name).map Entry.plugin

/-- When some instances have been stopped, one after another. -/
def stoppedBy (settings : HostSettings) (behave : PluginId → Stopping) (now : Nat)
    (plugins : List PluginId) : Nat :=
  plugins.foldl (fun began p => ((behave p).call p settings.stopTimeout began).ended) now

variable {settings : HostSettings} {behave : PluginId → Stopping} {s s₁ s' : Stage} {name : String}
  {plugin : PluginId} {calls : List StopCall} {later : Nat}

theorem Scene.answer?_stop (waits : s.Waits later) (distinct : s.host.registry.Distinct)
    {limit : Span} (enough : ((behave plugin).call plugin limit s.now).ended ≤ later) :
    ∃ s' : Stage, s'.Alike (s.setClock ((behave plugin).call plugin limit s.now).ended) ∧
      s'.Waits later ∧ Scene.answer? behave ⟨s, calls⟩ (.stop plugin limit) =
        some (((behave plugin).call plugin limit s.now).outcome,
          ⟨s', calls ++ [(behave plugin).call plugin limit s.now]⟩) := by
  -- four steps are enough, and there are more
  obtain ⟨fuel, steps⟩ : ∃ fuel, Stage.patience = fuel + 4 := ⟨999999996, rfl⟩
  obtain ⟨s', like, waits', played⟩ :=
    @Stage.playFrom_stop s limit fuel later waits distinct (behave plugin) enough
  refine ⟨s', like, waits', ?_⟩
  rw [answer?, steps, played]
  have ended : s'.now = ((behave plugin).call plugin limit s.now).ended := like.now
  simp only [Option.map_some, ended]
  rfl

theorem Stage.Alike.recordStop {c : StopCall} (h : s.Alike s') :
    (s.recordStop name c).Alike (s'.recordStop name c) := by
  unfold Stage.recordStop
  cases c.failure? with
  | none => exact ⟨h.box, congrArg (·.markStopped name c.plugin) h.registry, h.interrupted⟩
  | some why => exact h

theorem Stage.Waits.recordStop {c : StopCall} (h : s.Waits later) (sound : s.host.registry.Sound) :
    (s.recordStop name c).Waits later := by
  unfold Stage.recordStop
  cases c.failure? with
  | none =>
    refine h.mono h.ids (fun t mem => mem) rfl (fun runs => runs.markStopped sound) fun {u} going => ?_
    refine ⟨eq_false_of_ne_true fun cancelled => ne_true_of_eq_false going ?_, id⟩
    exact (@Registry.isCancelled_perform _ (.markStopped name c.plugin) u).2 (.inr cancelled)
  | some why => exact h

/-- **To stop a plugin** is one call; if that succeeds then it is recorded. -/
theorem Scene.perform_stopPlugin (waits : s.Waits later) (distinct : s.host.registry.Distinct)
    (sound : s.host.registry.Sound) {c : StopCall}
    (called : (behave plugin).call plugin settings.stopTimeout s.now = c)
    (enough : c.ended ≤ later) :
    ∃ s' : Stage, s'.Alike (s.afterStop name c) ∧ s'.Waits later ∧
      perform behave (stopPlugin settings name plugin) ⟨s, calls⟩ =
        some (match c.failure? with | none => .ok () | some why => .error why,
          ⟨s', calls ++ [c]⟩) := by
  have instance_eq : c.plugin = plugin := called ▸ rfl
  have limit_eq : c.limit = settings.stopTimeout := called ▸ rfl
  obtain ⟨s₁, like, waits', answer⟩ := @Scene.answer?_stop behave s plugin calls later waits distinct
    settings.stopTimeout (called ▸ enough)
  rw [called] at like answer
  refine ⟨s₁.recordStop name c, like.recordStop, waits'.recordStop (like.registry ▸ sound),
    (perform_ask answer).trans ?_⟩
  rw [Stage.recordStop, StopCall.failure?]
  cases c.outcome with
  | none =>
    rw [limit_eq]
    rfl
  | some result =>
    cases result with
    | error why => rfl
    | ok =>
      rw [instance_eq]
      exact perform_ask rfl

/-- The names of the plugins that could not be stopped, each with the reason. -/
def failures (rounds : List (String × StopCall)) : List (String × PluginError) :=
  rounds.filterMap fun p => p.2.failure?.map (p.1, ·)

/-- What happens when plugins are stopped one after another on a stage: the calls, each with the
name of the plugin, and the stage afterwards. -/
inductive Rounds (settings : HostSettings) (behave : PluginId → Stopping) :
    Stage → List (String × StopCall) → Stage → Prop
  | nil {s : Stage} : Rounds settings behave s [] s
  | cons {s s₁ s' : Stage} {name : String} {e : Entry} {c : StopCall}
      {rounds : List (String × StopCall)} (found : s.host.registry.get? name = some e)
      (called : (behave e.plugin).call e.plugin settings.stopTimeout s.now = c)
      (like : s₁.Alike (s.afterStop name c)) (rest : Rounds settings behave s₁ rounds s') :
      Rounds settings behave s ((name, c) :: rounds) s'

/-- **What a stop does to the entries.** -/
theorem Stage.get?_afterStop {c : StopCall} {e : Entry} (like : s₁.Alike (s.afterStop name c))
    (found : s.host.registry.get? name = some e) (same : c.plugin = e.plugin) {other : String} :
    s₁.host.registry.get? other =
      if other = name ∧ c.failure? = none then some { e with state := .stopped, run := none }
      else s.host.registry.get? other := by
  rw [like.registry, Stage.afterStop, Stage.recordStop]
  cases failed : c.failure? with
  | some why =>
    rw [if_neg fun both => Option.some_ne_none why both.2]
    rfl
  | none =>
    change (s.host.registry.perform (.markStopped name c.plugin)).get? other = _
    rw [Registry.get?_perform_markStopped]
    by_cases h : other = name
    · subst h
      rw [if_pos rfl, if_pos ⟨rfl, rfl⟩, found, Option.map_some, if_pos same.symm]
    · rw [if_neg h, if_neg fun both => h both.1]

theorem Stage.now_afterStop {c : StopCall} (like : s₁.Alike (s.afterStop name c)) :
    s₁.now = c.ended := by
  rw [like.now, Stage.afterStop, Stage.recordStop]
  cases c.failure? <;> rfl

theorem Stage.distinct_afterStop {c : StopCall} (like : s₁.Alike (s.afterStop name c))
    (distinct : s.host.registry.Distinct) : s₁.host.registry.Distinct := by
  rw [like.registry, Stage.afterStop, Stage.recordStop]
  cases c.failure? with
  | some why => exact distinct
  | none => exact distinct.perform (.markStopped name c.plugin)

theorem Stage.sound_afterStop {c : StopCall} (like : s₁.Alike (s.afterStop name c))
    (sound : s.host.registry.Sound) : s₁.host.registry.Sound := by
  rw [like.registry, Stage.afterStop, Stage.recordStop]
  cases c.failure? with
  | some why => exact sound
  | none => exact sound.perform (.markStopped name c.plugin)

theorem Stage.instances_afterStop {c : StopCall} {e : Entry}
    (like : s₁.Alike (s.afterStop name c)) (found : s.host.registry.get? name = some e)
    (same : c.plugin = e.plugin) {names : List String} : s₁.instances names = s.instances names := by
  refine List.filterMap_congr fun other _ => ?_
  rw [Stage.get?_afterStop like found same]
  split_ifs with stopped
  · rw [stopped.1, found]
    rfl
  · rfl

theorem Stopping.began_le_ended {b : Stopping} {began timer : Nat} :
    began ≤ b.ended began timer := by
  unfold ended
  split_ifs with h
  · exact Nat.le_refl began
  · exact Nat.le_trans (Nat.le_of_not_le h) (Clock.le_fires _)

theorem le_stoppedBy {now : Nat} {plugins : List PluginId} :
    now ≤ stoppedBy settings behave now plugins := by
  induction plugins generalizing now with
  | nil => exact Nat.le_refl now
  | cons p plugins ih => exact Nat.le_trans Stopping.began_le_ended ih

/-- **To stop some plugins comes to an end**, whatever the instances do. -/
theorem Scene.exists_rounds {names : List String} (waits : s.Waits later)
    (distinct : s.host.registry.Distinct) (sound : s.host.registry.Sound)
    (enough : stoppedBy settings behave s.now (s.instances names) ≤ later)
    (registered : ∀ name ∈ names, ∃ e, s.host.registry.get? name = some e) :
    ∃ rounds s', rounds.map Prod.fst = names ∧ Rounds settings behave s rounds s' ∧
      perform behave (stopEach settings names) ⟨s, calls⟩ =
        some (failures rounds, ⟨s', calls ++ rounds.map Prod.snd⟩) := by
  induction names generalizing s calls with
  | nil =>
    refine ⟨[], s, rfl, .nil, ?_⟩
    rw [List.map_nil, List.append_nil]
    rfl
  | cons name names ih =>
    obtain ⟨e, found⟩ := registered name List.mem_cons_self
    obtain ⟨c, called⟩ : ∃ c, (behave e.plugin).call e.plugin settings.stopTimeout s.now = c :=
      ⟨_, rfl⟩
    have same : c.plugin = e.plugin := called ▸ rfl
    -- the others are stopped from the time on at which this one has been
    have instances : s.instances (name :: names) = e.plugin :: s.instances names := by
      rw [Stage.instances, List.filterMap_cons, found]
      rfl
    have others : stoppedBy settings behave c.ended (s.instances names) ≤ later := by
      rw [instances] at enough
      exact called ▸ enough
    obtain ⟨s₁, like, waits₁, stopped⟩ := @Scene.perform_stopPlugin settings behave s name e.plugin
      calls later waits distinct sound c called (Nat.le_trans le_stoppedBy others)
    obtain ⟨rounds, s', hnames, rest, performed⟩ := @ih s₁ (calls ++ [c]) waits₁
      (Stage.distinct_afterStop like distinct) (Stage.sound_afterStop like sound)
      (by rwa [Stage.now_afterStop like, Stage.instances_afterStop like found same])
      fun other mem => by
        rw [Stage.get?_afterStop like found same]
        split_ifs
        · exact ⟨_, rfl⟩
        · exact registered other (List.mem_cons_of_mem _ mem)
    refine ⟨(name, c) :: rounds, s', congrArg _ hnames, .cons found called like rest, ?_⟩
    have looked : Scene.answer? behave ⟨s, calls⟩ (.lookup name) = some (some e, ⟨s, calls⟩) :=
      found ▸ rfl
    refine (perform_ask looked).trans ((perform_bind _ _).trans ?_)
    rw [stopped, Option.bind_some, failures, List.filterMap_cons]
    cases c.failure? with
    | none =>
      refine performed.trans ?_
      rw [List.append_assoc]
      rfl
    | some why =>
      refine (perform_bind _ _).trans ?_
      rw [performed]
      refine congrArg some ?_
      rw [List.append_assoc]
      rfl

/-! ### What some rounds come to -/

/-- That calls are made one after another from one time to another. -/
def InTurn : Nat → List StopCall → Nat → Prop
  | now, [], later => later = now
  | now, c :: calls, later => c.began = now ∧ now ≤ c.ended ∧ InTurn c.ended calls later

variable {c : StopCall} {e : Entry} {rounds : List (String × StopCall)}

theorem Stopping.ended_le {b : Stopping} {began timer : Nat} (later : began ≤ timer) :
    b.ended began timer ≤ Clock.fires timer := by
  have due : b.due began timer ≤ timer := by
    cases b with
    | returns millis result => exact Nat.min_le_right _ _
    | never => exact Nat.le_refl timer
  unfold ended
  split_ifs
  · exact Nat.le_trans later (Clock.le_fires timer)
  · exact Clock.fires_mono due

theorem Stopping.outcome_call_iff {b : Stopping} {plugin : PluginId} {limit : Span} {began : Nat}
    {result : Except PluginError Unit} (near : began + limit.nanos < Clock.horizon)
    (whole : Span.perMilli ∣ began + limit.nanos) :
    (b.call plugin limit began).outcome = some result ↔
      ∃ millis, b = .returns millis result ∧ millis * Span.perMilli ≤ limit.nanos := by
  have fires : Clock.fires (Clock.deadline began limit) = began + limit.nanos := by
    rw [Clock.deadline, if_pos near, Clock.fires_of_dvd whole]
  cases b with
  | never => simp [Stopping.call, Stopping.outcome]
  | returns millis result =>
    simp only [Stopping.call, Stopping.outcome, fires, Nat.add_le_add_iff_left]
    split_ifs with in_time
    · simp [in_time]
    · simp [in_time]

/-- **What a stop does to the scopes.** -/
theorem Stage.isCancelled_afterStop (like : s₁.Alike (s.afterStop name c))
    (found : s.host.registry.get? name = some e) (same : c.plugin = e.plugin) {u : Scope} :
    s₁.host.isCancelled u ↔
      (c.failure? = none ∧ ∃ run, e.run = some run ∧ run <:+ u) ∨ s.host.isCancelled u := by
  rw [like.isCancelled, Stage.afterStop, Stage.recordStop]
  cases failed : c.failure? with
  | some why => simp [Stage.setClock]
  | none =>
    have cancels : s.host.registry.cancels (.markStopped name c.plugin) = e.run.toList := by
      simp [Registry.cancels, found, same]
    change (s.host.registry.perform (.markStopped name c.plugin)).isCancelled u ↔ _
    rw [Registry.isCancelled_perform, cancels]
    simp only [Option.mem_toList, true_and]
    rfl

namespace Rounds

variable (h : Rounds settings behave s rounds s')
include h

theorem in_turn : InTurn s.now (rounds.map Prod.snd) s'.now := by
  induction h with
  | nil => rfl
  | cons found called like rest ih =>
    rw [Stage.now_afterStop like] at ih
    subst called
    exact ⟨rfl, Stopping.began_le_ended, ih⟩

theorem distinct (distinct : s.host.registry.Distinct) : s'.host.registry.Distinct := by
  induction h with
  | nil => exact distinct
  | cons found called like rest ih => exact ih (Stage.distinct_afterStop like distinct)

theorem get?_of_not_mem {other : String} (other_not_mem : other ∉ rounds.map Prod.fst) :
    s'.host.registry.get? other = s.host.registry.get? other := by
  induction h with
  | nil => rfl
  | @cons s s₁ s' name e c rounds found called like rest ih =>
    have same : c.plugin = e.plugin := called ▸ rfl
    rw [ih (List.not_mem_of_not_mem_cons other_not_mem), Stage.get?_afterStop like found same,
      if_neg fun both => List.ne_of_not_mem_cons other_not_mem both.1]

/-- **The entry of each round**: its instance is stopped, which is recorded if it succeeds. -/
theorem entry_of_mem (once : (rounds.map Prod.fst).Nodup) {name : String} {c : StopCall}
    (mem : (name, c) ∈ rounds) :
    ∃ e, s.host.registry.get? name = some e ∧
      (behave e.plugin).call e.plugin settings.stopTimeout c.began = c ∧
      s'.host.registry.get? name =
        some (if c.failure? = none then { e with state := .stopped, run := none } else e) := by
  induction h with
  | nil => cases mem
  | @cons s s₁ s' first e₀ c₀ rounds found called like rest ih =>
    obtain ⟨new, once⟩ := List.nodup_cons.1 once
    have same : c₀.plugin = e₀.plugin := called ▸ rfl
    rcases List.mem_cons.1 mem with heq | mem
    · cases heq
      refine ⟨e₀, found, ?_, ?_⟩
      · subst called
        rfl
      · rw [rest.get?_of_not_mem new, Stage.get?_afterStop like found same]
        split_ifs with h₁ h₂ h₂
        · rfl
        · exact absurd h₁.2 h₂
        · exact absurd ⟨rfl, h₂⟩ h₁
        · exact found
    · obtain ⟨e, found', hc, left⟩ := ih once mem
      have ne : name ≠ first := fun heq => new (List.mem_map.2 ⟨_, mem, heq⟩)
      rw [Stage.get?_afterStop like found same, if_neg fun both => ne both.1] at found'
      exact ⟨e, found', hc, left⟩

/-- **What is cancelled**: the runs of the instances that were stopped. -/
theorem isCancelled_iff (once : (rounds.map Prod.fst).Nodup) {u : Scope} :
    s'.host.isCancelled u ↔
      (∃ p ∈ rounds, p.2.failure? = none ∧ ∃ e, s.host.registry.get? p.1 = some e ∧
        ∃ run, e.run = some run ∧ run <:+ u) ∨ s.host.isCancelled u := by
  induction h with
  | nil => simp
  | @cons s s₁ s' first e₀ c₀ rounds found called like rest ih =>
    obtain ⟨new, once⟩ := List.nodup_cons.1 once
    have same : c₀.plugin = e₀.plugin := called ▸ rfl
    -- the other entries are still as they were
    have before {p : String × StopCall} (mem : p ∈ rounds) :
        s₁.host.registry.get? p.1 = s.host.registry.get? p.1 := by
      have ne : p.1 ≠ first := fun heq => new (List.mem_map.2 ⟨p, mem, heq⟩)
      rw [Stage.get?_afterStop like found same, if_neg fun both => ne both.1]
    rw [ih once, Stage.isCancelled_afterStop like found same, List.exists_mem_cons_iff, ← or_assoc]
    refine or_congr_left (or_comm.trans (or_congr ?_ (exists_congr fun p => ?_)))
    · simp [found]
    · exact and_congr_right fun mem => by rw [before mem]

end Rounds

/-! ### Stopping all plugins -/

theorem StopCall.failure?_eq_none_iff : c.failure? = none ↔ c.outcome = some (.ok ()) := by
  unfold failure?
  split <;> simp_all

/-- The result of stopping all plugins, by those that could not be stopped. -/
def resultOf : List (String × PluginError) → Except HostError Unit
  | [] => .ok ()
  | failures => .error (.stopAll failures)

theorem failures_eq_nil_iff :
    failures rounds = [] ↔ ∀ {name c}, (name, c) ∈ rounds → c.outcome = some (.ok ()) := by
  simp only [failures, List.filterMap_eq_nil_iff, Option.map_eq_none_iff, Prod.forall,
    StopCall.failure?_eq_none_iff]

theorem resultOf_eq_ok_iff {failures : List (String × PluginError)} :
    resultOf failures = .ok () ↔ failures = [] := by
  cases failures <;> simp [resultOf]

theorem resultOf_of_ne_nil {failures : List (String × PluginError)} (nonempty : failures ≠ []) :
    resultOf failures = .error (.stopAll failures) := by
  cases failures with
  | nil => exact absurd rfl nonempty
  | cons => rfl

/-- What happens when all plugins are stopped, while everything else waits. -/
structure StopsAll (settings : HostSettings) (behave : PluginId → Stopping) (s s' : Stage)
    (rounds : List (String × StopCall)) (result : Except HostError Unit) : Prop where
  /-- The last in the order of starts is stopped first. -/
  order : rounds.map Prod.fst = s.host.registry.names.reverse
  /-- No name has two calls. -/
  once : (rounds.map Prod.fst).Nodup
  /-- Every plugin has a call. -/
  every : ∀ {name e}, s.host.registry.get? name = some e → ∃ c, (name, c) ∈ rounds
  /-- A call is that of the instance of the name, with the limit of the settings. -/
  called : ∀ {name c}, (name, c) ∈ rounds → ∃ e, s.host.registry.get? name = some e ∧
    (behave e.plugin).call e.plugin settings.stopTimeout c.began = c
  /-- A call is made when the one before is over. -/
  in_turn : InTurn s.now (rounds.map Prod.snd) s'.now
  /-- No call is waited for once the timer of the limit has gone off, and so for no longer than the
  limit but for the rest of a millisecond: a limit beyond the horizon of the clock is cut short. -/
  bounded : ∀ {name c}, (name, c) ∈ rounds →
    c.ended ≤ Clock.fires (Clock.deadline c.began settings.stopTimeout) ∧
      (c.began + Clock.farAhead ≤ Clock.horizon →
        c.ended ≤ Clock.fires (c.began + settings.stopTimeout.nanos))
  /-- If the limit ends with a whole millisecond then a call has a result exactly if the instance
  takes no longer than the limit. -/
  in_time : ∀ {name c}, (name, c) ∈ rounds → c.began + settings.stopTimeout.nanos < Clock.horizon →
    Span.perMilli ∣ c.began + settings.stopTimeout.nanos → ∀ result,
      (c.outcome = some result ↔ ∃ millis, behave c.plugin = .returns millis result ∧
        millis * Span.perMilli ≤ settings.stopTimeout.nanos)
  /-- The result is fine exactly if all were stopped in time. -/
  ok_iff : result = .ok () ↔ ∀ {name c}, (name, c) ∈ rounds → c.outcome = some (.ok ())
  /-- Otherwise it lists those that could not be stopped, each with the reason, in the order of the
  calls. -/
  failed : result ≠ .ok () → result = .error (.stopAll (failures rounds))
  /-- A plugin that was stopped is recorded as stopped, and its run is cancelled and gone. -/
  stopped : ∀ {name c e}, (name, c) ∈ rounds → c.outcome = some (.ok ()) →
    s.host.registry.get? name = some e →
    s'.host.registry.get? name = some { e with state := .stopped, run := none } ∧
      ∀ run, e.run = some run → s'.host.isCancelled run
  /-- A plugin that could not be stopped keeps its state and its run. -/
  kept : ∀ {name c e}, (name, c) ∈ rounds → c.outcome ≠ some (.ok ()) →
    s.host.registry.get? name = some e →
    s'.host.registry.get? name = some e ∧
      ∀ run, e.run = some run → (s'.host.isCancelled run ↔ s.host.isCancelled run)
  /-- All plugins are still registered. -/
  names : s'.host.registry.names = s.host.registry.names

/-- **The names stay the same**, and so does their order. -/
theorem Rounds.names_eq (h : Rounds settings behave s rounds s')
    (once : (rounds.map Prod.fst).Nodup) (distinct : s.host.registry.Distinct) :
    s'.host.registry.names = s.host.registry.names := by
  refine Registry.names_eq (h.distinct distinct) distinct fun name => ?_
  by_cases mem : name ∈ rounds.map Prod.fst
  · obtain ⟨⟨name, c⟩, listed, rfl⟩ := List.mem_map.1 mem
    obtain ⟨e, found, -, left⟩ := h.entry_of_mem once listed
    rw [found, left]
    split_ifs <;> rfl
  · rw [h.get?_of_not_mem mem]

theorem Rounds.isCancelled_run_iff (h : Rounds settings behave s rounds s')
    (once : (rounds.map Prod.fst).Nodup) (sound : s.host.registry.Sound)
    (mem : (name, c) ∈ rounds) (found : s.host.registry.get? name = some e) {run : Scope}
    (hrun : e.run = some run) :
    s'.host.isCancelled run ↔ c.failure? = none ∨ s.host.isCancelled run := by
  rw [h.isCancelled_iff once]
  refine or_congr_left ⟨?_, fun stopped => ⟨_, mem, stopped, e, found, run, hrun, List.suffix_rfl⟩⟩
  rintro ⟨⟨other, c'⟩, mem', stopped, e', found', run', hrun', above⟩
  obtain rfl := sound.name_eq_of_run_suffix found' found hrun' hrun above List.suffix_rfl
  cases List.inj_on_of_nodup_map once mem mem' rfl
  exact stopped

/-- **What it comes to that the plugins are stopped in the reverse of the order of starts.** -/
theorem Rounds.stopsAll (h : Rounds settings behave s rounds s')
    (order : rounds.map Prod.fst = s.host.registry.names.reverse)
    (distinct : s.host.registry.Distinct) (sound : s.host.registry.Sound) :
    StopsAll settings behave s s' rounds (resultOf (failures rounds)) :=
  have once : (rounds.map Prod.fst).Nodup := order ▸ List.nodup_reverse.2 distinct.names_nodup
  { order
    once
    every := fun {name e} found => by
      have mem : name ∈ rounds.map Prod.fst :=
        order ▸ List.mem_reverse.2 (distinct.mem_names_iff.2 ⟨e, found⟩)
      obtain ⟨⟨name, c⟩, listed, rfl⟩ := List.mem_map.1 mem
      exact ⟨c, listed⟩
    called := fun mem => by
      obtain ⟨e, found, called, -⟩ := h.entry_of_mem once mem
      exact ⟨e, found, called⟩
    in_turn := h.in_turn
    bounded := fun {name c} mem => by
      obtain ⟨e, -, called, -⟩ := h.entry_of_mem once mem
      have timed : c.ended ≤ Clock.fires (Clock.deadline c.began settings.stopTimeout) := by
        rw [← called]
        exact Stopping.ended_le (Clock.le_deadline _ _)
      exact ⟨timed, fun near => Nat.le_trans timed (Clock.fires_mono (Clock.deadline_le near))⟩
    in_time := fun mem near whole result => by
      obtain ⟨e, -, called, -⟩ := h.entry_of_mem once mem
      rw [← called] at near whole ⊢
      exact Stopping.outcome_call_iff near whole
    ok_iff := resultOf_eq_ok_iff.trans failures_eq_nil_iff
    failed := fun failed => resultOf_of_ne_nil (mt resultOf_eq_ok_iff.2 failed)
    stopped := fun {name c e} mem stopped found => by
      have stopped := StopCall.failure?_eq_none_iff.2 stopped
      obtain ⟨e', found', -, left⟩ := h.entry_of_mem once mem
      cases found.symm.trans found'
      rw [if_pos stopped] at left
      exact ⟨left, fun run hrun =>
        (h.isCancelled_run_iff once sound mem found hrun).2 (.inl stopped)⟩
    kept := fun {name c e} mem failed found => by
      have failed := mt StopCall.failure?_eq_none_iff.1 failed
      obtain ⟨e', found', -, left⟩ := h.entry_of_mem once mem
      cases found.symm.trans found'
      rw [if_neg failed] at left
      exact ⟨left, fun run hrun =>
        (h.isCancelled_run_iff once sound mem found hrun).trans (or_iff_right failed)⟩
    names := h.names_eq once distinct }

theorem Scene.perform_stopAll :
    perform behave (Host.stopAll settings) ⟨s, calls⟩ =
      (perform behave (stopEach settings s.host.registry.names.reverse) ⟨s, calls⟩).map fun p =>
        (resultOf p.1, p.2) := by
  have listed : Scene.answer? behave ⟨s, calls⟩ .names =
      some (s.host.registry.names, ⟨s, calls⟩) := rfl
  refine (perform_ask listed).trans ((perform_bind _ _).trans ?_)
  cases perform behave (stopEach settings s.host.registry.names.reverse) ⟨s, calls⟩ with
  | none => rfl
  | some p =>
    obtain ⟨failures, s'⟩ := p
    cases failures <;> rfl

/-- **To stop all plugins comes to an end**, and to what, whatever is registered and whatever the
instances do, where no timer goes off before for which a task waits.  Every registry is distinct and
sound (`Registry.distinct_after`, `Registry.sound_after`). -/
theorem Scene.exists_stopAll (settings : HostSettings) (behave : PluginId → Stopping)
    (distinct : s.host.registry.Distinct) (sound : s.host.registry.Sound)
    (waits : s.Waits
      (stoppedBy settings behave s.now (s.instances s.host.registry.names.reverse))) :
    ∃ result s' rounds, Scene.perform behave (Host.stopAll settings) ⟨s, []⟩ =
        some (result, ⟨s', rounds.map Prod.snd⟩) ∧
      StopsAll settings behave s s' rounds result := by
  obtain ⟨rounds, s', order, h, performed⟩ := @exists_rounds settings behave s []
    _ _ waits distinct sound (Nat.le_refl _)
    fun name mem => distinct.mem_names_iff.1 (List.mem_reverse.1 mem)
  refine ⟨resultOf (failures rounds), s', rounds, ?_, h.stopsAll order distinct sound⟩
  rw [perform_stopAll, performed]
  rfl

/-- A configuration with three plugins. -/
def threePlugins : Config where
  plugins := [{ name := "a", bootOrder := 1, config := .object [] },
    { name := "b", bootOrder := 2, config := .object [] },
    { name := "c", bootOrder := 3, config := .object [] }]
  restartPolicy := .always
  resources := []
  startOrder := .after
  host := .default

/-- Register a mock plugin. -/
def Stage.addMock (s : Stage) (name : String) : Option Stage :=
  let (plugin, s) := s.cast (.mock (.new name))
  (s.operate (Host.addPlugin s.config name plugin)).map Prod.snd

/-- Three mock plugins are registered and started. -/
def threeStarted : Option (Nat × Stage) := do
  let context : StorageContext := { env := .empty, pod := none, listen := none, backoff := .default }
  let s ← (Stage.new threePlugins context .empty []).addMock "c"
  let s ← s.addMock "b"
  let s ← s.addMock "a"
  s.operate Host.startAll

/-- The stage on which they are registered. -/
def threeBound : Stage :=
  { Stage.new threePlugins { env := .empty, pod := none, listen := none, backoff := .default } .empty
      [] with
    actors := ["c", "b", "a"].map fun name => .mock { Mock.new name with labels := [none] }
    host := { Host.empty with
      registry := .after [.insert "a" 2 1, .insert "b" 1 2, .insert "c" 0 3] } }

/-- The stage on which they run. -/
def threeRunning : Stage :=
  { threeBound with
    actors := ["c", "b", "a"].map fun name =>
      .mock { Mock.new name with labels := [none], starts := 1, running := true }
    host := { Host.empty with
      registry := .after [.beginRun "c", .beginRun "b", .beginRun "a", .insert "a" 2 1,
        .insert "b" 1 2, .insert "c" 0 3] }
    tasks := [("a", 2, [3, 2]), ("b", 1, [4, 1]), ("c", 0, [5, 0])].zipIdx.map
      fun ((name, plugin, scope), id) =>
        { id, task := .host (.run name plugin scope)
          remaining := threeBound.pendingRun name plugin scope }
    nextTask := 3 }

theorem threeStarted_eq : threeStarted = some (3, threeRunning) := by
  have names : threeBound.host.registry.names = ["a", "b", "c"] :=
    (Registry.names_of_sorted (by decide +kernel)).trans rfl
  have listed : threeBound.runAhead false (perform threeBound.ctx Host.startAll) =
      threeBound.runAhead true (perform threeBound.ctx (Host.launchEach ["a", "b", "c"])) := by
    rw [← names]
    rfl
  obtain ⟨s, launched, rested⟩ : ∃ s, threeBound.runAhead false
      (perform threeBound.ctx Host.startAll) = (s, .done 3, true) ∧ s.rest = threeRunning :=
    ⟨_, listed.trans rfl, rfl⟩
  have started : threeStarted = threeBound.operate Host.startAll := rfl
  obtain ⟨fuel, steps⟩ : ∃ fuel, Stage.patience = fuel + 1 := ⟨999999999, rfl⟩
  rw [started, Stage.operate, Stage.play, steps, Stage.playFrom_of_done launched]
  exact congrArg (fun s => some (3, s)) rested

theorem waits_threeRunning {later : Nat} : threeRunning.Waits later where
  ids := by decide
  tasks := by
    have waits {id : Nat} {name : String} {plugin : PluginId} {scope : Scope} {m : Mock} {e : Entry}
        (acts : threeBound.actors[plugin]? = some (.mock m)) (loops : m.failStart = none)
        (going : threeBound.host.isCancelled scope = false)
        (found : threeRunning.host.registry.get? name = some e) (own : e.run = some scope)
        (still : threeRunning.host.isCancelled scope = false) :
        Running.Waits threeRunning later
          ⟨id, .host (.run name plugin scope), threeBound.pendingRun name plugin scope⟩ := by
      obtain ⟨next, remaining, winds⟩ := Stage.exists_pendingRun acts loops going
      refine ⟨⟨_, next, remaining, List.forall_mem_singleton.2 (winds _ fun e' found' _ _ => ?_)⟩,
        fun _ _ => rfl⟩
      cases found.symm.trans found'
      exact ⟨still, scope, own, List.suffix_rfl⟩
    refine List.forall_mem_cons.2 ⟨waits rfl rfl rfl rfl rfl rfl, List.forall_mem_cons.2
      ⟨waits rfl rfl rfl rfl rfl rfl, List.forall_mem_singleton.2 ?_⟩⟩
    exact waits rfl rfl rfl rfl rfl rfl

/-- One instance stops, one fails to, and one never returns. -/
def mixed : PluginId → Stopping
  | 2 => .returns 3 (.ok ())
  | 1 => .returns 20000 (.error (.runtime "busy"))
  | _ => .never

/-- Of three plugins that were registered and started, one is stopped; the other two cannot be, and
keep their runs. -/
theorem exists_stopAll_mixed : ∃ s s' rounds, threeStarted = some (3, s) ∧
    Scene.perform mixed (Host.stopAll .default) ⟨s, []⟩ =
      some (.error (.stopAll [("c", .runtime "stop did not complete within 20s"),
        ("b", .runtime "busy")]), ⟨s', rounds.map Prod.snd⟩) ∧
    StopsAll .default mixed s s' rounds
      (.error (.stopAll [("c", .runtime "stop did not complete within 20s"),
        ("b", .runtime "busy")])) ∧
    ["a", "b", "c"].map (fun name => (s'.host.registry.get? name).bind Entry.run) =
      [none, some [4, 1], some [5, 0]] := by
  obtain ⟨result, s', rounds, performed, stops⟩ := @Scene.exists_stopAll threeRunning .default mixed
    (Registry.distinct_after _) (Registry.sound_after _) waits_threeRunning
  have names : threeRunning.host.registry.names.reverse = ["c", "b", "a"] :=
    congrArg List.reverse ((Registry.names_of_sorted (by decide +kernel)).trans rfl)
  have computed : (Scene.perform mixed (stopEach .default ["c", "b", "a"]) ⟨threeRunning, []⟩).map
      (fun p => (p.1, ["a", "b", "c"].map fun name =>
        (p.2.stage.host.registry.get? name).bind Entry.run)) =
      some ([("c", .runtime "stop did not complete within 20s"), ("b", .runtime "busy")],
        [none, some [4, 1], some [5, 0]]) := by
    decide +kernel
  obtain ⟨⟨failures, scene⟩, stopped, heq⟩ := Option.map_eq_some_iff.1 computed
  obtain ⟨rfl, left⟩ := Prod.mk.inj heq
  have results := performed
  rw [Scene.perform_stopAll, names, stopped, Option.map_some] at results
  obtain ⟨rfl, rfl⟩ := Prod.mk.inj (Option.some.inj results)
  exact ⟨threeRunning, s', rounds, threeStarted_eq, performed, stops, left⟩

end Sidecar.Rehearsal
