import Mathlib.Tactic.SplitIfs
import Sidecar.Proofs.Activity
import Sidecar.Proofs.Registry.Lifetime
import Sidecar.Proofs.Registry.Names
import Sidecar.Rehearsal.Stage

/-!
# Tasks that only wait

While a plugin runs, its main loop is a task on the stage; its workers are tasks, and so is what polls
it.  Such tasks only wait (`Stage.Waits`) as long as no timer goes off that one of them waits for.
When a scope is cancelled then those that wait for it wind up (`WindsUp`): they change their actor, and
they say that a run has ended, which is on record already (`Registry.RunsIn`).  A main loop may wait
for its workers, and wind up when the last one has.

Whatever such tasks do leaves everything else on the stage as it is (`Stage.Alike`):

* `Stage.runAhead_windsUp` : to wind up;
* `Stage.turn_of_waits` : a turn, with which a task ends (`Stage.Ended`) unless it rests;
* `Stage.turned_pass` : a turn of every task.  After one pass all rest but those that wait for
  workers, and after another one these rest too (`Stage.Calm`);
* `Stage.exists_pendingRun` : the run of a mock plugin waits for its scope.
-/

namespace Sidecar

/-- Whether a run of an instance, if there is one on record, goes on as long as a scope. -/
def Registry.RunsIn (r : Registry) (u : Scope) (name : String) (plugin : PluginId) : Prop :=
  ∀ e, r.get? name = some e → e.plugin = plugin → e.state.isRunning →
    r.isCancelled u = false ∧ ∃ run, e.run = some run ∧ run <:+ u

/-- The stop of an instance ends its own run only. -/
theorem Registry.RunsIn.markStopped {r : Registry} {u : Scope} {name other : String}
    {plugin plugin' : PluginId} (h : r.RunsIn u name plugin) (sound : r.Sound) :
    (r.perform (.markStopped other plugin')).RunsIn u name plugin := by
  intro e found own running
  -- the entry was there before, and it is not that of the instance that was stopped
  have before : r.get? name = some e ∧ ¬ (name = other ∧ e.plugin = plugin') := by
    rw [get?_perform_markStopped] at found
    split_ifs at found with same
    · obtain ⟨e', found', heq⟩ := Option.map_eq_some_iff.1 found
      split_ifs at heq with stopped
      · cases heq
        cases running
      · cases heq
        exact ⟨found', fun both => stopped both.2⟩
    · exact ⟨found, fun both => same both.1⟩
  obtain ⟨going, run, hrun, above⟩ := h e before.1 own running
  refine ⟨eq_false_of_ne_true fun cancelled => ?_, run, hrun, above⟩
  rcases isCancelled_perform.1 cancelled with ⟨run', cancels, above'⟩ | cancelled
  · obtain ⟨stops, -⟩ | ⟨other', e', found', -, replaces | ⟨stops, hrun'⟩⟩ := mem_cancels cancels
    · cases stops
    · cases replaces
    · cases stops
      obtain rfl := sound.name_eq_of_run_suffix before.1 found' hrun hrun' above above'
      cases before.1.symm.trans found'
      exact before.2 ⟨rfl, rfl⟩
  · rw [going] at cancelled
    cases cancelled

namespace Rehearsal

/-! ### Waiting -/

/-- The questions of a task that winds up when a scope is cancelled. -/
def Ask.Winds (r : Registry) (u : Scope) : Ask → Prop
  | .update .. | .records (.report ..) | .breakOff => True
  | .records (.endRun name plugin _) => r.RunsIn u name plugin
  | _ => False

/-- Whether a task winds up when a scope is cancelled: it ends without waiting, and goes on as no
other. -/
def WindsUp (r : Registry) (u : Scope) (x : Playing (Option Task)) : Prop :=
  x.Keeps (fun _ (q : Ask) => q.Winds r u) (fun _ next => next = none) []

namespace Stage

/-- Whether a worker stays in a scope until that is cancelled, or a timer goes off. -/
def IsStaffed (s : Stage) (u : Scope) : Prop :=
  ∃ t ∈ s.tasks, t.task.isWorkerIn u ∧
    ∀ signal ∈ awaited t.remaining, signal = .cancelled u ∨ ∃ time, signal = .due time

/-- What may become of a task that waits for a signal: it does not come before some time, or the task
winds up. -/
def Heeds (s : Stage) (later : Nat) (next : Signal → Playing (Option Task)) : Signal → Prop
  | .due time => later < time
  | .cancelled u => WindsUp s.host.registry u (next (.cancelled u))
  | .idle u => WindsUp s.host.registry u (next (.idle u)) ∧
      (s.host.isCancelled u = false → s.IsStaffed u)
  | .interrupt => s.interrupted = false
  | .failure | .settled => False

end Stage

/-- Whether a task waits for workers. -/
def Running.Idles (t : Running) : Prop := ∃ u, .idle u ∈ Stage.awaited t.remaining

/-- Whether a task does nothing until some time but wait, and wind up.  No worker waits for others. -/
structure Running.Waits (s : Stage) (later : Nat) (t : Running) : Prop where
  asks : ∃ (signals : List Signal) (next : Signal → Playing (Option Task)),
    t.remaining = Activity.ask (I := RehearsalI) (.await signals) next ∧
      ∀ signal ∈ signals, s.Heeds later next signal
  apart : t.Idles → ∀ u, t.task.isWorkerIn u = false

/-- Whether nothing has come that a task waits for. -/
def Running.Rests (s : Stage) (t : Running) : Prop :=
  (Stage.awaited t.remaining).find? s.hasCome = none

namespace Stage

/-- Whether all tasks do nothing until some time but wait, and wind up. -/
structure Waits (s : Stage) (later : Nat) : Prop where
  ids : (s.tasks.map Running.id).Nodup
  tasks : ∀ t ∈ s.tasks, t.Waits s later

/-- That two stages differ at most in their tasks, in their actors and in the failures. -/
structure Alike (s s' : Stage) : Prop where
  box : s.box = s'.box
  registry : s.host.registry = s'.host.registry
  interrupted : s.interrupted = s'.interrupted

end Stage

variable {s s' : Stage} {later : Nat} {t x : Running} {u : Scope}
  {next : Signal → Playing (Option Task)} {signal : Signal}

namespace Stage.Alike

theorem refl : s.Alike s := ⟨rfl, rfl, rfl⟩

theorem trans {s'' : Stage} (h : s.Alike s') (h' : s'.Alike s'') : s.Alike s'' :=
  ⟨h.box.trans h'.box, h.registry.trans h'.registry, h.interrupted.trans h'.interrupted⟩

theorem symm (h : s.Alike s') : s'.Alike s := ⟨h.box.symm, h.registry.symm, h.interrupted.symm⟩

theorem now (h : s.Alike s') : s.now = s'.now := congrArg Sandbox.now h.box

theorem isCancelled (h : s.Alike s') : s.host.isCancelled u = s'.host.isCancelled u :=
  congrArg (fun r => r.scopes.isCancelled u) h.registry

theorem setClock (h : s.Alike s') {time : Nat} : (s.setClock time).Alike (s'.setClock time) where
  box := congrArg (fun box => { box with now := time }) h.box
  registry := h.registry
  interrupted := h.interrupted

/-- What has come is the same, but for what tasks bring. -/
theorem hasCome (h : s.Alike s') (heeds : s.Heeds later next signal)
    (other : ∀ u, signal ≠ .idle u) : s'.hasCome signal = s.hasCome signal := by
  cases signal with
  | due time => exact congrArg (fun now => decide (time ≤ now)) h.now.symm
  | cancelled u => exact h.isCancelled.symm
  | interrupt => exact h.interrupted.symm
  | idle u => exact absurd rfl (other u)
  | failure | settled => exact heeds.elim

end Stage.Alike

namespace Stage

/-! ### Steps of an activity -/

variable {α : Type} {moved : Bool}

theorem answer?_await {signals : List Signal} :
    s.answer? (.await signals) = (signals.find? s.hasCome).map fun signal => (signal, s) := by
  rw [answer?]
  cases signals.find? s.hasCome <;> rfl

theorem runAhead_of_answer {q : Ask} {r : q.Reply} {next : q.Reply → Playing α}
    (answer : s.answer? q = some (r, s')) :
    s.runAhead moved (Activity.ask (I := RehearsalI) q next) = s'.runAhead true (next r) := by
  rw [runAhead, answer]

theorem runAhead_of_open {q : Ask} {next : q.Reply → Playing α} (answer : s.answer? q = none) :
    s.runAhead moved (Activity.ask (I := RehearsalI) q next) =
      (s, Activity.ask (I := RehearsalI) q next, moved) := by
  rw [runAhead, answer]

/-! ### Winding up -/

theorem alike_updateActor {plugin : PluginId} {f : Actor → Actor} :
    (s.updateActor plugin f).2.Alike s ∧ (s.updateActor plugin f).2.tasks = s.tasks := by
  unfold updateActor
  split <;> exact ⟨⟨rfl, rfl, rfl⟩, rfl⟩

theorem answer?_of_winds {q : Ask} (winds : q.Winds s.host.registry u)
    (distinct : s.host.registry.Distinct) (cancelled : s.host.isCancelled u = true) :
    q = .breakOff ∨ ∃ r s', s.answer? q = some (r, s') ∧ s'.Alike s ∧ s'.tasks = s.tasks := by
  cases q with
  | breakOff => exact .inl rfl
  | update plugin f => exact .inr ⟨_, _, rfl, alike_updateActor⟩
  | records q =>
    cases q with
    | report context why => exact .inr ⟨_, _, rfl, ⟨rfl, rfl, rfl⟩, rfl⟩
    | endRun name plugin state =>
      -- the run is over already, since its scope is cancelled
      have same : s.host.registry.endRun name plugin state = s.host.registry := by
        refine distinct.endRun_eq_self fun e found own running => ?_
        have going : s.host.isCancelled u = false := (winds e found own running).1
        rw [going] at cancelled
        cases cancelled
      exact .inr ⟨_, _, rfl, ⟨rfl, same, rfl⟩, rfl⟩
    | _ => exact winds.elim
  | _ => exact winds.elim

/-- **To wind up leaves everything else as it is.** -/
theorem runAhead_windsUp {x : Playing (Option Task)} {past : List (Exchange RehearsalI)}
    (winds : x.Keeps (fun _ (q : Ask) => q.Winds s.host.registry u)
      (fun _ next => next = none) past)
    (distinct : s.host.registry.Distinct) (cancelled : s.host.isCancelled u = true) :
    ∃ s' y moved', s.runAhead moved x = (s', y, moved') ∧ s'.Alike s ∧ s'.tasks = s.tasks ∧
      (y = .done none ∨ isBrokenOff y = true) := by
  induction x generalizing s past moved with
  | done next => exact ⟨s, _, moved, rfl, .refl, rfl, .inl (congrArg Activity.done winds)⟩
  | ask q next ih =>
    rcases answer?_of_winds winds.1 distinct cancelled with rfl | ⟨r, s₁, answer, like, same⟩
    · exact ⟨s, _, moved, rfl, .refl, rfl, .inr rfl⟩
    · have rest := winds.2 r
      rw [← like.registry] at rest distinct
      obtain ⟨s', y, moved', ran, like', same', ends⟩ :=
        @ih r s₁ true _ rest distinct (like.isCancelled.trans cancelled)
      exact ⟨s', y, moved', (runAhead_of_answer answer).trans ran, like'.trans like,
        same'.trans same, ends⟩

/-! ### Turns -/

/-- That a task that did not rest has ended, with which nothing else has changed. -/
structure Ended (s : Stage) (t : Running) (s' : Stage) : Prop where
  mem : t ∈ s.tasks
  woken : ¬ t.Rests s
  like : s'.Alike s
  tasks : s'.tasks = s.tasks.filter fun x => x.id ≠ t.id

theorem find?_of_mem (ids : (s.tasks.map Running.id).Nodup) (mem : t ∈ s.tasks) :
    (s.tasks.find? fun x => x.id = t.id) = some t := by
  generalize s.tasks = tasks at ids mem
  induction tasks with
  | nil => cases mem
  | cons x tasks ih =>
    obtain ⟨new, ids⟩ := List.nodup_cons.1 ids
    rcases List.mem_cons.1 mem with rfl | mem
    · exact List.find?_cons_of_pos (decide_eq_true rfl)
    · have ne : x.id ≠ t.id := fun heq => new (List.mem_map.2 ⟨t, mem, heq.symm⟩)
      rw [List.find?_cons_of_neg (by simpa using ne), ih ids mem]

theorem replaceTask_eq_self (ids : (s.tasks.map Running.id).Nodup) (mem : t ∈ s.tasks) :
    s.replaceTask t = s := by
  have same : (s.tasks.map fun x => if x.id = t.id then t else x) = s.tasks := by
    refine (List.map_congr_left fun x hx => ?_).trans (List.map_id' _)
    split_ifs with heq
    · exact (List.inj_on_of_nodup_map ids hx mem heq).symm
    · rfl
  exact congrArg (fun tasks => { s with tasks }) same

/-- What has come to a task that waits is that a scope is cancelled, or left by its workers; then the
task winds up. -/
theorem windsUp_of_hasCome (heeds : s.Heeds later next signal) (early : s.now ≤ later)
    (come : s.hasCome signal = true) :
    ∃ u, s.host.isCancelled u = true ∧ WindsUp s.host.registry u (next signal) := by
  cases signal with
  | due time =>
    have due : time ≤ s.now := of_decide_eq_true come
    exact absurd (Nat.le_trans due early) (Nat.not_le.2 heeds)
  | cancelled u => exact ⟨u, come, heeds⟩
  | idle u =>
    refine ⟨u, eq_true_of_ne_false fun going => ?_, heeds.1⟩
    -- a scope that is not cancelled has a worker that stays
    obtain ⟨t, mem, worker, -⟩ := heeds.2 going
    have none : (!s.tasks.any fun t => t.task.isWorkerIn u) = true := come
    rw [List.any_eq_true.2 ⟨t, mem, worker⟩] at none
    cases none
  | interrupt => cases (show s.interrupted = true from come).symm.trans heeds
  | failure | settled => exact heeds.elim

/-- **A task that waits ends with its turn, unless it rests.** -/
theorem turn_of_waits (waits : s.Waits later) (early : s.now ≤ later)
    (distinct : s.host.registry.Distinct) (id : Nat) :
    (s.turn id = (s, false) ∧ ∀ t ∈ s.tasks, t.id = id → t.Rests s) ∨
      ∃ t s', t.id = id ∧ s.turn id = (s', true) ∧ s.Ended t s' := by
  by_cases known : ∃ t ∈ s.tasks, t.id = id
  · obtain ⟨t, mem, rfl⟩ := known
    obtain ⟨signals, next, remaining, heeds⟩ := (waits.tasks t mem).asks
    have awaits : awaited t.remaining = signals := by rw [remaining]; rfl
    simp only [turn, find?_of_mem waits.ids mem, remaining]
    cases come : signals.find? s.hasCome with
    | none =>
      have rests : t.Rests s := by rwa [Running.Rests, awaits]
      have still : s.runAhead false (Activity.ask (I := RehearsalI) (.await signals) next) =
          (s, Activity.ask (I := RehearsalI) (.await signals) next, false) :=
        runAhead_of_open (answer?_await.trans (congrArg (Option.map _) come))
      have same : { t with remaining := Activity.ask (I := RehearsalI) (.await signals) next } = t :=
        remaining ▸ rfl
      refine .inl ⟨?_, fun x hx heq => List.inj_on_of_nodup_map waits.ids hx mem heq ▸ rests⟩
      simp only [still, isBrokenOff, same, replaceTask_eq_self waits.ids mem]
      rfl
    | some signal =>
      have woken : ¬ t.Rests s := by simp [Running.Rests, awaits, come]
      obtain ⟨u, cancelled, winds⟩ := windsUp_of_hasCome
        (heeds signal (List.mem_of_find?_eq_some come)) early (List.find?_some come)
      obtain ⟨s', y, moved, ran, like, same, ends⟩ :=
        @runAhead_windsUp s u true _ [] winds distinct cancelled
      have woke : s.runAhead false (Activity.ask (I := RehearsalI) (.await signals) next) =
          (s', y, moved) :=
        (runAhead_of_answer (answer?_await.trans (congrArg (Option.map _) come))).trans ran
      refine .inr ⟨t, s'.endTask t.id, rfl, ?_, mem, woken,
        ⟨like.box, like.registry, like.interrupted⟩, congrArg _ same⟩
      rw [woke]
      rcases ends with rfl | broken
      · rfl
      · cases y with
        | done => cases broken
        | ask q next => simp only [broken, if_true]
  · refine .inl ⟨?_, fun t mem own => absurd ⟨t, mem, own⟩ known⟩
    have none : (s.tasks.find? fun t => t.id = id) = none :=
      List.find?_eq_none.2 fun t mem own => known ⟨t, mem, of_decide_eq_true own⟩
    rw [turn, none]

/-! ### Passes -/

theorem exists_heeds (waits : t.Waits s later) :
    ∃ next, ∀ signal ∈ awaited t.remaining, s.Heeds later next signal := by
  obtain ⟨signals, next, remaining, heeds⟩ := waits.asks
  have awaits : awaited t.remaining = signals := by rw [remaining]; rfl
  exact ⟨next, awaits ▸ heeds⟩

theorem rests_of_staffed (waits : t.Waits s later) (early : s.now ≤ later)
    (going : s.host.isCancelled u = false)
    (stays : ∀ signal ∈ awaited t.remaining, signal = .cancelled u ∨ ∃ time, signal = .due time) :
    t.Rests s := by
  obtain ⟨next, heeds⟩ := exists_heeds waits
  refine List.find?_eq_none.2 fun signal mem come => ?_
  rcases stays signal mem with rfl | ⟨time, rfl⟩
  · exact absurd come (ne_true_of_eq_false going)
  · have far : later < time := heeds (.due time) mem
    exact absurd (Nat.le_trans (of_decide_eq_true come) early) (Nat.not_le.2 far)

/-- Tasks go on to wait on a stage that differs in what they do not wait for. -/
theorem Waits.mono (waits : s.Waits later) (ids : (s'.tasks.map Running.id).Nodup)
    (old : ∀ t ∈ s'.tasks, t ∈ s.tasks) (interrupted : s'.interrupted = s.interrupted)
    (runs : ∀ {u name plugin}, s.host.registry.RunsIn u name plugin →
      s'.host.registry.RunsIn u name plugin)
    (stays : ∀ {u}, s'.host.isCancelled u = false →
      s.host.isCancelled u = false ∧ (s.IsStaffed u → s'.IsStaffed u)) : s'.Waits later where
  ids
  tasks t mem := by
    obtain ⟨⟨signals, next, remaining, heeds⟩, apart⟩ := waits.tasks t (old t mem)
    refine ⟨⟨signals, next, remaining, fun signal hs => ?_⟩, apart⟩
    have winds {u : Scope} {x : Playing (Option Task)} (h : WindsUp s.host.registry u x) :
        WindsUp s'.host.registry u x := by
      refine h.mono (fun {_ q} _ winds => ?_) fun _ ends => ends
      cases q with
      | records q =>
        cases q with
        | endRun name plugin state => exact runs winds
        | _ => exact winds
      | _ => exact winds
    have heeds := heeds signal hs
    cases signal with
    | due time => exact heeds
    | cancelled u => exact winds heeds
    | idle u =>
      refine ⟨winds heeds.1, fun going => ?_⟩
      exact (stays going).2 (heeds.2 (stays going).1)
    | interrupt => exact interrupted.trans heeds
    | failure | settled => exact heeds

namespace Ended

theorem mem_of_ne (ended : s.Ended t s') (waits : s.Waits later) (mem : x ∈ s.tasks)
    (ne : x ≠ t) : x ∈ s'.tasks := by
  rw [ended.tasks]
  refine List.mem_filter.2 ⟨mem, decide_eq_true fun heq => ne ?_⟩
  exact List.inj_on_of_nodup_map waits.ids mem ended.mem heq

theorem old (ended : s.Ended t s') (mem : x ∈ s'.tasks) : x ∈ s.tasks :=
  (List.mem_filter.1 (ended.tasks ▸ mem)).1

/-- The others still wait. -/
theorem waits (ended : s.Ended t s') (waits : s.Waits later) (early : s.now ≤ later) :
    s'.Waits later := by
  have ids : (s'.tasks.map Running.id).Nodup := by
    rw [ended.tasks]
    exact waits.ids.sublist (List.filter_sublist.map _)
  refine waits.mono ids (fun x mem => ended.old mem) ended.like.interrupted
    (fun runs => ended.like.registry ▸ runs) fun going => ?_
  rw [ended.like.isCancelled] at going
  refine ⟨going, fun ⟨y, mem, worker, stays⟩ =>
    ⟨y, ended.mem_of_ne waits mem fun heq => ?_, worker, stays⟩⟩
  exact ended.woken (heq ▸ rests_of_staffed (waits.tasks y mem) early going stays)

end Ended

end Stage

/-- Whether a task rests after some passes: one that waits for workers does after another one. -/
def Running.Settles (k : Nat) (t : Running) : Prop := 0 < k ∧ (t.Idles → 1 < k)

theorem Running.Settles.succ {k : Nat} (h : t.Settles k) : t.Settles (k + 1) :=
  ⟨Nat.lt_succ_of_lt h.1, fun idles => Nat.lt_succ_of_lt (h.2 idles)⟩

namespace Stage

variable {k : Nat} {ids : List Nat} {moved : Bool}

/-- Whether all tasks rest that do so after some passes. -/
def Calm (s : Stage) (k : Nat) : Prop := ∀ t ∈ s.tasks, t.Settles k → t.Rests s

theorem calm_zero : s.Calm 0 := fun _ _ settles => absurd settles.1 (Nat.lt_irrefl 0)

/-- A task that rests goes on to rest as others end that have not settled. -/
theorem Ended.rests (ended : s.Ended t s') (waits : s.Waits later) (calm : s.Calm k)
    (mem : x ∈ s.tasks) (settles : x.Settles (k + 1)) (rests : x.Rests s) : x.Rests s' := by
  obtain ⟨next, heeds⟩ := exists_heeds (waits.tasks x mem)
  refine List.find?_eq_none.2 fun signal hs come => ?_
  have quiet := List.find?_eq_none.1 rests signal hs
  by_cases idle : ∃ u, signal = .idle u
  · obtain ⟨u, rfl⟩ := idle
    -- what has ended waited for workers itself, and is none
    have idles : t.Idles := by
      by_contra other
      have first := settles.2 ⟨u, hs⟩
      exact ended.woken (calm t ended.mem ⟨by omega, fun idles => absurd idles other⟩)
    have worker : s.tasks.any (fun t => t.task.isWorkerIn u) = true := by simpa [hasCome] using quiet
    obtain ⟨y, hy, worker⟩ := List.any_eq_true.1 worker
    have stays : y ∈ s'.tasks := ended.mem_of_ne waits hy fun heq => by
      rw [heq, (waits.tasks t ended.mem).apart idles u] at worker
      cases worker
    have none : (!s'.tasks.any fun t => t.task.isWorkerIn u) = true := come
    rw [List.any_eq_true.2 ⟨y, stays, worker⟩] at none
    cases none
  · rw [ended.like.symm.hasCome (heeds signal hs) fun u heq => idle ⟨u, heq⟩] at come
    exact quiet come

/-- What comes of giving turns to the tasks of some numbers: the stage, and whether any has moved. -/
structure Turned (s : Stage) (later k : Nat) (ids : List Nat) (moved : Bool) (r : Stage × Bool) :
    Prop where
  like : r.1.Alike s
  waits : r.1.Waits later
  old : ∀ t ∈ r.1.tasks, t ∈ s.tasks
  keeps : ∀ t ∈ r.1.tasks, t.Settles (k + 1) → t.Rests s → t.Rests r.1
  rests : ∀ t ∈ r.1.tasks, t.id ∈ ids → t.Settles (k + 1) → t.Rests r.1
  still : (∀ t ∈ s.tasks, t.Rests s) → r = (s, moved)

theorem turned_foldl (waits : s.Waits later) (early : s.now ≤ later)
    (distinct : s.host.registry.Distinct) (calm : s.Calm k) :
    s.Turned later k ids moved (ids.foldl (fun (s, moved) id =>
      let (s, more) := s.turn id
      (s, moved || more)) (s, moved)) := by
  induction ids generalizing s moved with
  | nil => exact ⟨.refl, waits, fun _ => id, fun _ _ _ => id, fun _ _ => nofun, fun _ => rfl⟩
  | cons id ids ih =>
    rw [List.foldl_cons]
    rcases turn_of_waits waits early distinct id with ⟨turned, resting⟩ | ⟨t, s₁, rfl, turned, ended⟩
    · simp only [turned, Bool.or_false]
      have rest := @ih s moved waits early distinct calm
      refine ⟨rest.like, rest.waits, rest.old, rest.keeps, fun t mem own settles => ?_, rest.still⟩
      rcases List.mem_cons.1 own with own | own
      · exact rest.keeps t mem settles (resting t (rest.old t mem) own)
      · exact rest.rests t mem own settles
    · simp only [turned, Bool.or_true]
      have keeps {x : Running} (mem : x ∈ s₁.tasks) (settles : x.Settles (k + 1))
          (rests : x.Rests s) : x.Rests s₁ :=
        ended.rests waits calm (ended.old mem) settles rests
      have rest := @ih s₁ true (ended.waits waits early)
        (Nat.le_trans (Nat.le_of_eq ended.like.now) early) (ended.like.registry ▸ distinct)
        fun x mem settles => keeps mem settles.succ (calm x (ended.old mem) settles)
      refine ⟨rest.like.trans ended.like, rest.waits, fun x mem => ended.old (rest.old x mem),
        fun x mem settles rests => rest.keeps x mem settles (keeps (rest.old x mem) settles rests),
        fun x mem own settles => ?_, fun all => absurd (all t ended.mem) ended.woken⟩
      rcases List.mem_cons.1 own with own | own
      · have gone := rest.old x mem
        rw [ended.tasks] at gone
        exact absurd own (of_decide_eq_true (List.mem_filter.1 gone).2)
      · exact rest.rests x mem own settles

/-- **What a pass comes to where all tasks wait.** -/
theorem turned_pass (waits : s.Waits later) (early : s.now ≤ later)
    (distinct : s.host.registry.Distinct) (calm : s.Calm k) :
    s.Turned later k (s.tasks.map Running.id) false s.pass ∧ s.pass.1.Calm (k + 1) :=
  have turned := turned_foldl waits early distinct calm
  ⟨turned, fun t mem => turned.rests t mem (List.mem_map_of_mem (turned.old t mem))⟩

/-! ### Runs of mock plugins -/

variable {m : Mock} {a : Actor} {name : String} {plugin : PluginId} {scope : Scope}

/-- What remains of a run of an instance once it waits. -/
def pendingRun (s : Stage) (name : String) (plugin : PluginId) (scope : Scope) :
    Playing (Option Task) :=
  (s.runAhead false ((Task.host (.run name plugin scope)).activity s.ctx s.config.host)).2.1

theorem answer?_update (acts : s.actors[plugin]? = some a) {f : Actor → Actor} :
    s.answer? (.update plugin f) =
      some (some (f a), { s with actors := s.actors.set plugin (f a) }) := by
  simp only [answer?, updateActor, acts]
  rfl

/-- **The run of a mock plugin waits for its scope**, unless it is to fail, and winds up then. -/
theorem exists_pendingRun (acts : s.actors[plugin]? = some (.mock m))
    (loops : m.failStart = none) (going : s.host.isCancelled scope = false) :
    ∃ next : Signal → Playing (Option Task), s.pendingRun name plugin scope =
        Activity.ask (I := RehearsalI) (.await [.cancelled scope]) next ∧
      ∀ r : Registry, r.RunsIn scope name plugin →
        WindsUp r scope (next (.cancelled scope)) := by
  have same : m = { m with failStart := none } := by
    cases m
    cases loops
    rfl
  rw [same] at acts
  have known := (List.getElem?_eq_some_iff.1 acts).1
  have waits (s' : Stage) (same : s'.host = s.host) :
      [Signal.cancelled scope].find? s'.hasCome = none := by
    rw [List.find?_singleton, hasCome, same, going]
    rfl
  have ran : s.runAhead false ((Task.host (.run name plugin scope)).activity s.ctx s.config.host) =
      (_, _, _) :=
    (runAhead_of_answer (answer?_update acts)).trans <|
      (runAhead_of_answer (answer?_update (List.getElem?_set_self known))).trans <|
        runAhead_of_open (answer?_await.trans (congrArg (Option.map _) (waits _ (by rfl))))
  refine ⟨_, congrArg (fun p => p.2.1) ran, fun r runs => ?_⟩
  refine ⟨trivial, fun a => ?_⟩
  cases a with
  | none => exact ⟨trivial, nofun⟩
  | some a => exact ⟨runs, fun _ => rfl⟩

end Stage

end Rehearsal

end Sidecar
