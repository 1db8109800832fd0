import Sidecar.Proofs.Host.Contract
import Sidecar.Proofs.Registry.Operation

/-!
# A host at work

A `Host.World` is a host with all the calls that are being worked on.  Between two questions of one
call anything may happen to the others: `Host.Step` is one event, chosen freely among all that are
possible, and `Host.Trace` relates a world to the events that led to it, the newest first.

* `Host.came_of_step` : where what remains of a call comes from;
* `Host.Trace.allows` : what remains of a call keeps to what may be asked for it;
* `Host.Trace.mayAsk` : **so did everything that was ever asked**;
* `Host.Trace.get?_of_step` : entries change by operations on the registry only.

An instance is given to the host by one call only, and a call is known by its number.  Time, and
what plugins do and answer, is left open.
-/

namespace Sidecar

/-- Whether it is a task of the host. -/
def HostCall.isTask : HostCall → Bool
  | .task _ => true
  | _ => false

/-- The instance that is given to the host with a call. -/
def HostCall.plugin? : HostCall → Option PluginId
  | .add _ plugin => some plugin
  | _ => none

/-- The task that goes on when a call has ended. -/
def HostCall.next? : (c : HostCall) → c.Result → Option HostTask
  | .task _, result => result
  | .add .., _ | .startAll, _ | .startPolling, _ | .status _, _ | .poll _, _ | .remove _, _
  | .stopAll, _ | .run, _ | .shutDown, _ => none

namespace HostAsk

/-- The task that is started with a question. -/
def task? : HostAsk → Option HostTask
  | .spawn t => some t
  | _ => none

theorem eq_spawn {q : HostAsk} {t : HostTask} (h : q.task? = some t) : q = .spawn t := by
  cases q with
  | spawn t' => exact congrArg spawn (Option.some.inj h)
  | _ => cases h

/-- Whether a question is answered by the surroundings, which may answer anything. -/
def isOpen : HostAsk → Bool
  | .bind .. | .init .. | .start .. | .stop .. | .status _ | .spawn _ | .listen _ | .timer _ => true
  | _ => false

/-- Whether a caller can give up at a question. -/
def isWait : HostAsk → Bool
  | .init .. | .start .. | .stop .. | .status _ | .listen _ | .await _ | .beginTaking => true
  | _ => false

/-- The operation on the entries of the registry that a question carries out. -/
def op? : HostAsk → Option Registry.Op
  | .insert name plugin order => some (.insert name plugin order)
  | .remove name => some (.remove name)
  | .beginRun name => some (.beginRun name)
  | .endRun name plugin state =>
    if halted : state.isRunning = false then some (.endRun name plugin state halted) else none
  | .markStopped name plugin => some (.markStopped name plugin)
  | .storeStatus name plugin given => some (.storeStatus name plugin given)
  | _ => none

/-- The question that carries out an operation. -/
def ofOp : Registry.Op → HostAsk
  | .insert name plugin order => .insert name plugin order
  | .remove name => .remove name
  | .beginRun name => .beginRun name
  | .endRun name plugin state _ => .endRun name plugin state
  | .markStopped name plugin => .markStopped name plugin
  | .storeStatus name plugin given => .storeStatus name plugin given
  | .shutDown => .cancel .root

theorem eq_ofOp {q : HostAsk} {op : Registry.Op} (h : q.op? = some op) : q = ofOp op := by
  cases q with
  | endRun name plugin state =>
    change (if halted : state.isRunning = false then
      some (Registry.Op.endRun name plugin state halted) else none) = _ at h
    split_ifs at h
    cases h
    rfl
  | _ => cases h <;> rfl

end HostAsk

namespace Host

/-- What others do to the records of the host. -/
inductive Deed where
  /-- A running plugin reports an error. -/
  | report (context : PluginContext) (why : PluginError)
  /-- A scope is made under another. -/
  | branch (parent : Scope)
  /-- A scope is cancelled. -/
  | cancel (scope : Scope)
  deriving DecidableEq

/-- The records afterwards. -/
def Deed.perform (h : Host) : Deed → Host
  | .report context why => { h with failures := (context.report why h.failures).2 }
  | .branch parent => h.withRegistry fun r => (r.child parent).2
  | .cancel scope => h.withRegistry (·.cancel scope)

/-- Something that happens. -/
inductive Event where
  /-- A call is made. -/
  | called (j : Nat) (c : HostCall)
  /-- A question is asked for a call and answered. -/
  | asked (j : Nat) (c : HostCall) (x : HostExchange)
  /-- A call has a result. -/
  | ended (j : Nat) (c : HostCall) (result : c.Result)
  /-- The caller gives up. -/
  | dropped (j : Nat)
  /-- Another does something. -/
  | done (deed : Deed)

/-- A call that is being worked on. -/
structure Job where
  call : HostCall
  /-- What remains of its activity. -/
  remaining : Hosting call.Result

/-- A host at work. -/
structure World where
  host : Host
  /-- The calls that are being worked on, by their numbers. -/
  jobs : Nat → Option Job
  /-- The number of the next call. -/
  next : Nat
  /-- The instances that were given to the host. -/
  plugins : List PluginId

namespace World

/-- A host to which nothing has happened. -/
def new : World := { host := .empty, jobs := fun _ => none, next := 0, plugins := [] }

/-- The entry of a name. -/
def get? (w : World) (name : String) : Option Entry := w.host.registry.get? name

/-- The same with other records. -/
def withHost (w : World) (h : Host) : World := { w with host := h }

/-- Go on with a call, or end it. -/
def set (w : World) (j : Nat) (job : Option Job) : World :=
  { w with jobs := fun i => if i = j then job else w.jobs i }

/-- Begin to work on a call. -/
def begin (w : World) (config : Config) (c : HostCall) : World :=
  { w.set w.next (some ⟨c, c.activity config⟩) with
    next := w.next + 1
    plugins := c.plugin?.toList ++ w.plugins }

/-- Start a task, if there is one. -/
def start (w : World) (config : Config) : Option HostTask → World
  | some t => w.begin config (.task t)
  | none => w

/-- Whether a call can be made: an instance that is given to the host is a new one. -/
def Accepts (w : World) (c : HostCall) : Prop :=
  c.isTask = false ∧ ∀ plugin ∈ c.plugin?, plugin ∉ w.plugins

end World

/-- Whether a signal may come. -/
def mayBring (h : Host) : Signal → Bool
  | .cancelled scope => h.isCancelled scope
  | .failure => !h.failures.waiting.isEmpty
  | .due _ | .settled | .idle _ | .interrupt => true

/-- How a question may be answered, and the records afterwards. -/
inductive Answers (h : Host) : (q : HostAsk) → q.Reply → Host → Prop
  | records {q : HostAsk} {r : q.Reply} {h' : Host} (found : h.answer? q = some (r, h')) :
      Answers h q r h'
  | surroundings {q : HostAsk} {r : q.Reply} (isOpen : q.isOpen = true) : Answers h q r h
  | signal {signals : List Signal} {s : Signal} (mem : s ∈ signals) (come : h.mayBring s = true) :
      Answers h (.await signals) s h

/-- The records when the caller gives up at a question: a run of the host lets others take the
failures. -/
def release (h : Host) : HostCall → HostAsk → Host
  | .run, .beginTaking => h
  | .run, _ => { h with taking := false }
  | _, _ => h

/-- What may happen, and the world afterwards. -/
inductive Step (config : Config) : World → Event → World → Prop
  | called {w : World} {c : HostCall} (accepts : w.Accepts c) :
      Step config w (.called w.next c) (w.begin config c)
  | asked {w : World} {j : Nat} {c : HostCall} {q : HostAsk} {next : q.Reply → Hosting c.Result}
      {r : q.Reply} {h : Host} (doing : w.jobs j = some ⟨c, Activity.ask q next⟩)
      (answers : w.host.Answers q r h) :
      Step config w (.asked j c ⟨q, r⟩)
        (((w.withHost h).set j (some ⟨c, next r⟩)).start config q.task?)
  | ended {w : World} {j : Nat} {c : HostCall} {result : c.Result}
      (doing : w.jobs j = some ⟨c, .done result⟩) :
      Step config w (.ended j c result) ((w.set j none).start config (c.next? result))
  | dropped {w : World} {j : Nat} {c : HostCall} {q : HostAsk} {next : q.Reply → Hosting c.Result}
      (doing : w.jobs j = some ⟨c, Activity.ask q next⟩) (waits : q.isWait = true)
      (outside : c.isTask = false) :
      Step config w (.dropped j) ((w.withHost (w.host.release c q)).set j none)
  | done {w : World} {deed : Deed} :
      Step config w (.done deed) (w.withHost (deed.perform w.host))

/-- What may have happened when a host has come to a world, the newest first. -/
inductive Trace (config : Config) : List Event → World → Prop
  | nil : Trace config [] .new
  | cons {es : List Event} {w w' : World} {e : Event} (before : Trace config es w)
      (step : Step config w e w') : Trace config (e :: es) w'

/-- What was asked for a call, the newest first. -/
def own (j : Nat) : List Event → List HostExchange
  | [] => []
  | .asked i _ x :: es => if i = j then x :: own j es else own j es
  | .called .. :: es | .ended .. :: es | .dropped _ :: es | .done _ :: es => own j es

/-- The call for which something was asked. -/
def Event.asker? : Event → Option Nat
  | .asked i _ _ => some i
  | .called .. | .ended .. | .dropped _ | .done _ => none

/-- The operation on the entries of the registry that an event is. -/
def Event.op? : Event → Option Registry.Op
  | .asked _ _ x => x.question.op?
  | .called .. | .ended .. | .dropped _ | .done _ => none

variable {config : Config} {es : List Event} {w w' : World} {e : Event} {j : Nat} {job : Job}

theorem own_cons_of_ne (h : e.asker? ≠ some j) : own j (e :: es) = own j es := by
  cases e with
  | asked i c x => exact if_neg fun heq => h (congrArg some heq)
  | _ => rfl

theorem mem_of_own {x : HostExchange} (h : x ∈ own j es) : ∃ c, .asked j c x ∈ es := by
  induction es with
  | nil => cases h
  | cons e es ih =>
    have older (h : x ∈ own j es) : ∃ c, .asked j c x ∈ e :: es :=
      (ih h).imp fun c hc => List.mem_cons_of_mem e hc
    by_cases he : e.asker? = some j
    · cases e with
      | asked i c y =>
        obtain rfl : i = j := Option.some.inj he
        rw [own, if_pos rfl] at h
        rcases List.mem_cons.1 h with rfl | h
        · exact ⟨c, List.mem_cons_self⟩
        · exact older h
      | _ => cases he
    · exact older (own_cons_of_ne he ▸ h)

theorem eq_asked_of_op? {op : Registry.Op} (h : e.op? = some op) :
    ∃ j c r, e = .asked j c ⟨.ofOp op, r⟩ := by
  cases e with
  | asked j c x =>
    obtain ⟨q, r⟩ := x
    obtain rfl := HostAsk.eq_ofOp h
    exact ⟨j, c, r, rfl⟩
  | _ => cases h

/-! ### Jobs -/

/-- Whether the numbers of calls to come are free. -/
def World.Fresh (w : World) : Prop := ∀ i, w.next ≤ i → w.jobs i = none

theorem World.jobs_set {job' : Option Job} {i : Nat} (h : (w.set i job').jobs j = some job) :
    j = i ∧ job' = some job ∨ j ≠ i ∧ w.jobs j = some job := by
  change (if j = i then job' else w.jobs j) = _ at h
  split_ifs at h with hj
  · exact .inl ⟨hj, h⟩
  · exact .inr ⟨hj, h⟩

theorem World.jobs_start {t : Option HostTask} (h : (w.start config t).jobs j = some job) :
    (∃ t', t = some t' ∧ j = w.next ∧ job = ⟨.task t', t'.activity⟩) ∨ w.jobs j = some job := by
  cases t with
  | none => exact .inr h
  | some t =>
    change (if j = w.next then some (⟨.task t, t.activity⟩ : Job) else w.jobs j) = _ at h
    split_ifs at h with hj
    · exact .inl ⟨t, rfl, hj, (Option.some.inj h).symm⟩
    · exact .inr h

namespace World.Fresh

theorem lt (h : w.Fresh) (doing : w.jobs j = some job) : j < w.next := by
  rcases Nat.lt_or_ge j w.next with hj | hj
  · exact hj
  · rw [h j hj] at doing
    cases doing

theorem set (h : w.Fresh) (hj : j < w.next) {job : Option Job} : (w.set j job).Fresh := by
  intro i hi
  have hi : w.next ≤ i := hi
  change (if i = j then job else w.jobs i) = none
  rw [if_neg (by omega), h i hi]

theorem start (h : w.Fresh) {t : Option HostTask} : (w.start config t).Fresh := by
  cases t with
  | none => exact h
  | some t =>
    intro i hi
    have hi : w.next + 1 ≤ i := hi
    change (if i = w.next then some (⟨.task t, t.activity⟩ : Job) else w.jobs i) = none
    rw [if_neg (by omega), h i (by omega)]

end World.Fresh

theorem World.next_le_start {t : Option HostTask} : w.next ≤ (w.start config t).next := by
  cases t with
  | none => exact Nat.le_refl _
  | some t => exact Nat.le_succ _

theorem next_le_of_step (step : Step config w e w') : w.next ≤ w'.next := by
  cases step with
  | called => exact Nat.le_succ _
  | @asked j c q next r h => exact World.next_le_start (w := (w.withHost h).set j _)
  | @ended j => exact World.next_le_start (w := w.set j none)
  | dropped => exact Nat.le_refl _
  | done => exact Nat.le_refl _

theorem fresh_of_step (h : w.Fresh) (step : Step config w e w') : w'.Fresh := by
  cases step with
  | @called c =>
    intro i hi
    have hi : w.next + 1 ≤ i := hi
    change (if i = w.next then some (⟨c, c.activity config⟩ : Job) else w.jobs i) = none
    rw [if_neg (by omega), h i (by omega)]
  | @asked j c q next r host doing =>
    exact .start (.set (w := w.withHost host) h (h.lt doing))
  | ended doing => exact .start (h.set (h.lt doing))
  | @dropped j c q next doing => exact .set (w := w.withHost (w.host.release c q)) h (h.lt doing)
  | done => exact h

/-- Where a job comes from, if it is there after an event. -/
inductive Came (config : Config) (w : World) (j : Nat) : Event → Job → Prop
  /-- Nothing has happened to it. -/
  | same {e : Event} {job : Job} (found : w.jobs j = some job)
      (others : e.asker? ≠ some j) : Came config w j e job
  /-- A question was answered. -/
  | asked {c : HostCall} {q : HostAsk} {next : q.Reply → Hosting c.Result} {r : q.Reply}
      (found : w.jobs j = some ⟨c, Activity.ask q next⟩) :
      Came config w j (.asked j c ⟨q, r⟩) ⟨c, next r⟩
  /-- The call was made. -/
  | called {c : HostCall} (new : j = w.next) (outside : c.isTask = false) :
      Came config w j (.called j c) ⟨c, c.activity config⟩
  /-- The task was started. -/
  | spawned {i : Nat} {c : HostCall} {t : HostTask} {r : Unit}
      {next : Unit → Hosting c.Result} (new : j = w.next) (other : i ≠ j)
      (found : w.jobs i = some ⟨c, Activity.ask (.spawn t) next⟩) :
      Came config w j (.asked i c ⟨.spawn t, r⟩) ⟨.task t, t.activity⟩
  /-- The task goes on as another. -/
  | follows {i : Nat} {t t' : HostTask} (new : j = w.next)
      (found : w.jobs i = some ⟨.task t, .done (some t')⟩) :
      Came config w j (.ended i (.task t) (some t')) ⟨.task t', t'.activity⟩

/-- **What remains of a call comes from what remained before**, unless it has just begun. -/
theorem came_of_step (fresh : w.Fresh) (step : Step config w e w') (h : w'.jobs j = some job) :
    Came config w j e job := by
  cases step with
  | @called c accepts =>
    change (if j = w.next then some (⟨c, c.activity config⟩ : Job) else w.jobs j) = _ at h
    split_ifs at h with hj
    · cases h
      subst hj
      exact .called rfl accepts.1
    · exact .same h (Option.some_ne_none j).symm
  | @asked i c q next r host doing answers =>
    obtain ⟨t, ht, hj, rfl⟩ | h := World.jobs_start h
    · -- the question has started a task
      obtain rfl : q = .spawn t := HostAsk.eq_spawn ht
      have hj : j = w.next := hj
      have := fresh.lt doing
      exact .spawned hj (by omega) doing
    · obtain ⟨rfl, heq⟩ | ⟨hj, h⟩ := World.jobs_set h
      · cases heq
        exact .asked doing
      · exact .same h fun heq => hj (Option.some.inj heq).symm
  | @ended i c result doing =>
    obtain ⟨t', ht, hj, rfl⟩ | h := World.jobs_start h
    · -- the call was a task that goes on as another
      cases c with
      | task t =>
        obtain rfl : result = some t' := ht
        exact .follows hj doing
      | _ => cases ht
    · obtain ⟨-, heq⟩ | ⟨-, h⟩ := World.jobs_set h
      · cases heq
      · exact .same h (Option.some_ne_none j).symm
  | @dropped i c q next doing waits outside =>
    obtain ⟨-, heq⟩ | ⟨-, h⟩ := World.jobs_set h
    · cases heq
    · exact .same h (Option.some_ne_none j).symm
  | done => exact .same h (Option.some_ne_none j).symm

theorem Trace.fresh (t : Trace config es w) : w.Fresh := by
  induction t with
  | nil => exact fun i _ => rfl
  | cons before step ih => exact fresh_of_step ih step

theorem Trace.own_eq_nil (t : Trace config es w) {i : Nat} (h : w.next ≤ i) : own i es = [] := by
  induction t with
  | nil => rfl
  | @cons es w w' e before step ih =>
    have hn := next_le_of_step step
    have rest := ih (Nat.le_trans hn h)
    cases step with
    | @asked j c q next r host doing answers =>
      have hj : j < w.next := before.fresh.lt doing
      rw [own, if_neg (by omega), rest]
    | _ => exact rest

/-- **What remains of a call keeps to what may be asked for it.** -/
theorem Trace.allows (t : Trace config es w) {c : HostCall} {x : Hosting c.Result}
    (h : w.jobs j = some ⟨c, x⟩) :
    c.Allows (own j es) x fun past result => c.MayEnd past result := by
  induction t generalizing j c x with
  | nil => cases h
  | @cons es w w' e before step ih =>
    cases came_of_step before.fresh step h with
    | same found others =>
      rw [own_cons_of_ne others]
      exact ih found
    | @asked _ q next r found =>
      -- the contract of what remained covers every answer, so the one that was given too
      rw [own, if_pos rfl]
      exact (ih found).2 r
    | called new outside =>
      -- a call that has just begun has asked nothing yet, and so has a task
      have unasked : own j es = [] := before.own_eq_nil (Nat.le_of_eq new.symm)
      change c.Allows (own j es) _ _
      rw [unasked]
      exact HostCall.allows_activity config c
    | @spawned i c' t r next new other found =>
      rw [own, if_neg other, before.own_eq_nil (Nat.le_of_eq new.symm)]
      exact HostCall.allows_task t
    | @follows i t t' new found =>
      have unasked : own j es = [] := before.own_eq_nil (Nat.le_of_eq new.symm)
      change HostCall.Allows _ (own j es) _ _
      rw [unasked]
      exact HostCall.allows_task t'

theorem exists_of_asked {c : HostCall} {x : HostExchange} (step : Step config w (.asked j c x) w') :
    ∃ next, w.jobs j = some ⟨c, Activity.ask x.question next⟩ := by
  cases step with
  | asked doing answers => exact ⟨_, doing⟩

/-- The worlds before and after one of the events. -/
theorem Trace.split (t : Trace config es w) {later earlier : List Event}
    (h : es = later ++ e :: earlier) :
    ∃ w₁ w₂, Trace config earlier w₁ ∧ Step config w₁ e w₂ := by
  subst h
  exact exists_step (fun | .cons before step => ⟨_, before, step⟩) t

/-- **Everything that is asked for a call may be asked for it.** -/
theorem Trace.mayAsk (t : Trace config es w) {c : HostCall} {x : HostExchange}
    {later earlier : List Event} (h : es = later ++ .asked j c x :: earlier) :
    c.MayAsk (own j earlier) x.question := by
  obtain ⟨w₁, w₂, before, step⟩ := t.split h
  obtain ⟨next, doing⟩ := exists_of_asked step
  exact (before.allows doing).1

/-- **Every call results in what it may result in.** -/
theorem Trace.mayEnd (t : Trace config es w) {c : HostCall} {result : c.Result}
    {later earlier : List Event} (h : es = later ++ .ended j c result :: earlier) :
    c.MayEnd (own j earlier) result := by
  obtain ⟨w₁, w₂, before, step⟩ := t.split h
  cases step with
  | ended doing => exact before.allows doing

/-! ### Entries -/

theorem isRunning_stateAfter {result : Except PluginError Unit} :
    (HostTask.stateAfter result).isRunning = false := by
  cases result <;> rfl

theorem op?_endRun {name : String} {plugin : PluginId} {state : Lifecycle}
    (halted : state.isRunning = false) :
    (HostAsk.endRun name plugin state).op? = some (.endRun name plugin state halted) :=
  dif_pos halted

/-- What an answer changes in the registry: an operation is carried out, or a scope is cancelled. -/
theorem registry_of_answers {h h' : Host} {c : HostCall} {past : List HostExchange} {q : HostAsk}
    {r : q.Reply} (may : c.MayAsk past q) (answers : h.Answers q r h') :
    h'.registry = q.op?.elim h.registry h.registry.perform ∨
      q.op? = none ∧ ∃ s, h'.registry = h.registry.cancel s := by
  cases answers with
  | records found =>
    cases q with
    | endRun n p state =>
      -- only the task of a run asks this, with the state after its main loop
      have halted : state.isRunning = false := by
        cases may with
        | free hf => cases hf
        | endRun => exact isRunning_stateAfter
      rw [op?_endRun halted]
      cases found
      exact .inl rfl
    | beginTaking =>
      unfold answer? at found
      split_ifs at found
      cases found
      exact .inl rfl
    | cancel s =>
      cases found
      exact .inr ⟨rfl, s, rfl⟩
    | _ =>
      cases found
      try exact .inl rfl
  | surroundings hopen =>
    cases q <;> first | exact .inl rfl | cases hopen
  | signal => exact .inl rfl

theorem registry_release {h : Host} {c : HostCall} {q : HostAsk} :
    (h.release c q).registry = h.registry := by
  unfold release
  split <;> rfl

theorem World.host_start {task : Option HostTask} : (w.start config task).host = w.host := by
  cases task <;> rfl

theorem answer?_of_isOpen {h : Host} {q : HostAsk} (isOpen : q.isOpen = true) :
    h.answer? q = none := by
  cases q with
  | bind | init | start | stop | status | spawn | listen | timer => rfl
  | _ => cases isOpen

/-- **A question that the records answer is answered by them.** -/
theorem eq_of_answer? {c : HostCall} {q : HostAsk} {r r' : q.Reply} {h : Host}
    (step : Step config w (.asked j c ⟨q, r⟩) w') (found : w.host.answer? q = some (r', h)) :
    r = r' ∧ w'.host = h := by
  cases step with
  | asked doing answers =>
    rw [World.host_start]
    cases answers with
    | records found' =>
      cases found.symm.trans found'
      exact ⟨rfl, rfl⟩
    | surroundings isOpen => cases (answer?_of_isOpen isOpen).symm.trans found
    | signal => cases found

/-- **What an event changes in the registry**: an operation is carried out, or the scopes change. -/
theorem Trace.registry_of_step (t : Trace config es w) (step : Step config w e w') :
    w'.host.registry = e.op?.elim w.host.registry w.host.registry.perform ∨
      e.op? = none ∧ ((∃ s, w'.host.registry = w.host.registry.cancel s) ∨
        ∃ s, w'.host.registry = (w.host.registry.child s).2) := by
  cases step with
  | called => exact .inl rfl
  | asked doing answers =>
    rw [World.host_start]
    obtain h | ⟨hop, h⟩ := registry_of_answers (t.allows doing).1 answers
    · exact .inl h
    · exact .inr ⟨hop, .inl h⟩
  | ended =>
    rw [World.host_start]
    exact .inl rfl
  | dropped => exact .inl registry_release
  | @done deed =>
    cases deed with
    | report context why => exact .inl rfl
    | branch parent => exact .inr ⟨rfl, .inr ⟨parent, rfl⟩⟩
    | cancel scope => exact .inr ⟨rfl, .inl ⟨scope, rfl⟩⟩

/-- **Entries change by operations on the registry only.** -/
theorem Trace.get?_of_step (t : Trace config es w) (step : Step config w e w') (name : String) :
    w'.get? name = (e.op?.elim w.host.registry w.host.registry.perform).get? name := by
  unfold World.get?
  obtain h | ⟨hop, ⟨s, h⟩ | ⟨s, h⟩⟩ := t.registry_of_step step
  · rw [h]
  · rw [h, hop]
    rfl
  · rw [h, hop]
    rfl

theorem Trace.next_of_step (t : Trace config es w) (step : Step config w e w') :
    w.host.registry.scopes.next + (e.op?.elim 0 w.host.registry.made) ≤
      w'.host.registry.scopes.next := by
  obtain h | ⟨hop, ⟨s, h⟩ | ⟨s, h⟩⟩ := t.registry_of_step step
  · rw [h]
    cases e.op? with
    | none => exact Nat.le_refl _
    | some op => exact Nat.le_of_eq Registry.next_perform.symm
  · rw [h, hop]
    exact Nat.le_of_eq Scopes.next_cancel.symm
  · rw [h, hop]
    exact Nat.le_succ _

end Host

end Sidecar
