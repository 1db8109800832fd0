import Sidecar.Proofs.Host.Carrier

/-!
# The course of a polling

A `Host.Polling` is known by the task that was started for it.  Its polls are due at `Polling.slot`:
the first one after the delay, and each further one an interval later.  `Polling.At` says where it is
at a time, and how many polls were made.

* `Polling.Works.becomes` : what an event does to the task that carries it on;
* `Polling.At.happens` : with an event the next poll is made in time, or none is;
* `Polling.At.passes` : time passes only as long as it waits for the next poll, or after it is over;
* `Polling.runs` : so **the polls are made one after another, each in time**;
* `Polling.At.made` : **none that was due is missing** as long as its scope is not cancelled;
* `Polling.stops` : **none is made at a later time** than its scope was cancelled.

A plugin is asked for its status and has answered at the same instant, so no poll is ever late.
-/

namespace Sidecar.Host

open HostExchange (of)

variable {config : Config} {log : List (Nat × Event)} {w w' : World} {e : Event} {now : Nat}
  {j : Nat} {c : HostCall}

/-- A polling: the task that was started for it, its number, and when it was. -/
structure Polling where
  first : Nat
  start : Nat
  delay : Span
  interval : Span
  name : String
  plugin : PluginId
  scope : Scope

namespace Polling

variable (p : Polling)

/-- The task with which it begins. -/
def task : HostTask := .pollAfter p.delay p.interval p.name p.plugin p.scope

/-- The time for which a poll is due: so many intervals after the first. -/
def slot (n : Nat) : Nat := p.start + p.delay.nanos + n * p.interval.nanos

/-- The task of a poll. -/
def pollTask (n : Nat) : HostTask := .poll (p.slot n) p.interval p.name p.plugin p.scope

/-- The number of the call that carries it on. -/
def current (log : List (Nat × Event)) : Nat := carrier p.first (events log)

/-- The times at which its instance was polled. -/
def times (log : List (Nat × Event)) : List Nat := polls p.first p.plugin log

/-- Whether all is due on whole milliseconds, and no poll is far ahead at a time. -/
structure Regular (now : Nat) : Prop where
  start : Span.perMilli ∣ p.start
  delay : Span.perMilli ∣ p.delay.nanos
  interval : Span.perMilli ∣ p.interval.nanos
  first_near : p.start + p.delay.nanos < Clock.horizon
  next_near : now + p.interval.nanos < Clock.horizon

variable {p}

theorem slot_zero : p.slot 0 = p.start + p.delay.nanos := by
  simp [slot]

theorem slot_succ (n : Nat) : p.slot (n + 1) = p.slot n + p.interval.nanos := by
  simp only [slot, Nat.succ_mul]
  omega

theorem slot_le (p : Polling) {m n : Nat} (le : m ≤ n) : p.slot m ≤ p.slot n :=
  Nat.add_le_add_left (Nat.mul_le_mul_right _ le) _

theorem Regular.fires_slot (h : p.Regular now) (n : Nat) : Clock.fires (p.slot n) = p.slot n :=
  Clock.fires_of_dvd (Nat.dvd_add (Nat.dvd_add h.start h.delay) (Nat.dvd_mul_left_of_dvd h.interval n))

/-- Where the task that begins to poll is, after what it has asked. -/
inductive Beginning (p : Polling) (halted : Prop) (now : Nat) : List HostExchange → Prop
  | begins (same : now = p.start) : Beginning p halted now []
  | waits (early : now ≤ p.slot 0) : Beginning p halted now [of (.timer p.delay) (p.slot 0)]
  | woken (due : now = p.slot 0) :
      Beginning p halted now
        [of (.await [.cancelled p.scope, .due (p.slot 0)]) (.due (p.slot 0)),
          of (.timer p.delay) (p.slot 0)]
  | done (due : now = p.slot 0) :
      Beginning p halted now
        [of (.timer ⟨0⟩) (p.slot 0),
          of (.await [.cancelled p.scope, .due (p.slot 0)]) (.due (p.slot 0)),
          of (.timer p.delay) (p.slot 0)]
  | stops (cancelled : halted) :
      Beginning p halted now
        [of (.await [.cancelled p.scope, .due (p.slot 0)]) (.cancelled p.scope),
          of (.timer p.delay) (p.slot 0)]

/-- Where a poll is, after what it has asked, and whether it has polled the instance. -/
inductive Round (p : Polling) (halted : Prop) (now n : Nat) : List HostExchange → Nat → Prop
  | waits (early : now ≤ p.slot n) : Round p halted now n [] 0
  | woken (due : now = p.slot n) :
      Round p halted now n [of (.await [.cancelled p.scope, .due (p.slot n)]) (.due (p.slot n))] 0
  | asks (due : now = p.slot n) :
      Round p halted now n
        [of (.timer ⟨0⟩) (p.slot n),
          of (.await [.cancelled p.scope, .due (p.slot n)]) (.due (p.slot n))] 0
  | polled (due : now = p.slot n) (r : Except PluginError PluginStatus) :
      Round p halted now n
        [of (.status p.plugin) r, of (.timer ⟨0⟩) (p.slot n),
          of (.await [.cancelled p.scope, .due (p.slot n)]) (.due (p.slot n))] 1
  | recorded (due : now = p.slot n) (status : PluginStatus) :
      Round p halted now n
        [of (.storeStatus p.name p.plugin status) (), of (.status p.plugin) (.ok status),
          of (.timer ⟨0⟩) (p.slot n),
          of (.await [.cancelled p.scope, .due (p.slot n)]) (.due (p.slot n))] 1
  | stops (cancelled : halted) :
      Round p halted now n
        [of (.await [.cancelled p.scope, .due (p.slot n)]) (.cancelled p.scope)] 0

/-- What remains of the task that carries it on, and what that has asked. -/
structure Works (p : Polling) (log : List (Nat × Event)) (w : World) (task : HostTask)
    (x : Hosting (HostCall.task task).Result) (past : List HostExchange) : Prop where
  doing : w.jobs (p.current log) = some ⟨.task task, x⟩
  asked : own (p.current log) (events log) = past

/-- Whether the task that carried it on is gone. -/
structure Halted (p : Polling) (log : List (Nat × Event)) (w : World) : Prop where
  old : p.current log < w.next
  gone : w.jobs (p.current log) = none

/-- Where a polling is, and how many polls were made. -/
inductive At (p : Polling) (log : List (Nat × Event)) (w : World) (now : Nat) : Nat → Prop
  | begins {x : Hosting (HostCall.task p.task).Result} {past : List HostExchange}
      (works : p.Works log w p.task x past)
      (beginning : p.Beginning (w.host.isCancelled p.scope = true) now past) : At p log w now 0
  | goesOn (n made : Nat) {x : Hosting (HostCall.task (p.pollTask n)).Result}
      {past : List HostExchange} (works : p.Works log w (p.pollTask n) x past)
      (round : p.Round (w.host.isCancelled p.scope = true) now n past made) :
      At p log w now (n + made)
  | halted {n : Nat} (halted : p.Halted log w) (cancelled : w.host.isCancelled p.scope = true) :
      At p log w now n

/-! ### One step of a polling -/

section Step

variable {halted : Prop} {past : List HostExchange} {n made : Nat} {q : HostAsk} {r : q.Reply}
  {result : Option HostTask}

theorem Beginning.mono (h : p.Beginning halted now past) {halted' : Prop} (still : halted → halted') :
    p.Beginning halted' now past := by
  cases h with
  | begins same => exact .begins same
  | waits early => exact .waits early
  | woken due => exact .woken due
  | done due => exact .done due
  | stops cancelled => exact .stops (still cancelled)

theorem Round.mono (h : p.Round halted now n past made) {halted' : Prop} (still : halted → halted') :
    p.Round halted' now n past made := by
  cases h with
  | waits early => exact .waits early
  | woken due => exact .woken due
  | asks due => exact .asks due
  | polled due r => exact .polled due r
  | recorded due status => exact .recorded due status
  | stops cancelled => exact .stops (still cancelled)

/-- What ends a wait: it is the time for the poll, or all is over. -/
theorem signalled (h : p.Regular now) (early : now ≤ p.slot n) {signal : Signal}
    (step : Step config w
      (.asked j c (of (.await [.cancelled p.scope, .due (p.slot n)]) signal)) w')
    (onTime : HostExchange.OnTime now (of (.await [.cancelled p.scope, .due (p.slot n)]) signal)) :
    signal = .due (p.slot n) ∧ now = p.slot n ∨
      signal = .cancelled p.scope ∧ w.host.isCancelled p.scope = true := by
  obtain ⟨mem, come⟩ := come_of_signalled step
  rcases List.mem_cons.1 mem with rfl | mem
  · exact .inr ⟨rfl, come⟩
  · obtain rfl := List.mem_singleton.1 mem
    have fired : Clock.fires (p.slot n) ≤ now := onTime
    rw [h.fires_slot] at fired
    exact .inl ⟨rfl, Nat.le_antisymm early fired⟩

theorem deadline_eq {span : Span} (near : now + span.nanos < Clock.horizon) :
    Clock.deadline now span = now + span.nanos :=
  if_pos near

theorem Regular.deadline_zero (h : p.Regular now) : Clock.deadline now ⟨0⟩ = now :=
  deadline_eq (Nat.lt_of_le_of_lt (Nat.le_add_right _ _) h.next_near)

theorem Regular.reply_eq {r : Nat} (h : p.Regular now) (due : now = p.slot n)
    (onTime : HostExchange.OnTime now (of (.timer ⟨0⟩) r)) : r = p.slot n :=
  onTime.trans (h.deadline_zero.trans due)

theorem Beginning.asked (b : p.Beginning (w.host.isCancelled p.scope = true) now past)
    (regular : p.Regular now) (may : HostCall.BeginMay p.delay p.scope past q)
    (step : Step config w (.asked j c ⟨q, r⟩) w') (onTime : HostExchange.OnTime now ⟨q, r⟩) :
    p.Beginning (w.host.isCancelled p.scope = true) now (⟨q, r⟩ :: past) ∧
      (Event.asked j c ⟨q, r⟩).polls j p.plugin = false := by
  cases b with
  | begins same =>
    cases may with
    | sets =>
      have set : r = p.slot 0 := by
        rw [slot_zero, ← deadline_eq regular.first_near, ← same]
        exact onTime
      subst set
      exact ⟨.waits (by rw [slot_zero]; omega), rfl⟩
  | waits early =>
    cases may with
    | waits =>
      rcases signalled regular early step onTime with ⟨rfl, due⟩ | ⟨rfl, cancelled⟩
      · exact ⟨.woken due, rfl⟩
      · exact ⟨.stops cancelled, rfl⟩
  | woken due =>
    cases may with
    | wakes =>
      have set : r = p.slot 0 := regular.reply_eq due onTime
      subst set
      exact ⟨.done due, rfl⟩
  | done due =>
    generalize p.delay = delay at may
    cases may
  | stops cancelled => cases may

theorem Beginning.ended (b : p.Beginning halted now past)
    (ends : HostCall.BeginEnds p.delay p.interval p.name p.plugin p.scope past result) :
    now = p.slot 0 ∧ result = some (p.pollTask 0) ∨ halted ∧ result = none := by
  cases b with
  | done due =>
    cases ends with
    | goesOn => exact .inl ⟨due, rfl⟩
  | stops cancelled =>
    cases ends with
    | stops other => exact .inr ⟨cancelled, rfl⟩
  | woken due =>
    cases ends with
    | stops other => exact absurd rfl (other _)
  | begins same => cases ends
  | waits early =>
    generalize p.delay = delay at ends
    cases ends

theorem Round.asked (b : p.Round (w.host.isCancelled p.scope = true) now n past made)
    (regular : p.Regular now) (may : HostCall.PollMay (p.slot n) p.name p.plugin p.scope past q)
    (step : Step config w (.asked j c ⟨q, r⟩) w') (onTime : HostExchange.OnTime now ⟨q, r⟩) :
    p.Round (w.host.isCancelled p.scope = true) now n (⟨q, r⟩ :: past) made ∧
        (Event.asked j c ⟨q, r⟩).polls j p.plugin = false ∨
      p.Round (w.host.isCancelled p.scope = true) now n (⟨q, r⟩ :: past) 1 ∧ made = 0 ∧
        now = p.slot n ∧ (Event.asked j c ⟨q, r⟩).polls j p.plugin = true := by
  cases b with
  | waits early =>
    cases may with
    | waits =>
      rcases signalled regular early step onTime with ⟨rfl, due⟩ | ⟨rfl, cancelled⟩
      · exact .inl ⟨.woken due, rfl⟩
      · exact .inl ⟨.stops cancelled, rfl⟩
  | woken due =>
    cases may with
    | wakes =>
      have set : r = p.slot n := regular.reply_eq due onTime
      subst set
      exact .inl ⟨.asks due, rfl⟩
  | asks due =>
    cases may with
    | asks => exact .inr ⟨.polled due r, rfl, due, by simp [Event.polls]⟩
  | polled due reply =>
    cases may with
    | records => exact .inl ⟨.recorded due _, rfl⟩
  | recorded due status => cases may
  | stops cancelled => cases may

theorem Regular.nextPoll_eq (regular : p.Regular now) (due : now = p.slot n) :
    HostTask.nextPoll (p.slot n) (p.slot n) p.interval = p.slot (n + 1) := by
  unfold HostTask.nextPoll
  rw [if_neg (by omega), slot_succ]
  exact deadline_eq (due ▸ regular.next_near)

theorem Round.ended (b : p.Round halted now n past made) (regular : p.Regular now)
    (ends : HostCall.PollEnds (p.slot n) p.interval p.name p.plugin p.scope past result) :
    now = p.slot n ∧ made = 1 ∧ result = some (p.pollTask (n + 1)) ∨ halted ∧ result = none := by
  cases b with
  | polled due r =>
    cases ends with
    | failed =>
      rw [regular.nextPoll_eq due]
      exact .inl ⟨due, rfl, rfl⟩
  | recorded due status =>
    cases ends with
    | recorded =>
      rw [regular.nextPoll_eq due]
      exact .inl ⟨due, rfl, rfl⟩
  | stops cancelled =>
    cases ends with
    | stops other => exact .inr ⟨cancelled, rfl⟩
  | woken due =>
    cases ends with
    | stops other => exact absurd rfl (other _)
  | waits early => cases ends
  | asks due => cases ends

end Step

theorem current_cons (h : e.follows (p.current log) = false) :
    p.current ((now, e) :: log) = p.current log :=
  if_neg (Bool.eq_false_iff.1 h)

/-- Nothing happens to a polling that is over. -/
theorem Halted.happens (h : p.Halted log w) (now : Nat) (fresh : w.Fresh) (step : Step config w e w') :
    e.polls (p.current log) p.plugin = false ∧ p.Halted ((now, e) :: log) w' := by
  have same : p.current ((now, e) :: log) = p.current log :=
    current_cons (follows_eq_false_of_gone step h.gone)
  refine ⟨polls_eq_false _ (asker?_ne_of_gone step h.gone), same.symm ▸ ?_, same.symm ▸ ?_⟩
  · exact Nat.lt_of_lt_of_le h.old (next_le_of_step step)
  · exact jobs_eq_none_of_step fresh step h.old h.gone

/-- What becomes of the task that carries a polling on, with an event. -/
inductive Becomes (p : Polling) (log : List (Nat × Event)) (w' : World) (now : Nat)
    (task : HostTask) (past : List HostExchange) :
    Hosting (HostCall.task task).Result → Event → Prop
  /-- It is the turn of others. -/
  | same {x : Hosting (HostCall.task task).Result} {e : Event}
      (quiet : e.polls (p.current log) p.plugin = false)
      (works : p.Works ((now, e) :: log) w' task x past) : Becomes p log w' now task past x e
  | asked {q : HostAsk} {next : q.Reply → Hosting (HostCall.task task).Result} {r : q.Reply}
      (works : p.Works ((now, .asked (p.current log) (.task task) ⟨q, r⟩) :: log) w' task (next r)
        (⟨q, r⟩ :: past)) :
      Becomes p log w' now task past (Activity.ask q next)
        (.asked (p.current log) (.task task) ⟨q, r⟩)
  /-- It goes on as another. -/
  | follows {task' : HostTask}
      (works : p.Works ((now, .ended (p.current log) (.task task) (some task')) :: log) w' task'
        task'.activity []) :
      Becomes p log w' now task past (.done (some task'))
        (.ended (p.current log) (.task task) (some task'))
  /-- It ends for good. -/
  | ends (halted : p.Halted ((now, .ended (p.current log) (.task task) none) :: log) w') :
      Becomes p log w' now task past (.done none) (.ended (p.current log) (.task task) none)

section Works

variable {task : HostTask} {x : Hosting (HostCall.task task).Result} {past : List HostExchange}

theorem Works.keeps (h : p.Works log w task x past) (t : Trace config (events log) w)
    {may : List HostExchange → HostAsk → Prop} {ends : List HostExchange → Option HostTask → Prop}
    (contract : task.activity.Keeps may ends []) :
    Activity.Keeps (I := HostI) (α := Option HostTask) may ends past x :=
  h.asked ▸ t.keeps (c := .task task) contract h.doing

/-- **What an event does to a polling**: only the turns of the task that carries it on count. -/
theorem Works.becomes (h : p.Works log w task x past) (t : Trace config (events log) w) (now : Nat)
    (step : Step config w e w') : p.Becomes log w' now task past x e := by
  have old := t.fresh.lt h.doing
  cases goes_of_step t.fresh step h.doing with
  | same doing others =>
    have same : p.current ((now, e) :: log) = p.current log :=
      current_cons (follows_eq_false old step doing)
    refine .same (polls_eq_false _ others) ⟨same.symm ▸ doing, ?_⟩
    rw [same, events_cons, own_cons_of_ne others, h.asked]
  | @asked q next r doing =>
    have same : p.current ((now, .asked (p.current log) (.task task) ⟨q, r⟩) :: log) =
        p.current log :=
      current_cons rfl
    refine .asked ⟨same.symm ▸ doing, ?_⟩
    rw [same, events_cons, own_asked, h.asked]
  | @ended result =>
    cases result with
    | none =>
      have same : p.current ((now, .ended (p.current log) (.task task) none) :: log) =
          p.current log :=
        current_cons (Bool.and_false _)
      refine .ends ⟨same.symm ▸ ?_, same.symm ▸ ?_⟩
      · exact Nat.lt_of_lt_of_le old (next_le_of_step step)
      · exact jobs_of_ended old step
    | some task' =>
      -- the task as which it goes on has the next number
      have carried : p.current ((now, .ended (p.current log) (.task task) (some task')) :: log) =
          w.next := by
        rw [t.next_eq]
        exact if_pos (Bool.and_eq_true_iff.2 ⟨decide_eq_true rfl, rfl⟩)
      have unasked : (Event.ended (p.current log) (.task task) (some task')).asker? ≠
          some w.next := (Option.some_ne_none _).symm
      refine .follows ⟨carried.symm ▸ ?_, ?_⟩
      · cases step with
        | ended doing => exact if_pos rfl
      · rw [carried, events_cons, own_cons_of_ne unasked]
        exact t.own_eq_nil (Nat.le_refl _)
  | dropped waits outside => cases outside

end Works

/-- **One step of a polling**: the next poll is made in time, or none is. -/
theorem At.happens {n : Nat} (here : p.At log w now n) (t : Trace config (events log) w)
    (regular : p.Regular now) (step : Step config w e w') (onTime : e.OnTime now) :
    e.polls (p.current log) p.plugin = false ∧ p.At ((now, e) :: log) w' now n ∨
      e.polls (p.current log) p.plugin = true ∧ now = p.slot n ∧
        p.At ((now, e) :: log) w' now (n + 1) := by
  have still : w.host.isCancelled p.scope = true → w'.host.isCancelled p.scope = true :=
    t.isCancelled_of_step step
  cases here with
  | begins works beginning =>
    have keeps := works.keeps t HostCall.keeps_pollAfter
    cases works.becomes t now step with
    | same quiet works' => exact .inl ⟨quiet, .begins works' (beginning.mono still)⟩
    | asked works' =>
      obtain ⟨goes, quiet⟩ := beginning.asked regular keeps.1 step onTime
      exact .inl ⟨quiet, .begins works' (goes.mono still)⟩
    | follows works' =>
      rcases beginning.ended keeps with ⟨due, goesOn⟩ | ⟨-, none⟩
      · obtain rfl := Option.some.inj goesOn
        exact .inl ⟨rfl, .goesOn 0 0 works' (.waits (Nat.le_of_eq due))⟩
      · cases none
    | ends halted =>
      rcases beginning.ended keeps with ⟨-, goesOn⟩ | ⟨cancelled, -⟩
      · cases goesOn
      · exact .inl ⟨rfl, .halted halted (still cancelled)⟩
  | goesOn n made works round =>
    have keeps := works.keeps t HostCall.keeps_poll
    cases works.becomes t now step with
    | same quiet works' => exact .inl ⟨quiet, .goesOn n made works' (round.mono still)⟩
    | asked works' =>
      rcases round.asked regular keeps.1 step onTime with ⟨goes, quiet⟩ | ⟨goes, rfl, due, polled⟩
      · exact .inl ⟨quiet, .goesOn n made works' (goes.mono still)⟩
      · exact .inr ⟨polled, due, .goesOn n 1 works' (goes.mono still)⟩
    | follows works' =>
      rcases round.ended regular keeps with ⟨due, rfl, goesOn⟩ | ⟨-, none⟩
      · obtain rfl := Option.some.inj goesOn
        refine .inl ⟨rfl, .goesOn (n + 1) 0 works' (.waits ?_)⟩
        rw [slot_succ]
        omega
      · cases none
    | ends halted =>
      rcases round.ended regular keeps with ⟨-, -, goesOn⟩ | ⟨cancelled, -⟩
      · cases goesOn
      · exact .inl ⟨rfl, .halted halted (still cancelled)⟩
  | halted halted cancelled =>
    obtain ⟨quiet, halted⟩ := halted.happens now t.fresh step
    exact .inl ⟨quiet, .halted halted (still cancelled)⟩

/-! ### Time passes -/

theorem rests_await {n later : Nat} (regular : p.Regular now) {h : Host}
    (rests : HostAsk.Rests h later (.await [.cancelled p.scope, .due (p.slot n)])) :
    later ≤ p.slot n ∧ h.isCancelled p.scope = false := by
  obtain ⟨going, due, -⟩ := List.forall_mem_cons.1 rests |>.imp_right List.forall_mem_cons.1
  exact ⟨regular.fires_slot n ▸ due, going⟩

theorem Beginning.passes {halted : Prop} {past : List HostExchange} {h : Host} {later : Nat}
    {x : Hosting (HostCall.task p.task).Result} (b : p.Beginning halted now past)
    (regular : p.Regular now)
    (keeps : x.Keeps (HostCall.BeginMay p.delay p.scope)
      (HostCall.BeginEnds p.delay p.interval p.name p.plugin p.scope) past)
    (rests : Job.Rests h later ⟨.task p.task, x⟩) :
    p.Beginning (h.isCancelled p.scope = true) later past ∧ h.isCancelled p.scope = false := by
  cases x with
  | done result => cases rests
  | ask q next =>
    have may := keeps.1
    clear keeps
    cases b with
    | begins same =>
      cases may
      cases rests
    | waits early =>
      cases may
      obtain ⟨early, going⟩ := rests_await regular rests
      exact ⟨.waits early, going⟩
    | woken due =>
      cases may
      cases rests
    | done due =>
      generalize p.delay = delay at may
      cases may
    | stops cancelled => cases may

theorem Round.passes {halted : Prop} {past : List HostExchange} {h : Host} {later n made : Nat}
    {x : Hosting (HostCall.task (p.pollTask n)).Result} (b : p.Round halted now n past made)
    (regular : p.Regular now)
    (keeps : x.Keeps (HostCall.PollMay (p.slot n) p.name p.plugin p.scope)
      (HostCall.PollEnds (p.slot n) p.interval p.name p.plugin p.scope) past)
    (rests : Job.Rests h later ⟨.task (p.pollTask n), x⟩) :
    p.Round (h.isCancelled p.scope = true) later n past made ∧
      h.isCancelled p.scope = false := by
  cases x with
  | done result => cases rests
  | ask q next =>
    have may := keeps.1
    clear keeps
    cases b with
    | waits early =>
      cases may
      obtain ⟨early, going⟩ := rests_await regular rests
      exact ⟨.waits early, going⟩
    | woken | asks =>
      cases may
      cases rests
    | polled due r =>
      cases may
      cases rests
    | recorded due status => cases may
    | stops cancelled => cases may

/-- **Time passes for a polling only as long as it waits**, or after it is over. -/
theorem At.passes {n later : Nat} (here : p.At log w now n) (t : Trace config (events log) w)
    (regular : p.Regular now) (rests : w.Rests later) :
    p.At log w later n ∧ (w.host.isCancelled p.scope = true → p.Halted log w) := by
  cases here with
  | begins works beginning =>
    obtain ⟨goes, going⟩ := beginning.passes regular (works.keeps t HostCall.keeps_pollAfter)
      (rests _ _ works.doing)
    exact ⟨.begins works goes, fun cancelled => by cases going.symm.trans cancelled⟩
  | goesOn n made works round =>
    obtain ⟨goes, going⟩ := round.passes regular (works.keeps t HostCall.keeps_poll)
      (rests _ _ works.doing)
    exact ⟨.goesOn n made works goes, fun cancelled => by cases going.symm.trans cancelled⟩
  | halted halted cancelled => exact ⟨.halted halted cancelled, fun _ => halted⟩

/-! ### The run of a polling -/

theorem Regular.mono {later : Nat} (h : p.Regular later) (le : now ≤ later) : p.Regular now :=
  { h with next_near := Nat.lt_of_le_of_lt (Nat.add_le_add_right le _) h.next_near }

theorem times_cons : p.times ((now, e) :: log) =
    p.times log ++ if e.polls (p.current log) p.plugin then [now] else [] := rfl

theorem times_cons_of_quiet (h : e.polls (p.current log) p.plugin = false) :
    p.times ((now, e) :: log) = p.times log := by
  rw [times_cons, h]
  exact List.append_nil _

theorem times_cons_of_polls (h : e.polls (p.current log) p.plugin = true) :
    p.times ((now, e) :: log) = p.times log ++ [now] := by
  rw [times_cons, h]
  rfl

theorem prefix_times (later : List (Nat × Event)) : p.times log <+: p.times (later ++ log) := by
  induction later with
  | nil => exact List.prefix_rfl
  | cons x later ih => exact ih.trans (List.prefix_append _ _)

theorem exists_of_mem_times {u : Nat} (mem : u ∈ p.times log) : ∃ e, (u, e) ∈ log := by
  induction log with
  | nil => cases mem
  | cons x log ih =>
    obtain ⟨now, e⟩ := x
    rw [times_cons] at mem
    rcases List.mem_append.1 mem with mem | mem
    · exact (ih mem).imp fun e h => List.mem_cons_of_mem _ h
    · split_ifs at mem
      · obtain rfl := List.mem_singleton.1 mem
        exact ⟨e, List.mem_cons_self⟩
      · cases mem

theorem unpolled (t : Trace config (events log) w) (new : w.next ≤ p.first) :
    p.current log = p.first ∧ p.times log = [] := by
  generalize hes : events log = es at t
  induction t generalizing log with
  | nil =>
    obtain rfl := List.map_eq_nil_iff.1 hes
    exact ⟨rfl, rfl⟩
  | @cons es w w' e before step ih =>
    obtain ⟨⟨now, e'⟩, log, rfl, rfl, rfl⟩ := List.map_eq_cons_iff.1 hes
    have new := Nat.le_trans (next_le_of_step step) new
    have gone : w.jobs p.first = none := before.fresh _ new
    obtain ⟨same, none⟩ := ih new rfl
    rw [← same] at gone
    have quiet := polls_eq_false p.plugin (asker?_ne_of_gone step gone)
    exact ⟨(current_cons (follows_eq_false_of_gone step gone)).trans same,
      (times_cons_of_quiet quiet).trans none⟩

theorem At.of_spawned (t : Trace config (events log) w) (first : p.first = w.next)
    (step : Step config w (.asked j c (of (.spawn p.task) ())) w') :
    p.At ((p.start, .asked j c (of (.spawn p.task) ())) :: log) w' p.start 0 ∧
      p.times ((p.start, .asked j c (of (.spawn p.task) ())) :: log) = [] := by
  obtain ⟨same, none⟩ := p.unpolled t (Nat.le_of_eq first.symm)
  have still : p.current ((p.start, .asked j c (of (.spawn p.task) ())) :: log) = w.next :=
    (current_cons rfl).trans (same.trans first)
  obtain ⟨doing, unasked⟩ := t.doing_of_spawned step
  refine ⟨.begins ⟨still.symm ▸ doing, ?_⟩ (.begins rfl), (times_cons_of_quiet rfl).trans none⟩
  rw [still, events_cons]
  exact unasked

/-- **The polls are made one after another, each in time**, whatever happens otherwise. -/
theorem runs {n start : Nat} {later : List (Nat × Event)} (here : p.At log w start n)
    (polled : p.times log = (List.range n).map p.slot) (t : Trace config (events log) w)
    (since : Elapses config w start later w' now) (regular : p.Regular now) :
    ∃ n, p.At (later ++ log) w' now n ∧
      p.times (later ++ log) = (List.range n).map p.slot := by
  induction since with
  | nil => exact ⟨n, here, polled⟩
  | @happens later w₁ w₂ now e before step onTime ih =>
    obtain ⟨n, here, polled⟩ := ih regular
    have t₁ : Trace config (events (later ++ log)) w₁ := events_append ▸ t.append before.steps
    rcases here.happens t₁ regular step onTime with ⟨quiet, here⟩ | ⟨polls, due, here⟩
    · exact ⟨n, here, (times_cons_of_quiet quiet).trans polled⟩
    · refine ⟨n + 1, here, (times_cons_of_polls polls).trans ?_⟩
      rw [polled, List.range_succ, List.map_append, due]
      rfl
  | @passes later w₁ now now' before forward whole rests ih =>
    have regular₁ := regular.mono (Nat.le_of_lt forward)
    obtain ⟨n, here, polled⟩ := ih regular₁
    have t₁ : Trace config (events (later ++ log)) w₁ := events_append ▸ t.append before.steps
    exact ⟨n, (here.passes t₁ regular₁ rests).1, polled⟩

/-- Before its first poll is due the task that begins to poll is at work, or all is over. -/
theorem Beginning.early {halted : Prop} {past : List HostExchange} (b : p.Beginning halted now past) :
    now ≤ p.slot 0 ∨ halted := by
  cases b with
  | begins same =>
    rw [slot_zero, same]
    exact .inl (Nat.le_add_right _ _)
  | waits early => exact .inl early
  | woken due => exact .inl (Nat.le_of_eq due)
  | done due => exact .inl (Nat.le_of_eq due)
  | stops cancelled => exact .inr cancelled

/-- A poll is not made late, or all is over. -/
theorem Round.early {halted : Prop} {past : List HostExchange} {n made : Nat}
    (b : p.Round halted now n past made) : now ≤ p.slot n ∨ halted := by
  cases b with
  | waits early => exact .inl early
  | woken due => exact .inl (Nat.le_of_eq due)
  | asks due => exact .inl (Nat.le_of_eq due)
  | polled due r => exact .inl (Nat.le_of_eq due)
  | recorded due status => exact .inl (Nat.le_of_eq due)
  | stops cancelled => exact .inr cancelled

/-- **No poll that was due is missing**, as long as the scope is not cancelled. -/
theorem At.made {n k : Nat} (here : p.At log w now n)
    (going : w.host.isCancelled p.scope = false) (due : p.slot k < now) : k < n := by
  have stopped : ¬ w.host.isCancelled p.scope = true := Bool.eq_false_iff.1 going
  -- a poll that was due before one that was not yet due is an earlier one
  have earlier {m : Nat} (h : now ≤ p.slot m) : k < m := by
    by_contra le
    have := p.slot_le (Nat.le_of_not_lt le)
    omega
  cases here with
  | begins works beginning => exact earlier (beginning.early.resolve_right stopped)
  | goesOn n made works round =>
    exact Nat.lt_add_right _ (earlier (round.early.resolve_right stopped))
  | halted halted cancelled => exact absurd cancelled stopped

/-- **Nothing is polled at a later time than that at which the scope was cancelled.** -/
theorem stops {n start : Nat} {later : List (Nat × Event)} (first : p.At log w start n)
    (polled : ∀ u ∈ p.times log, u ≤ start) (t : Trace config (events log) w)
    (cancelled : w.host.isCancelled p.scope = true)
    (since : Elapses config w start later w' now) (regular : p.Regular now) :
    ∀ u ∈ p.times (later ++ log), u ≤ start := by
  -- the clock stands still until the polling is over
  suffices w'.host.isCancelled p.scope = true ∧ (∀ u ∈ p.times (later ++ log), u ≤ start) ∧
      (now = start ∧ (∃ n, p.At (later ++ log) w' now n) ∨ p.Halted (later ++ log) w') from
    this.2.1
  induction since with
  | nil => exact ⟨cancelled, polled, .inl ⟨rfl, n, first⟩⟩
  | @happens later w₁ w₂ now e before step onTime ih =>
    obtain ⟨cancelled, bounded, here⟩ := ih regular
    have t₁ : Trace config (events (later ++ log)) w₁ := events_append ▸ t.append before.steps
    refine ⟨t₁.isCancelled_of_step step cancelled, ?_⟩
    rcases here with ⟨same, n, here⟩ | halted
    · rcases here.happens t₁ regular step onTime with ⟨quiet, here⟩ | ⟨polls, due, here⟩
      · exact ⟨(times_cons_of_quiet quiet) ▸ bounded, .inl ⟨same, n, here⟩⟩
      · refine ⟨fun u mem => ?_, .inl ⟨same, n + 1, here⟩⟩
        rw [List.cons_append, times_cons_of_polls polls] at mem
        rcases List.mem_append.1 mem with mem | mem
        · exact bounded u mem
        · exact Nat.le_of_eq ((List.mem_singleton.1 mem).trans same)
    · obtain ⟨quiet, halted⟩ := halted.happens now t₁.fresh step
      exact ⟨(times_cons_of_quiet quiet) ▸ bounded, .inr halted⟩
  | @passes later w₁ now now' before forward whole rests ih =>
    have regular₁ := regular.mono (Nat.le_of_lt forward)
    obtain ⟨cancelled, bounded, here⟩ := ih regular₁
    have t₁ : Trace config (events (later ++ log)) w₁ := events_append ▸ t.append before.steps
    refine ⟨cancelled, bounded, .inr ?_⟩
    rcases here with ⟨-, n, here⟩ | halted
    · exact (here.passes t₁ regular₁ rests).2 cancelled
    · exact halted

end Polling

end Sidecar.Host
