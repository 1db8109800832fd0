import Sidecar.Proofs.Host.Clock

/-!
# What is polled

A plugin is polled by a task that goes on as another after each poll.  `HostCall.PollMay` is what the
task of a poll may ask and `HostCall.PollEnds` as what it goes on, `HostCall.BeginMay` and
`HostCall.BeginEnds` say this of the task with which polling begins.

As a task that goes on has another number, `Host.carrier` follows the numbers along the events, and
`Host.polls` are the times at which an instance was polled by what one call has begun.
-/

namespace Sidecar

open HostExchange (of)

/-! ### What the tasks ask -/

namespace HostCall

variable {delay interval : Span} {name : String} {plugin : PluginId} {scope : Scope}

/-- What the task that begins to poll may ask after what it has asked, the newest first. -/
inductive BeginMay (delay : Span) (scope : Scope) : List HostExchange → HostAsk → Prop
  | sets : BeginMay delay scope [] (.timer delay)
  | waits {due : Nat} :
      BeginMay delay scope [of (.timer delay) due] (.await [.cancelled scope, .due due])
  | wakes {due time : Nat} :
      BeginMay delay scope
        [of (.await [.cancelled scope, .due due]) (.due time), of (.timer delay) due] (.timer ⟨0⟩)

/-- What it may result in. -/
inductive BeginEnds (delay interval : Span) (name : String) (plugin : PluginId) (scope : Scope) :
    List HostExchange → Option HostTask → Prop
  | stops {due : Nat} {signal : Signal} (other : ∀ time, signal ≠ .due time) :
      BeginEnds delay interval name plugin scope
        [of (.await [.cancelled scope, .due due]) signal, of (.timer delay) due] none
  | goesOn {due time now : Nat} :
      BeginEnds delay interval name plugin scope
        [of (.timer ⟨0⟩) now, of (.await [.cancelled scope, .due due]) (.due time),
          of (.timer delay) due] (some (.poll now interval name plugin scope))

theorem keeps_pollAfter :
    (HostTask.pollAfter delay interval name plugin scope).activity.Keeps (BeginMay delay scope)
      (BeginEnds delay interval name plugin scope) [] := by
  refine .ask .sets fun due => .ask .waits fun signal => ?_
  cases signal with
  | due time => exact .ask .wakes fun now => .goesOn
  | _ => exact .stops nofun

/-- What a poll may ask after what it has asked, the newest first. -/
inductive PollMay (due : Nat) (name : String) (plugin : PluginId) (scope : Scope) :
    List HostExchange → HostAsk → Prop
  | waits : PollMay due name plugin scope [] (.await [.cancelled scope, .due due])
  | wakes {time : Nat} :
      PollMay due name plugin scope [of (.await [.cancelled scope, .due due]) (.due time)]
        (.timer ⟨0⟩)
  | asks {time now : Nat} :
      PollMay due name plugin scope
        [of (.timer ⟨0⟩) now, of (.await [.cancelled scope, .due due]) (.due time)]
        (.status plugin)
  | records {time now : Nat} {status : PluginStatus} :
      PollMay due name plugin scope
        [of (.status plugin) (.ok status), of (.timer ⟨0⟩) now,
          of (.await [.cancelled scope, .due due]) (.due time)]
        (.storeStatus name plugin status)

/-- What it may result in. -/
inductive PollEnds (due : Nat) (interval : Span) (name : String) (plugin : PluginId)
    (scope : Scope) : List HostExchange → Option HostTask → Prop
  | stops {signal : Signal} (other : ∀ time, signal ≠ .due time) :
      PollEnds due interval name plugin scope
        [of (.await [.cancelled scope, .due due]) signal] none
  | failed {time now : Nat} {why : PluginError} :
      PollEnds due interval name plugin scope
        [of (.status plugin) (.error why), of (.timer ⟨0⟩) now,
          of (.await [.cancelled scope, .due due]) (.due time)]
        (some (.poll (HostTask.nextPoll due now interval) interval name plugin scope))
  | recorded {time now : Nat} {status : PluginStatus} :
      PollEnds due interval name plugin scope
        [of (.storeStatus name plugin status) (), of (.status plugin) (.ok status),
          of (.timer ⟨0⟩) now, of (.await [.cancelled scope, .due due]) (.due time)]
        (some (.poll (HostTask.nextPoll due now interval) interval name plugin scope))

theorem keeps_poll {due : Nat} :
    (HostTask.poll due interval name plugin scope).activity.Keeps
      (PollMay due name plugin scope) (PollEnds due interval name plugin scope) [] := by
  refine .ask .waits fun signal => ?_
  cases signal with
  | due time =>
    refine .ask .wakes fun now => .ask .asks fun status => ?_
    cases status with
    | error why => exact .failed
    | ok status => exact .ask .records fun _ => .recorded
  | _ => exact .stops nofun

end HostCall

namespace Host

variable {config : Config} {es : List Event} {log : List (Nat × Event)} {w w' : World} {e : Event}
  {now : Nat} {j : Nat} {c : HostCall}

/-! ### Who carries a polling on -/

/-- Whether a call begins with an event. -/
def Event.begins : Event → Bool
  | .called .. => true
  | .asked _ _ x => x.question.task?.isSome
  | .ended _ c result => (c.next? result).isSome
  | .dropped _ | .done _ => false

/-- How many calls have begun. -/
def begun (es : List Event) : Nat := es.countP Event.begins

/-- Whether a call ends with an event and goes on as another. -/
def Event.follows (j : Nat) : Event → Bool
  | .ended i c result => i = j && (c.next? result).isSome
  | .called .. | .asked .. | .dropped _ | .done _ => false

/-- The number of the call that carries on what a call has begun: the call itself, or the one as which
it has gone on last. -/
def carrier (first : Nat) : List Event → Nat
  | [] => first
  | e :: es => if e.follows (carrier first es) then begun es else carrier first es

/-- Whether an instance is polled by a call with an event. -/
def Event.polls (j : Nat) (plugin : PluginId) : Event → Bool
  | .asked i _ ⟨.status p, _⟩ => i = j && p = plugin
  | _ => false

/-- The times at which an instance was polled by what a call has begun, the first one first. -/
def polls (first : Nat) (plugin : PluginId) : List (Nat × Event) → List Nat
  | [] => []
  | (now, e) :: log =>
    polls first plugin log ++ if e.polls (carrier first (events log)) plugin then [now] else []

theorem Trace.next_eq (t : Trace config es w) : w.next = begun es := by
  induction t with
  | nil => rfl
  | @cons es w w' e before step ih =>
    have started {w : World} {task : Option HostTask} :
        (w.start config task).next = w.next + if task.isSome then 1 else 0 := by
      cases task <;> rfl
    rw [begun, List.countP_cons, ← begun, ← ih]
    cases step with
    | called => rfl
    | asked => exact started
    | ended => exact started
    | dropped => rfl
    | done => rfl

theorem jobs_of_ended {result : c.Result} (old : j < w.next)
    (step : Step config w (.ended j c result) w') : w'.jobs j = none := by
  cases step with
  | ended doing =>
    rw [World.jobs_start_of_lt (w := w.set j none) old]
    exact if_pos rfl

theorem exists_of_follows (h : e.follows j = true) :
    ∃ c result t, e = .ended j c result ∧ c.next? result = some t := by
  cases e with
  | ended i c result =>
    obtain ⟨same, goesOn⟩ := Bool.and_eq_true_iff.1 h
    obtain rfl := of_decide_eq_true same
    obtain ⟨t, ht⟩ := Option.isSome_iff_exists.1 goesOn
    exact ⟨c, result, t, rfl, ht⟩
  | _ => cases h

theorem follows_eq_false {job : Job} (old : j < w.next) (step : Step config w e w')
    (doing : w'.jobs j = some job) : e.follows j = false := by
  refine eq_false_of_ne_true fun follows => ?_
  obtain ⟨c, result, t, rfl, -⟩ := exists_of_follows follows
  cases (jobs_of_ended old step).symm.trans doing

theorem polls_eq_false (plugin : PluginId) (others : e.asker? ≠ some j) :
    e.polls j plugin = false := by
  refine eq_false_of_ne_true fun h => ?_
  unfold Event.polls at h
  split at h
  · exact others (congrArg some (of_decide_eq_true (Bool.and_eq_true_iff.1 h).1))
  · cases h

theorem follows_eq_false_of_gone (step : Step config w e w') (gone : w.jobs j = none) :
    e.follows j = false := by
  refine eq_false_of_ne_true fun follows => ?_
  obtain ⟨c, result, t, rfl, -⟩ := exists_of_follows follows
  cases step with
  | ended doing => cases gone.symm.trans doing

theorem asker?_ne_of_gone (step : Step config w e w') (gone : w.jobs j = none) :
    e.asker? ≠ some j := by
  intro asks
  cases step with
  | asked doing answers =>
    obtain rfl := Option.some.inj asks
    cases gone.symm.trans doing
  | _ => cases asks

theorem jobs_eq_none_of_step (fresh : w.Fresh) (step : Step config w e w') (old : j < w.next)
    (gone : w.jobs j = none) : w'.jobs j = none := by
  cases found : w'.jobs j with
  | none => rfl
  | some job =>
    cases came_of_step fresh step found with
    | same doing => cases gone.symm.trans doing
    | asked doing => cases gone.symm.trans doing
    | called new | spawned new | follows new => exact absurd new (Nat.ne_of_lt old)

end Host

end Sidecar
