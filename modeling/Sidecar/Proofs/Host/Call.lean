import Sidecar.Proofs.Activity
import Sidecar.Proofs.Host.World

/-!
# Calls along a trace

What a call has asked so far (`Host.own`) determines what remains of it (`Host.Trace.leads`), so a
contract that is chosen for one purpose holds along every trace: of what remains
(`Host.Trace.keeps`), of what was asked (`Host.Trace.keeps_asked`) and of the result
(`Host.Trace.keeps_ended`).

* `Host.goes_of_step` : where what remains of a call goes to with an event;
* `Host.Trace.asked_of_own` : an exchange of a call is an event, and what the call asked before is
  what had been asked by then;
* `Host.Trace.finishes` : a call that need not wait any more can end by its own turns.
-/

namespace Sidecar.Host

variable {config : Config} {es : List Event} {w w' : World} {e : Event} {j : Nat} {c : HostCall}

/-! ### What was asked -/

theorem own_append {later earlier : List Event} :
    own j (later ++ earlier) = own j later ++ own j earlier := by
  induction later with
  | nil => rfl
  | cons e later ih =>
    by_cases he : e.asker? = some j
    · cases e with
      | asked i c x =>
        obtain rfl : i = j := Option.some.inj he
        rw [List.cons_append, own, own, if_pos rfl, if_pos rfl, ih, List.cons_append]
      | _ => cases he
    · rw [List.cons_append, own_cons_of_ne he, own_cons_of_ne he, ih]

theorem own_asked {x : HostExchange} : own j (.asked j c x :: es) = x :: own j es := if_pos rfl

theorem mem_own_of_asked {x : HostExchange} (h : .asked j c x ∈ es) : x ∈ own j es := by
  obtain ⟨later, earlier, rfl⟩ := List.append_of_mem h
  rw [own_append, own_asked]
  exact List.mem_append_right _ List.mem_cons_self

theorem exists_of_own {x : HostExchange} {newer older : List HostExchange}
    (h : own j es = newer ++ x :: older) :
    ∃ later c earlier, es = later ++ .asked j c x :: earlier ∧ own j later = newer ∧
      own j earlier = older := by
  induction es generalizing newer with
  | nil => simp [own] at h
  | cons e es ih =>
    by_cases he : e.asker? = some j
    · cases e with
      | asked i c y =>
        obtain rfl : i = j := Option.some.inj he
        rw [own_asked] at h
        -- the event is the exchange, or this is among what came before
        cases newer with
        | nil =>
          obtain ⟨rfl, hold⟩ := List.cons.inj h
          exact ⟨[], c, es, rfl, rfl, hold⟩
        | cons y' newer =>
          obtain ⟨rfl, rest⟩ := List.cons.inj h
          obtain ⟨later, c', earlier, rfl, hnew, hold⟩ := ih rest
          exact ⟨.asked i c y :: later, c', earlier, rfl, by rw [own_asked, hnew], hold⟩
      | _ => cases he
    · rw [own_cons_of_ne he] at h
      obtain ⟨later, c', earlier, rfl, hnew, hold⟩ := ih h
      exact ⟨e :: later, c', earlier, rfl, by rw [own_cons_of_ne he, hnew], hold⟩

/-! ### What remains -/

/-- **What remains of a call is what its activity leads to with what was asked for it.** -/
theorem Trace.leads (t : Trace config es w) {x : Hosting c.Result}
    (h : w.jobs j = some ⟨c, x⟩) : (c.activity config).Leads (own j es) x := by
  induction t generalizing j c x with
  | nil => cases h
  | @cons es w w' e before step ih =>
    cases came_of_step before.fresh step h with
    | same found others =>
      rw [own_cons_of_ne others]
      exact ih found
    | @asked _ q next r found =>
      rw [own_asked]
      exact .answer (ih found) r
    | called new outside =>
      have unasked : own j es = [] := before.own_eq_nil (Nat.le_of_eq new.symm)
      change (c.activity config).Leads (own j es) _
      rw [unasked]
      exact .start
    | @spawned i c' t r next new other found =>
      rw [own, if_neg other, before.own_eq_nil (Nat.le_of_eq new.symm)]
      exact .start
    | @follows i t t' new found =>
      have unasked : own j es = [] := before.own_eq_nil (Nat.le_of_eq new.symm)
      change (HostCall.activity config _).Leads (own j es) _
      rw [unasked]
      exact .start

section Contract

variable {may : List HostExchange → HostAsk → Prop} {ends : List HostExchange → c.Result → Prop}

/-- What remains of a call keeps every contract of it. -/
theorem Trace.keeps (t : Trace config es w) (contract : (c.activity config).Keeps may ends [])
    {x : Hosting c.Result} (h : w.jobs j = some ⟨c, x⟩) : x.Keeps may ends (own j es) :=
  contract.of_leads (t.leads h)

theorem Trace.keeps_asked (t : Trace config es w)
    (contract : (c.activity config).Keeps may ends []) {x : HostExchange}
    {later earlier : List Event} (h : es = later ++ .asked j c x :: earlier) :
    may (own j earlier) x.question := by
  obtain ⟨w₁, w₂, before, step⟩ := t.split h
  obtain ⟨next, doing⟩ := exists_of_asked step
  exact (before.keeps contract doing).1

theorem Trace.keeps_ended (t : Trace config es w)
    (contract : (c.activity config).Keeps may ends []) {result : c.Result}
    {later earlier : List Event} (h : es = later ++ .ended j c result :: earlier) :
    ends (own j earlier) result := by
  obtain ⟨w₁, w₂, before, step⟩ := t.split h
  cases step with
  | ended doing => exact before.keeps contract doing

end Contract

/-! ### Whose questions -/

theorem Trace.call_eq (t : Trace config es w) {x : Hosting c.Result}
    (doing : w.jobs j = some ⟨c, x⟩) {c' : HostCall} {y : HostExchange}
    (h : .asked j c' y ∈ es) : c' = c := by
  induction t generalizing j c x with
  | nil => cases h
  | @cons es w w' e before step ih =>
    have unasked (new : j = w.next) (h : .asked j c' y ∈ es) : False := by
      have := mem_own_of_asked h
      rw [before.own_eq_nil (Nat.le_of_eq new.symm)] at this
      cases this
    cases came_of_step before.fresh step doing with
    | same found others =>
      rcases List.mem_cons.1 h with rfl | h
      · exact absurd rfl others
      · exact ih found h
    | asked found =>
      rcases List.mem_cons.1 h with heq | h
      · cases heq
        rfl
      · exact ih found h
    | called new outside =>
      rcases List.mem_cons.1 h with heq | h
      · cases heq
      · exact (unasked new h).elim
    | spawned new other found =>
      rcases List.mem_cons.1 h with heq | h
      · cases heq
        exact absurd rfl other
      · exact (unasked new h).elim
    | follows new found =>
      rcases List.mem_cons.1 h with heq | h
      · cases heq
      · exact (unasked new h).elim

/-- An exchange of a call that is worked on is an event of that call. -/
theorem Trace.asked_of_own (t : Trace config es w) {x : Hosting c.Result}
    (doing : w.jobs j = some ⟨c, x⟩) {y : HostExchange} {newer older : List HostExchange}
    (h : own j es = newer ++ y :: older) :
    ∃ later earlier, es = later ++ .asked j c y :: earlier ∧ own j later = newer ∧
      own j earlier = older := by
  obtain ⟨later, c', earlier, rfl, hnew, hold⟩ := exists_of_own h
  have mem : .asked j c' y ∈ later ++ .asked j c' y :: earlier :=
    List.mem_append_right _ List.mem_cons_self
  obtain rfl := t.call_eq doing mem
  exact ⟨later, earlier, rfl, hnew, hold⟩

/-! ### Where calls go -/

theorem World.jobs_start_of_lt {t : Option HostTask} (h : j < w.next) :
    (w.start config t).jobs j = w.jobs j := by
  cases t with
  | none => rfl
  | some t => exact if_neg (Nat.ne_of_lt h)

/-- What becomes of a call with an event. -/
inductive Goes (w' : World) (j : Nat) (c : HostCall) : Hosting c.Result → Event → Prop
  /-- Nothing happens to it. -/
  | same {x : Hosting c.Result} {e : Event} (doing : w'.jobs j = some ⟨c, x⟩)
      (others : e.asker? ≠ some j) : Goes w' j c x e
  /-- Its question is answered. -/
  | asked {q : HostAsk} {next : q.Reply → Hosting c.Result} {r : q.Reply}
      (doing : w'.jobs j = some ⟨c, next r⟩) :
      Goes w' j c (Activity.ask q next) (.asked j c ⟨q, r⟩)
  /-- It ends. -/
  | ended {result : c.Result} : Goes w' j c (.done result) (.ended j c result)
  /-- The caller gives up. -/
  | dropped {q : HostAsk} {next : q.Reply → Hosting c.Result} (waits : q.isWait = true)
      (outside : c.isTask = false) : Goes w' j c (Activity.ask q next) (.dropped j)

/-- **What remains of a call stays as it is**, unless it is the call's own turn. -/
theorem goes_of_step (fresh : w.Fresh) (step : Step config w e w') {x : Hosting c.Result}
    (doing : w.jobs j = some ⟨c, x⟩) : Goes w' j c x e := by
  have old : j < w.next := fresh.lt doing
  -- the others leave it where it is
  have unset {i : Nat} {job : Option Job} {h : Host} (hj : j ≠ i) :
      ((w.withHost h).set i job).jobs j = some ⟨c, x⟩ := (if_neg hj).trans doing
  cases step with
  | called => exact .same ((if_neg (Nat.ne_of_lt old)).trans doing) (Option.some_ne_none j).symm
  | @asked i c' q next r h doing' =>
    have lt : j < ((w.withHost h).set i (some ⟨c', next r⟩)).next := old
    by_cases hj : j = i
    · subst hj
      cases doing.symm.trans doing'
      exact .asked ((World.jobs_start_of_lt lt).trans (if_pos rfl))
    · refine .same ((World.jobs_start_of_lt lt).trans (unset hj)) fun heq => ?_
      exact hj (Option.some.inj heq).symm
  | @ended i c' result doing' =>
    have lt : j < (w.set i none).next := old
    by_cases hj : j = i
    · subst hj
      cases doing.symm.trans doing'
      exact .ended
    · refine .same ((World.jobs_start_of_lt lt).trans ?_) (Option.some_ne_none j).symm
      exact (if_neg hj).trans doing
  | @dropped i c' q next doing' waits outside =>
    by_cases hj : j = i
    · subst hj
      cases doing.symm.trans doing'
      exact .dropped waits outside
    · exact .same (unset hj) (Option.some_ne_none j).symm
  | done => exact .same doing (Option.some_ne_none j).symm

theorem Trace.doing_of_spawned (t : Trace config es w) {task : HostTask} {r : Unit}
    (step : Step config w (.asked j c ⟨.spawn task, r⟩) w') :
    w'.jobs w.next = some ⟨.task task, task.activity⟩ ∧
      own w.next (.asked j c ⟨.spawn task, r⟩ :: es) = [] := by
  have unasked : own w.next es = [] := t.own_eq_nil (Nat.le_refl _)
  cases step with
  | asked doing answers =>
    have other : j ≠ w.next := Nat.ne_of_lt (t.fresh.lt doing)
    exact ⟨if_pos rfl, (if_neg other).trans unasked⟩

/-! ### Calls that need not wait -/

theorem exists_answers (h : Host) {q : HostAsk} (prompt : q.isWait = false) :
    ∃ r h', h.Answers q r h' := by
  cases q with
  | init | start | stop | status | listen | await | beginTaking => cases prompt
  | bind plugin config => exact ⟨.ok (), h, .surroundings rfl⟩
  | spawn t => exact ⟨(), h, .surroundings rfl⟩
  | timer span => exact ⟨(0 : Nat), h, .surroundings rfl⟩
  | _ => exact ⟨_, _, .records rfl⟩

/-- Whether a call can end by its own turns, without anything else happening. -/
def CanEnd (config : Config) (es : List Event) (j : Nat) (c : HostCall) : Prop :=
  ∃ turns w result, Trace config (.ended j c result :: (turns ++ es)) w ∧
    ∀ e ∈ turns, e.asker? = some j

/-- **A call that need not wait any more can end by its own turns.** -/
theorem Trace.finishes (t : Trace config es w) {x : Hosting c.Result}
    (doing : w.jobs j = some ⟨c, x⟩) (prompt : x.Asks fun q : HostAsk => q.isWait = false) :
    CanEnd config es j c := by
  induction x generalizing es w with
  | done result => exact ⟨[], _, result, .cons t (.ended doing), List.forall_mem_nil _⟩
  | ask q next ih =>
    obtain ⟨r, h, answers⟩ := exists_answers w.host prompt.1
    -- a task that is started with the answer gets a number of its own
    have now : (((w.withHost h).set j (some ⟨c, next r⟩)).start config q.task?).jobs j =
        some ⟨c, next r⟩ := by
      have old : j < ((w.withHost h).set j (some ⟨c, next r⟩)).next := t.fresh.lt doing
      rw [World.jobs_start_of_lt old]
      exact if_pos rfl
    obtain ⟨turns, w', result, t', hturns⟩ := ih r (.cons t (.asked doing answers)) now (prompt.2 r)
    refine ⟨turns ++ [.asked j c ⟨q, r⟩], w', result, ?_, ?_⟩
    · rwa [List.append_assoc]
    · exact List.forall_mem_append.2 ⟨hturns, List.forall_mem_singleton.2 rfl⟩

end Sidecar.Host
