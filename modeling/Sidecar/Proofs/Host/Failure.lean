import Sidecar.Proofs.Host.Play
import Sidecar.Proofs.Host.Taking

/-!
# Failing fast

Plugins report their errors at any time, and a run of the host ends with the oldest that it has not
taken, or with its shutdown.

* `Host.Trace.in_order` : what was reported was delivered in the same order, or still waits;
* `Host.Trace.waiting_of_signalled` : a failure that was signalled to a run of the host is there when
  it is taken;
* `HostCall.keeps_runPlugin` : the task of a run reports the error of the main loop, once;
* `HostCall.waits_run` : a run of the host need not wait any more once something was signalled to it,
  or the endpoint cannot be opened;
* `Host.Trace.fail_fast` : **the host fails fast**, in whatever order plugins fail, report errors and
  exit, and the host is shut down.
-/

namespace Sidecar

open HostExchange (of)

/-- The failure that is reported with an exchange. -/
def HostExchange.report? : HostExchange → Option Failure
  | ⟨.report context why, _⟩ => some { plugin := context.plugin, why }
  | _ => none

/-- The failure that is delivered with an exchange. -/
def HostExchange.delivery? : HostExchange → Option Failure
  | ⟨.takeFailure, failure⟩ => failure
  | _ => none

/-- What a main loop with an outcome has to report. -/
def Failure.ofOutcome (name : String) : Except PluginError Unit → List Failure
  | .ok () => []
  | .error why => [{ plugin := name, why }]

namespace HostCall

variable {settings : HostSettings} {name : String} {plugin : PluginId} {scope : Scope}

/-! ### The task of a run -/

theorem mem_of_mem_cons {past : List HostExchange} {q q' : HostAsk} {r : q.Reply} {r' : q'.Reply}
    (h : of q r ∈ of q' r' :: past) (hq : q ≠ q') : of q r ∈ past :=
  (List.mem_cons.1 h).resolve_left (of_ne_of hq)

/-- What the task of a run may ask, after what it has asked before. -/
inductive TaskMay (name : String) (plugin : PluginId) (scope : Scope) :
    List HostExchange → HostAsk → Prop
  | start : TaskMay name plugin scope [] (.start plugin scope)
  | finished : TaskMay name plugin scope [of (.start plugin scope) (.ok ())]
      (.endRun name plugin .stopped)
  | failed {why} : TaskMay name plugin scope [of (.start plugin scope) (.error why)]
      (.endRun name plugin (.failed why.details))
  | report {why} : TaskMay name plugin scope
      [of (.endRun name plugin (.failed why.details)) (), of (.start plugin scope) (.error why)]
      (.report { plugin := name, scope } why)

/-- What the task of a run has asked when it has ended. -/
inductive TaskEnds (name : String) (plugin : PluginId) (scope : Scope) :
    List HostExchange → Option HostTask → Prop
  | finished : TaskEnds name plugin scope
      [of (.endRun name plugin .stopped) (), of (.start plugin scope) (.ok ())] none
  | failed {why heard} : TaskEnds name plugin scope
      [of (.report { plugin := name, scope } why) heard,
        of (.endRun name plugin (.failed why.details)) (), of (.start plugin scope) (.error why)]
      none

/-- **The task of a run reports the error of the main loop.** -/
theorem keeps_runPlugin :
    (HostTask.run name plugin scope).activity.Keeps (TaskMay name plugin scope)
      (TaskEnds name plugin scope) [] := by
  refine .ask .start fun outcome => ?_
  cases outcome with
  | ok => exact .ask .finished fun _ => .finished
  | error why => exact .ask .failed fun _ => .ask .report fun _ => .failed

theorem TaskEnds.eq_none {past : List HostExchange} {result : Option HostTask}
    (h : TaskEnds name plugin scope past result) : result = none := by
  cases h <;> rfl

theorem TaskMay.isWait_eq_false {past : List HostExchange} {q : HostAsk}
    (h : TaskMay name plugin scope past q) (started : past ≠ []) : q.isWait = false := by
  cases h with
  | start => exact absurd rfl started
  | finished | failed | report => rfl

theorem TaskEnds.started {past : List HostExchange} {result : Option HostTask}
    (h : TaskEnds name plugin scope past result) :
    ∃ outcome, of (.start plugin scope) outcome ∈ past := by
  cases h with
  | finished => exact ⟨.ok (), List.mem_cons_of_mem _ List.mem_cons_self⟩
  | @failed why =>
    exact ⟨.error why, List.mem_cons_of_mem _ (List.mem_cons_of_mem _ List.mem_cons_self)⟩

/-- The task of a run reports what its main loop has to report, once. -/
theorem TaskEnds.reported {past : List HostExchange} {result : Option HostTask}
    {outcome : Except PluginError Unit} (h : TaskEnds name plugin scope past result)
    (mem : of (.start plugin scope) outcome ∈ past) :
    past.filterMap HostExchange.report? = Failure.ofOutcome name outcome := by
  cases h with
  | finished =>
    cases List.mem_singleton.1 (mem_of_mem_cons mem nofun)
    rfl
  | failed =>
    cases List.mem_singleton.1 (mem_of_mem_cons (mem_of_mem_cons mem nofun) nofun)
    rfl

/-! ### What a run of the host waits for -/

theorem RunEnds.result {past : List HostExchange} {result : Except HostError Unit}
    (h : RunEnds settings past result) :
    result = .ok () ∨ result = .error .server ∨
      ∃ name why, result = .error (.pluginFailed name why) := by
  cases h with
  | closed => exact .inr (.inl rfl)
  | @failed past f => exact .inr (.inr ⟨f.plugin, f.why, rfl⟩)
  | deceived | stopped => exact .inl rfl

theorem RunEnds.eq_server {past : List HostExchange} {result : Except HostError Unit}
    {address : Address} (h : RunEnds settings past result)
    (closed : of (.listen address) false ∈ past) : result = .error .server := by
  have later {past : List HostExchange} {q : HostAsk} {r : q.Reply}
      (h : of (.listen address) false ∈ of .endTaking () :: of (.cancel .root) () :: of q r :: past)
      (hq : .listen address ≠ q) : of (.listen address) false ∈ past :=
    mem_of_mem_cons (mem_of_mem_cons (mem_of_mem_cons h nofun) nofun) hq
  cases h with
  | closed => rfl
  | failed opened => exact absurd (mem_of_mem_cons (later closed nofun) nofun) (opened address)
  | deceived opened => exact absurd (mem_of_mem_cons (later closed nofun) nofun) (opened address)
  | stopped opened => exact absurd (later closed nofun) (opened address)

/-- Whether an exchange decides how a run of the host goes on to its end: the endpoint cannot be
opened, or something was signalled. -/
def Decides : HostExchange → Prop
  | ⟨.listen _, opened⟩ => opened = false
  | ⟨.await _, _⟩ => True
  | _ => False

/-- What a run of the host may ask: it waits only as long as nothing is decided. -/
def MayWait (past : List HostExchange) (q : HostAsk) : Prop :=
  (∀ x ∈ past, ¬ Decides x) ∨ q.isWait = false

theorem isWait_of_isStarting {q : HostAsk} (h : q.isStarting = true) : q.isWait = false := by
  cases q <;> first | rfl | cases h

theorem not_decides_of_isStarting {x : HostExchange} (h : x.question.isStarting = true) :
    ¬ Decides x := by
  obtain ⟨q, r⟩ := x
  cases q <;> first | exact id | cases h

theorem waits_starting {past : List HostExchange} {x : Hosting α}
    (undecided : ∀ x ∈ past, ¬ Decides x) (h : x.Asks fun q : HostAsk => q.isStarting = true) :
    x.Keeps MayWait (fun past _ => ∀ x ∈ past, ¬ Decides x) past := by
  refine .weaken (h.keeps fun later q _ hq => .inr (isWait_of_isStarting hq)) ?_
  rintro past' - ⟨later, rfl, asked⟩
  exact List.forall_mem_append.2 ⟨fun x hx => not_decides_of_isStarting (asked x hx), undecided⟩

theorem waits_openEndpoint {past : List HostExchange} (undecided : ∀ x ∈ past, ¬ Decides x) :
    (Host.openEndpoint settings).Keeps MayWait
      (fun past opened => opened = true → ∀ x ∈ past, ¬ Decides x) past := by
  unfold Host.openEndpoint
  split
  · refine .ask (.inl undecided) fun opened => ?_
    cases opened with
    | false => exact nofun
    | true =>
      refine .ask (.inr rfl) fun _ _ => ?_
      exact List.forall_mem_cons.2 ⟨id, List.forall_mem_cons.2 ⟨nofun, undecided⟩⟩
  · exact fun _ => undecided

theorem waits_watch {past : List HostExchange} (undecided : ∀ x ∈ past, ¬ Decides x) :
    Host.watch.Keeps MayWait (fun _ _ => True) past := by
  refine .ask (.inl undecided) fun signal => ?_
  cases signal with
  | failure =>
    refine .ask (.inr rfl) fun failure => ?_
    cases failure <;> trivial
  | _ => trivial

/-- **A run of the host waits only as long as nothing is decided.** -/
theorem waits_run : (Host.run settings).Keeps MayWait (fun _ _ => True) [] := by
  have undecided : ∀ x ∈ [of .beginTaking ()], ¬ Decides x := List.forall_mem_singleton.2 id
  refine .ask (.inl nofun) fun _ => .bind (waits_openEndpoint undecided) fun past ready h => ?_
  cases ready with
  | false => exact .ask (.inr rfl) fun _ => trivial
  | true =>
    refine .bind (waits_starting (h rfl) starts_startAll) fun past _ h => ?_
    refine .bind (waits_starting h starts_startPolling) fun past _ h => ?_
    refine .bind (waits_watch h) fun past result _ => ?_
    exact .ask (.inr rfl) fun _ => .ask (.inr rfl) fun _ => trivial

end HostCall

namespace Host

open HostCall (Holding RunMay RunEnds watched Decides)

/-- The failure that is reported with an event. -/
def Event.report? : Event → Option Failure
  | .asked _ _ x => HostExchange.report? x
  | .done (.report context why) => some { plugin := context.plugin, why }
  | _ => none

/-- The failure that is delivered with an event. -/
def Event.delivery? : Event → Option Failure
  | .asked _ _ x => HostExchange.delivery? x
  | _ => none

theorem delivery?_eq_some {e : Event} {f : Failure} (h : e.delivery? = some f) :
    ∃ j c, e = .asked j c (of .takeFailure (some f)) := by
  cases e with
  | asked j c x =>
    obtain ⟨q, r⟩ := x
    cases q with
    | takeFailure => exact ⟨j, c, by rw [show r = some f from h]; rfl⟩
    | _ => cases h
  | _ => cases h

/-- The failures that were reported, the oldest first. -/
def reported (es : List Event) : List Failure := (es.filterMap Event.report?).reverse

/-- The failures that were delivered, the oldest first. -/
def delivered (es : List Event) : List Failure := (es.filterMap Event.delivery?).reverse

variable {config : Config} {es : List Event} {w w' : World} {e : Event} {j : Nat}

theorem reverse_filterMap_cons {α β : Type} {f : α → Option β} {x : α} {xs : List α} :
    ((x :: xs).filterMap f).reverse = (xs.filterMap f).reverse ++ (f x).toList := by
  rw [List.filterMap_cons]
  cases f x <;> simp

/-! ### The order of failures -/

/-- That a failure may be delivered and another reported between two states of the channel: what is
delivered and what waits then is what waited and what is reported, and the host listens on. -/
def Flows (q q' : Failures) (delivery report : Option Failure) : Prop :=
  q.listening = true → q'.listening = true ∧
    delivery.toList ++ q'.waiting = q.waiting ++ report.toList

theorem Flows.refl {q : Failures} : Flows q q none none :=
  fun listens => ⟨listens, (List.append_nil _).symm⟩

theorem Flows.report {q : Failures} {context : PluginContext} {why : PluginError} :
    Flows q (context.report why q).2 none (some { plugin := context.plugin, why }) := by
  intro listens
  simp [PluginContext.report, Failures.report, listens]

theorem Flows.take {q : Failures} : Flows q q.take.2 q.take.1 none := by
  intro listens
  refine ⟨listens, ?_⟩
  simp only [Failures.take, Option.toList_none, List.append_nil]
  cases q.waiting <;> rfl

theorem flows_of_answers {h h' : Host} {q : HostAsk} {r : q.Reply} (answers : h.Answers q r h') :
    Flows h.failures h'.failures (HostExchange.delivery? ⟨q, r⟩) (HostExchange.report? ⟨q, r⟩) := by
  cases answers with
  | records found =>
    cases q with
    | report context why =>
      cases found
      exact .report
    | takeFailure =>
      cases found
      exact .take
    | beginTaking =>
      unfold answer? at found
      split_ifs at found
      cases found
      exact .refl
    | _ =>
      cases found
      try exact .refl
  | surroundings hopen => cases q <;> first | exact .refl | cases hopen
  | signal => exact .refl

/-- **What an event does to the failures.** -/
theorem flows_of_step (step : Step config w e w') :
    Flows w.host.failures w'.host.failures e.delivery? e.report? := by
  cases step with
  | called => exact .refl
  | asked doing answers =>
    rw [World.host_start]
    exact flows_of_answers answers
  | ended =>
    rw [World.host_start]
    exact .refl
  | @dropped j c q =>
    have same : (w.host.release c q).failures = w.host.failures := by
      unfold release
      split <;> rfl
    change Flows _ (w.host.release c q).failures _ _
    rw [same]
    exact .refl
  | @done deed =>
    cases deed with
    | report context why => exact .report
    | branch => exact .refl
    | cancel => exact .refl

/-- **Failures are delivered in the order in which they were reported**, each once, and none is
lost. -/
theorem Trace.in_order (t : Trace config es w) :
    w.host.failures.listening = true ∧
      reported es = delivered es ++ w.host.failures.waiting := by
  induction t with
  | nil => exact ⟨rfl, rfl⟩
  | @cons es w w' e before step ih =>
    obtain ⟨listens, order⟩ := ih
    obtain ⟨listens', flow⟩ := flows_of_step step listens
    refine ⟨listens', ?_⟩
    calc reported (e :: es)
        = reported es ++ e.report?.toList := reverse_filterMap_cons
      _ = delivered es ++ (w.host.failures.waiting ++ e.report?.toList) := by
          rw [order, List.append_assoc]
      _ = delivered es ++ e.delivery?.toList ++ w'.host.failures.waiting := by
          rw [← flow, List.append_assoc]
      _ = delivered (e :: es) ++ w'.host.failures.waiting := by
          rw [delivered, delivered, reverse_filterMap_cons]

theorem eq_head?_of_taken {c : HostCall} {r : Option Failure}
    (step : Step config w (.asked j c (of .takeFailure r)) w') :
    r = w.host.failures.waiting.head? :=
  (eq_of_answer? step rfl).1

theorem come_of_signalled {c : HostCall} {signals : List Signal} {s : Signal}
    (step : Step config w (.asked j c (of (.await signals) s)) w') :
    s ∈ signals ∧ w.host.mayBring s = true := by
  cases step with
  | asked doing answers =>
    cases answers with
    | records found => cases found
    | surroundings hopen => cases hopen
    | signal mem come => exact ⟨mem, come⟩

/-- **A failure that was signalled to a run of the host is still there** when it comes to take it. -/
theorem Trace.waiting_of_signalled (t : Trace config es w) {x : Hosting (Except HostError Unit)}
    {past : List HostExchange} (doing : w.jobs j = some ⟨.run, x⟩)
    (h : own j es = of (.await watched) .failure :: past) : w.host.failures.waiting ≠ [] := by
  induction t generalizing x with
  | nil => cases doing
  | @cons es w w' e before step ih =>
    have flow := (flows_of_step step before.in_order.1).2
    generalize hjob : (⟨.run, x⟩ : Job) = job at doing
    cases came_of_step before.fresh step doing with
    | same found others =>
      rw [own_cons_of_ne others] at h
      subst hjob
      -- nobody else takes failures, as this run does
      have undelivered : e.delivery? = none := by
        cases hd : e.delivery? with
        | none => rfl
        | some f =>
          obtain ⟨k, c, rfl⟩ := delivery?_eq_some hd
          obtain ⟨next, asking⟩ := exists_of_asked step
          have taker := before.holder_of_ask asking (.inr rfl) nofun
          have me : Holder es w j := by
            refine ⟨⟨x, found⟩, ?_⟩
            have keeps := before.keeps HostCall.runMay_run found
            rw [h] at keeps ⊢
            exact HostCall.holding_of_signalled keeps
          cases before.holder_unique taker me
          exact absurd rfl others
      rw [undelivered, Option.toList_none, List.nil_append] at flow
      rw [flow]
      exact List.append_ne_nil_of_left_ne_nil (ih found h) _
    | @asked c q next r found =>
      rw [own_asked] at h
      obtain ⟨heq, -⟩ := List.cons.inj h
      cases heq
      -- it was signalled because something waited, and nothing is taken with a signal
      have come := (come_of_signalled step).2
      have undelivered : (Event.asked j c ⟨.await watched, .failure⟩).delivery? = none := rfl
      rw [undelivered, Option.toList_none, List.nil_append] at flow
      rw [flow]
      refine List.append_ne_nil_of_left_ne_nil ?_ _
      intro none
      simp [mayBring, none] at come
    | called new outside =>
      have unasked : own j es = [] := before.own_eq_nil (Nat.le_of_eq new.symm)
      have heq : own j es = of (.await watched) .failure :: past := h
      rw [unasked] at heq
      cases heq
    | spawned => cases hjob
    | follows => cases hjob

/-! ### The shutdown -/

theorem Trace.isCancelled_of_step (t : Trace config es w) (step : Step config w e w') {s : Scope}
    (h : w.host.isCancelled s) : w'.host.isCancelled s := by
  have kept : w'.host.registry.scopes.isCancelled s := by
    obtain h' | ⟨-, ⟨u, h'⟩ | ⟨u, h'⟩⟩ := t.registry_of_step step
    · rw [h']
      cases e.op? with
      | none => exact h
      | some op => exact Registry.isCancelled_perform.2 (.inr h)
    · rw [h']
      exact Scopes.isCancelled_cancel.2 (.inr h)
    · rw [h']
      exact (@Scopes.isCancelled_child w.host.registry.scopes u s).trans h
  exact kept

theorem Trace.isCancelled_of_asked (t : Trace config es w) {c : HostCall} {s : Scope}
    (h : .asked j c (of (.cancel s) ()) ∈ es) : w.host.isCancelled s := by
  induction t with
  | nil => cases h
  | cons before step ih =>
    rcases List.mem_cons.1 h with heq | h
    · subst heq
      rw [(eq_of_answer? step rfl).2]
      exact Scopes.isCancelled_cancel.2 (.inl (List.suffix_refl s))
    · exact before.isCancelled_of_step step (ih h)

theorem isCancelled_of_isShutDown {h : Host} (down : h.isShutDown) (s : Scope) :
    h.isCancelled s := by
  obtain ⟨u, hu, hroot⟩ := Scopes.isCancelled_iff.1 down
  exact Scopes.isCancelled_iff.2 ⟨u, hu, hroot.trans List.nil_suffix⟩

/-! ### Runs of the host -/

/-- How a host fails fast. -/
structure FailFast (config : Config) (es : List Event) (w : World) : Prop where
  /-- The host listens to failures at any time. -/
  listens : w.host.failures.listening = true
  /-- Failures are delivered in the order in which they were reported, each once, unless they still
  wait for that. -/
  in_order : reported es = delivered es ++ w.host.failures.waiting
  /-- The task of a run that has ended has reported the error of the main loop under the name of the
  plugin, once, if there was one. -/
  reports : ∀ {j name plugin scope result later earlier},
    es = later ++ .ended j (.task (.run name plugin scope)) result :: earlier →
    ∃ outcome, of (.start plugin scope) outcome ∈ own j earlier ∧
      (own j earlier).filterMap HostExchange.report? = Failure.ofOutcome name outcome
  /-- The task of a run whose main loop has an outcome can end, whatever the others do. -/
  can_report : ∀ {j name plugin scope x outcome},
    w.jobs j = some ⟨.task (.run name plugin scope), x⟩ →
    of (.start plugin scope) outcome ∈ own j es →
    CanEnd config es j (.task (.run name plugin scope))
  /-- The results of a run of the host. -/
  result : ∀ {j result}, .ended j .run result ∈ es →
    result = .ok () ∨ result = .error .server ∨
      ∃ name why, result = .error (.pluginFailed name why)
  /-- A run of the host that fails for a plugin has taken the oldest failure that was not delivered
  yet. -/
  failed : ∀ {j name why later earlier},
    es = later ++ .ended j .run (.error (.pluginFailed name why)) :: earlier →
    ∃ newer older rest,
      earlier = newer ++ .asked j .run (of .takeFailure (some ⟨name, why⟩)) :: older ∧
        reported older = delivered older ++ ⟨name, why⟩ :: rest
  /-- A run of the host that succeeds had found the host shut down. -/
  stopped : ∀ {j later earlier}, es = later ++ .ended j .run (.ok ()) :: earlier →
    ∃ newer older w',
      earlier = newer ++ .asked j .run (of (.await watched) (.cancelled .root)) :: older ∧
        Trace config older w' ∧ w'.host.isShutDown = true
  /-- Everything is cancelled once a run of the host has succeeded or failed for a plugin. -/
  cancelled : ∀ {j result}, .ended j .run result ∈ es → result ≠ .error .server →
    ∀ scope, w.host.isCancelled scope = true
  /-- A run of the host that cannot open the endpoint has asked for nothing else: it has started no
  plugin and no polling, and has cancelled nothing. -/
  closed : ∀ {j later earlier}, es = later ++ .ended j .run (.error .server) :: earlier →
    own j earlier = [of .endTaking (),
      of (.listen config.host.webServer.listen) false, of .beginTaking ()]
  /-- That is its result whenever the endpoint cannot be opened. -/
  result_closed : ∀ {j result address later earlier},
    es = later ++ .ended j .run result :: earlier →
    of (.listen address) false ∈ own j earlier → result = .error .server
  /-- A run of the host that cannot open the endpoint, or to which something was signalled, can end,
  whatever the others do. -/
  can_end : ∀ {j x y}, w.jobs j = some ⟨.run, x⟩ → y ∈ own j es → Decides y →
    CanEnd config es j .run

theorem Trace.runEnds (t : Trace config es w) {result : Except HostError Unit}
    {later earlier : List Event} (h : es = later ++ .ended j .run result :: earlier) :
    RunEnds config.host (own j earlier) result :=
  t.keeps_ended (c := .run) HostCall.runMay_run h

theorem Trace.doing_of_ended (t : Trace config es w) {c : HostCall} {result : c.Result}
    {later earlier : List Event} (h : es = later ++ .ended j c result :: earlier) :
    ∃ w₁, Trace config earlier w₁ ∧ w₁.jobs j = some ⟨c, .done result⟩ := by
  obtain ⟨w₁, w₂, before, step⟩ := t.split h
  cases step with
  | ended doing => exact ⟨w₁, before, doing⟩

theorem Trace.asked_before_end (t : Trace config es w) {x : Hosting (Except HostError Unit)}
    (doing : w.jobs j = some ⟨.run, x⟩) {y : HostExchange} {past : List HostExchange}
    (h : own j es = of .endTaking () :: of (.cancel .root) () :: y :: past) :
    ∃ newer older, es = newer ++ .asked j .run y :: older ∧
      own j newer = [of .endTaking (), of (.cancel .root) ()] ∧ own j older = past :=
  t.asked_of_own doing (h : own j es = [of .endTaking (), of (.cancel .root) ()] ++ y :: past)

theorem Trace.oldest_of_taken (t : Trace config es w) {c : HostCall} {r : Option Failure}
    {later earlier : List Event} (h : es = later ++ .asked j c (of .takeFailure r) :: earlier) :
    ∃ w₁, Trace config earlier w₁ ∧ r = w₁.host.failures.waiting.head? ∧
      reported earlier = delivered earlier ++ w₁.host.failures.waiting := by
  obtain ⟨w₁, w₂, before, step⟩ := t.split h
  exact ⟨w₁, before, eq_head?_of_taken step, before.in_order.2⟩

theorem Trace.failed_of_ended (t : Trace config es w) {name : String} {why : PluginError}
    {later earlier : List Event}
    (h : es = later ++ .ended j .run (.error (.pluginFailed name why)) :: earlier) :
    ∃ newer older rest,
      earlier = newer ++ .asked j .run (of .takeFailure (some ⟨name, why⟩)) :: older ∧
        reported older = delivered older ++ ⟨name, why⟩ :: rest := by
  obtain ⟨w₁, before, doing⟩ := t.doing_of_ended h
  have ends := t.runEnds h
  generalize hown : own j earlier = past at ends
  cases ends with
  | failed =>
    obtain ⟨newer, older, rfl, -, -⟩ := before.asked_before_end doing hown
    obtain ⟨w₂, -, head, order⟩ := before.oldest_of_taken rfl
    obtain ⟨rest, hrest⟩ := List.head?_eq_some_iff.1 head.symm
    exact ⟨newer, older, rest, rfl, hrest ▸ order⟩

theorem Trace.stopped_of_ended (t : Trace config es w) {later earlier : List Event}
    (h : es = later ++ .ended j .run (.ok ()) :: earlier) :
    ∃ newer older w',
      earlier = newer ++ .asked j .run (of (.await watched) (.cancelled .root)) :: older ∧
        Trace config older w' ∧ w'.host.isShutDown = true := by
  obtain ⟨w₁, before, doing⟩ := t.doing_of_ended h
  have ends := t.runEnds h
  generalize hown : own j earlier = past at ends
  cases ends with
  | deceived =>
    -- the failure that was signalled was there to be taken
    obtain ⟨newer, older, rfl, -, hold⟩ := before.asked_before_end doing hown
    obtain ⟨w₂, w₃, earliest, step⟩ := before.split rfl
    obtain ⟨next, taking⟩ := exists_of_asked step
    have waiting := earliest.waiting_of_signalled taking hold
    exact absurd (List.head?_eq_none_iff.1 (eq_head?_of_taken step).symm) waiting
  | @stopped past signal opened other =>
    obtain ⟨newer, older, rfl, -, -⟩ := before.asked_before_end doing hown
    obtain ⟨w₂, w₃, earliest, step⟩ := before.split rfl
    obtain ⟨mem, come⟩ := come_of_signalled step
    obtain rfl := List.mem_singleton.1 ((List.mem_cons.1 mem).resolve_left other)
    exact ⟨newer, older, w₂, rfl, earliest, come⟩

theorem Trace.cancelled_of_ended (t : Trace config es w) {result : Except HostError Unit}
    (h : .ended j .run result ∈ es) (hr : result ≠ .error .server) (scope : Scope) :
    w.host.isCancelled scope = true := by
  obtain ⟨later, earlier, heq⟩ := List.append_of_mem h
  have ends := t.runEnds heq
  have mem : of (.cancel .root) () ∈ own j earlier := by
    generalize own j earlier = past at ends
    cases ends with
    | closed => exact absurd rfl hr
    | failed | deceived | stopped => exact List.mem_cons_of_mem _ List.mem_cons_self
  obtain ⟨c, hc⟩ := mem_of_own mem
  have asked : .asked j c (of (.cancel .root) ()) ∈ es :=
    heq ▸ List.mem_append_right _ (List.mem_cons_of_mem _ hc)
  exact isCancelled_of_isShutDown (t.isCancelled_of_asked asked) scope

theorem Trace.canEnd_of_started (t : Trace config es w) {name : String} {plugin : PluginId}
    {scope : Scope} {x : Hosting (Option HostTask)} {outcome : Except PluginError Unit}
    (doing : w.jobs j = some ⟨.task (.run name plugin scope), x⟩)
    (h : of (.start plugin scope) outcome ∈ own j es) :
    CanEnd config es j (.task (.run name plugin scope)) := by
  have keeps := t.keeps HostCall.keeps_runPlugin doing
  refine t.finishes doing (keeps.asks (· ≠ []) (List.ne_nil_of_mem h) ?_ ?_)
  · exact fun _ _ => List.cons_ne_nil _ _
  · exact fun started may => may.isWait_eq_false started

theorem Trace.canEnd_of_decided (t : Trace config es w) {x : Hosting (Except HostError Unit)}
    {y : HostExchange} (doing : w.jobs j = some ⟨.run, x⟩) (mem : y ∈ own j es)
    (decides : Decides y) : CanEnd config es j .run := by
  have keeps := t.keeps HostCall.waits_run doing
  refine t.finishes doing (keeps.asks (∃ y ∈ ·, Decides y) ⟨y, mem, decides⟩ ?_ ?_)
  · rintro past e ⟨y, mem, decides⟩
    exact ⟨y, List.mem_cons_of_mem _ mem, decides⟩
  · rintro past q ⟨y, mem, decides⟩ may
    exact may.resolve_left fun undecided => undecided y mem decides

/-- **The host fails fast**, in whatever order plugins fail, report errors and exit, and the host is
shut down. -/
theorem Trace.fail_fast (t : Trace config es w) : FailFast config es w where
  listens := t.in_order.1
  in_order := t.in_order.2
  reports h := by
    have ends := t.keeps_ended HostCall.keeps_runPlugin h
    obtain ⟨outcome, mem⟩ := ends.started
    exact ⟨outcome, mem, ends.reported mem⟩
  can_report := t.canEnd_of_started
  result h := by
    obtain ⟨later, earlier, heq⟩ := List.append_of_mem h
    exact (t.runEnds heq).result
  failed := t.failed_of_ended
  stopped := t.stopped_of_ended
  cancelled := t.cancelled_of_ended
  closed h := by
    have ends := t.runEnds h
    generalize own _ _ = past at ends
    cases ends
    rfl
  result_closed h := (t.runEnds h).eq_server
  can_end := t.canEnd_of_decided

/-- The host runs and starts a plugin, which fails. -/
def failingRun : List Turn :=
  [.call (.add "a" 0), .go 0, .go 0, .go 0, .call .run, .go 1, .go 1, .go 1, .go 1, .go 1, .go 1,
    .go 1, .go 2, .go 2, .go 2, .go 1, .go 1, .go 1, .go 1, .go 1]

theorem fail_fast_failed : ∃ es w,
    FailFast (onePlugin "a") (.ended 1 .run (.error (.pluginFailed "a" (.runtime "late"))) :: es)
      w ∧
    delivered es = [⟨"a", .runtime "late"⟩] := by
  have played :
      (play (onePlugin "a") (.failing (.runtime "late") "a") failingRun ([], .new)).bind
        (fun p => p.1.head?.bind fun e => e.failedRun?.map fun f => (f, delivered p.1.tail)) =
      some ((1, ⟨"a", .runtime "late"⟩), [⟨"a", .runtime "late"⟩]) := by
    decide +kernel
  obtain ⟨⟨es, w⟩, hplay, hw⟩ := Option.bind_eq_some_iff.1 played
  cases es with
  | nil => cases hw
  | cons e es =>
    obtain ⟨f, hf, heq⟩ := Option.map_eq_some_iff.1 hw
    obtain ⟨rfl, hdelivered⟩ := Prod.mk.inj heq
    obtain rfl := eq_ended_of_failedRun? hf
    exact ⟨es, w, (trace_play .nil hplay).fail_fast, hdelivered⟩

end Host

end Sidecar
