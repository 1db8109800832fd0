import Sidecar.Proofs.Host.Failure
import Sidecar.Proofs.Host.Instance
import Sidecar.Proofs.Host.Launch

/-!
# Errors of instances that have retired

The main loop of an instance goes on until it heeds that its scope is cancelled, so it may return an
error when its instance is in no entry any more.

* `Host.Trace.late_error` : such an error changes no entry and cancels nothing.  All that the task of
  the run still does to the host is to report it, once, under the name of the plugin.

The host takes it like any other failure, though: `Host.late_error_ends_host` shows a run of the host
that ends with it.
-/

namespace Sidecar.Host

open HostExchange (of)
open HostCall (TaskMay TaskEnds)

variable {config : Config} {es : List Event} {w w' : World} {e : Event} {j : Nat} {c : HostCall}
  {name : String} {plugin : PluginId} {scope : Scope} {why : PluginError}

/-- That all that an event of a call does to the others is to report a failure, if it does. -/
structure OnlyReports (j : Nat) (w : World) (e : Event) (w' : World) : Prop where
  /-- Entries stay as they are. -/
  entries : ∀ name, w'.get? name = w.get? name
  /-- Nothing is cancelled. -/
  scopes : w'.host.registry.scopes = w.host.registry.scopes
  /-- A failure that is reported waits behind those that waited before. -/
  failures : w'.host.failures.waiting = w.host.failures.waiting ++ e.report?.toList
  /-- Whoever takes the failures goes on with that. -/
  taking : w'.host.taking = w.host.taking
  /-- Other calls stay as they are. -/
  others : ∀ i ≠ j, w'.jobs i = w.jobs i

theorem Trace.waiting_of_step (t : Trace config es w) (step : Step config w e w')
    (undelivered : e.delivery? = none) :
    w'.host.failures.waiting = w.host.failures.waiting ++ e.report?.toList := by
  have flow := (flows_of_step step t.in_order.1).2
  rwa [undelivered, Option.toList_none, List.nil_append] at flow

theorem Trace.only_reports_of_endRun (t : Trace config es w) {state : Lifecycle}
    (retired : Retired plugin es) (halted : state.isRunning = false)
    (step : Step config w (.asked j c (of (.endRun name plugin state) ())) w') :
    OnlyReports j w (.asked j c (of (.endRun name plugin state) ())) w' := by
  have entries (other : String) : w'.get? other = w.get? other := by
    rw [t.get?_of_endRun step halted]
    split_ifs with hother
    · -- the entry is another's
      cases found : w.get? other with
      | none => rfl
      | some entry =>
        have another : ¬ (entry.plugin = plugin ∧ entry.state.isRunning) :=
          fun h => t.plugin_ne_of_retired retired found h.1
        rw [Option.map_some, if_neg another]
    · rfl
  have waiting := t.waiting_of_step step rfl
  cases step with
  | asked doing answers =>
    cases answers with
    | records found =>
      cases found
      exact ⟨entries, rfl, waiting, rfl, fun i hi => if_neg hi⟩
    | surroundings hopen => cases hopen

theorem Trace.only_reports_of_report (t : Trace config es w) {context : PluginContext}
    {heard : Bool} (step : Step config w (.asked j c (of (.report context why) heard)) w') :
    OnlyReports j w (.asked j c (of (.report context why) heard)) w' := by
  have waiting := t.waiting_of_step step rfl
  cases step with
  | asked doing answers =>
    cases answers with
    | records found =>
      cases found
      exact ⟨fun _ => rfl, rfl, waiting, rfl, fun i hi => if_neg hi⟩
    | surroundings hopen => cases hopen

/-- What the error of a main loop does that was returned when the instance had retired. -/
structure LateError (config : Config) (es : List Event) (w : World) (j : Nat) (name : String)
    (plugin : PluginId) (scope : Scope) (why : PluginError) : Prop where
  /-- All that the task of the run may do now is to report a failure, or to end. -/
  only_reports : ∀ {e w'}, Step config w e w' →
    (e.asker? = some j ∨ ∃ result, e = .ended j (.task (.run name plugin scope)) result) →
    OnlyReports j w e w'
  /-- If it may end now then it has reported the error, once, under the name of the plugin. -/
  reported : ∀ {result w'}, Step config w (.ended j (.task (.run name plugin scope)) result) w' →
    (own j es).filterMap HostExchange.report? = [{ plugin := name, why }]
  /-- It can end, whatever the others do, unless it has. -/
  can_end : ∀ {x}, w.jobs j = some ⟨.task (.run name plugin scope), x⟩ →
    CanEnd config es j (.task (.run name plugin scope))

/-- **An error that is returned when the instance has retired changes no entry and cancels nothing**:
it is only reported. -/
theorem Trace.late_error (t : Trace config es w) {later earlier : List Event}
    (h : es = later ++
      .asked j (.task (.run name plugin scope)) (of (.start plugin scope) (.error why)) :: earlier)
    (retired : Retired plugin earlier) : LateError config es w j name plugin scope why := by
  have event : .asked j (.task (.run name plugin scope))
      (of (.start plugin scope) (.error why)) ∈ es :=
    h ▸ List.mem_append_right _ List.mem_cons_self
  have failed : of (.start plugin scope) (.error why) ∈ own j es := mem_own_of_asked event
  have retired : Retired plugin es := by
    rw [h, List.append_cons]
    exact retired.append
  refine ⟨fun {e w'} step whose => ?_, fun {result w'} step => ?_, fun {x} doing => ?_⟩
  · rcases whose with asks | ⟨result, rfl⟩
    · cases e with
      | asked i c x =>
        cases asks
        obtain ⟨next, doing⟩ := exists_of_asked step
        obtain rfl := t.call_eq doing event
        have may := (t.keeps HostCall.keeps_runPlugin doing).1
        obtain ⟨q, r⟩ := x
        change TaskMay name plugin scope (own j es) q at may
        -- the main loop has returned an error, so its end is recorded or it is reported
        generalize own j es = past at may failed
        cases may with
        | start => cases failed
        | finished => cases List.mem_singleton.1 failed
        | failed => exact t.only_reports_of_endRun retired rfl step
        | report => exact t.only_reports_of_report step
      | _ => cases asks
    · cases step with
      | ended doing =>
        have ends : TaskEnds name plugin scope (own j es) result :=
          t.keeps HostCall.keeps_runPlugin doing
        obtain rfl := ends.eq_none
        exact ⟨fun _ => rfl, rfl, (List.append_nil _).symm, rfl, fun i hi => if_neg hi⟩
  · cases step with
    | ended doing =>
      have ends : TaskEnds name plugin scope (own j es) result :=
        t.keeps HostCall.keeps_runPlugin doing
      exact ends.reported failed
  · exact t.canEnd_of_started doing failed

/-- While the host runs its plugin is removed, and then the main loop fails. -/
def removedWhileRunning : List Turn :=
  [.call (.add "a" 0), .go 0, .go 0, .go 0, .call .run, .go 1, .go 1, .go 1, .go 1, .go 1, .go 1,
    .go 1, .call (.remove "a"), .go 4, .go 4, .go 4, .go 4, .go 4, .go 2, .go 2, .go 2,
    .go 1, .go 1, .go 1, .go 1, .go 1]

/-- A run of the host can end with the error of an instance that was removed before. -/
theorem late_failure : ∃ es w later earlier, Trace (onePlugin "a") es w ∧
    es = later ++ .asked 2 (.task (.run "a" 0 [1, 0]))
      (of (.start 0 [1, 0]) (.error (.runtime "late"))) :: earlier ∧
    Retired 0 earlier ∧ (∃ r, .ended r (.remove "a") (.ok ()) ∈ earlier) ∧
    reported es = [⟨"a", .runtime "late"⟩] ∧
    .ended 1 .run (.error (.pluginFailed "a" (.runtime "late"))) ∈ later := by
  -- seven events came after the error and fourteen between it and the registration, of which the
  -- removal is the newest but one
  have run :
      (play (onePlugin "a") (.failing (.runtime "late") "a") removedWhileRunning ([], .new)).map
        (fun p => (p.1[7]?.bind Event.startError?, reported p.1,
          (p.1.take 7).filterMap Event.failedRun?)) =
      some (some (2, .run "a" 0 [1, 0], .runtime "late"),
        [⟨"a", .runtime "late"⟩], [(1, ⟨"a", .runtime "late"⟩)]) := by
    decide +kernel
  have removal :
      (play (onePlugin "a") (.failing (.runtime "late") "a") removedWhileRunning ([], .new)).map
        (fun p => ((p.1.drop 8).filterMap Event.removed?,
          (p.1.drop 8)[14]?.bind Event.insertion?,
          ((p.1.drop 8).take 14)[1]?.bind Event.op?)) =
      some (["a"], some ("a", 0), some (.remove "a")) := by
    decide +kernel
  obtain ⟨⟨es, w⟩, hplay, hrun⟩ := Option.map_eq_some_iff.1 run
  rw [hplay, Option.map_some] at removal
  simp only [Prod.mk.injEq, Option.bind_eq_some_iff] at hrun
  simp only [Option.some.injEq, Prod.mk.injEq, Option.bind_eq_some_iff] at removal
  obtain ⟨⟨e, he, failed⟩, hreported, hended⟩ := hrun
  obtain ⟨hremoved, ⟨i, hi, inserted⟩, x, hx, removes⟩ := removal
  obtain rfl := eq_asked_of_startError? failed
  refine ⟨es, w, es.take 7, es.drop 8, trace_play .nil hplay, eq_take_append he, ?_, ?_,
    hreported, ?_⟩
  · exact ⟨_, i, _, "a", eq_take_append hi, inserted, x, List.mem_of_getElem? hx, _, removes, rfl⟩
  · obtain ⟨y, hy, hy'⟩ := List.mem_filterMap.1 (hremoved ▸ List.mem_singleton_self "a")
    obtain ⟨r, rfl⟩ := exists_of_removed? hy'
    exact ⟨r, hy⟩
  · obtain ⟨y, hy, hy'⟩ := List.mem_filterMap.1
      (hended ▸ List.mem_singleton_self (1, (⟨"a", .runtime "late"⟩ : Failure)))
    obtain rfl := eq_ended_of_failedRun? hy'
    exact hy

theorem late_error_removed : ∃ es w,
    LateError (onePlugin "a") es w 2 "a" 0 [1, 0] (.runtime "late") ∧
      reported es = [⟨"a", .runtime "late"⟩] := by
  obtain ⟨es, w, later, earlier, t, h, retired, -, hreported, -⟩ := late_failure
  exact ⟨es, w, t.late_error h retired, hreported⟩

/-- **An instance that was removed can end a run of the host.** -/
theorem late_error_ends_host : ¬ ∀ (config : Config) (es : List Event) (w : World) (j k : Nat)
    (name : String) (plugin : PluginId) (scope : Scope) (why : PluginError)
    (later earlier : List Event),
    Trace config es w →
    es = later ++ .asked j (.task (.run name plugin scope))
      (of (.start plugin scope) (.error why)) :: earlier →
    Retired plugin earlier → (∃ r, .ended r (.remove name) (.ok ()) ∈ earlier) →
    reported es = [{ plugin := name, why }] →
    .ended k .run (.error (.pluginFailed name why)) ∉ later := by
  intro harmless
  obtain ⟨es, w, later, earlier, t, h, retired, removed, hreported, ended⟩ := late_failure
  exact harmless _ es w _ _ _ _ _ _ later earlier t h retired removed hreported ended

end Sidecar.Host
