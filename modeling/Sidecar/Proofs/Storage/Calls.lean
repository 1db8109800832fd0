import Sidecar.Proofs.Storage.Contract

/-!
# The calls of a store

`InKube.storeIn` is what a store asks in some surroundings and what it comes to.  Where cluster
storage is set up (`InKube.Ready`) it goes in one of the ways of `InKube.Course`
(`InKube.course_storeIn`), so its calls of the cluster are known from the answers.

* `InKube.calls_of_store` : **the calls of a store of a configuration that can be used, stage by
  stage, and its result**: at most one look at the pod, then the attempts at the patch of the pod,
  then those at the patch of the further object.
-/

namespace Sidecar

/-- The error of a failure. -/
def errorOf? {ε α : Type} : Except ε α → Option ε
  | .error e => some e
  | .ok _ => none

/-- The error that a call of the cluster was answered with. -/
def StorageExchange.failure? : StorageExchange → Option StorageError
  | ⟨.getPod _, answer⟩ => errorOf? (α := Pod) answer
  | ⟨.patchPod .., answer⟩ | ⟨.patchObject .., answer⟩ => errorOf? (α := Unit) answer
  | _ => none

namespace InKube

open StorageExchange (of)

/-- Surroundings in which cluster storage is set up for a pod and every question is answered that
has an answer. -/
structure Ready (s : Activity.Surroundings StorageI) (home : PodName) : Prop where
  home : ∀ past, s past .home = some (some home)
  answers : ∀ past q, s past q = none → q = .breakOff

/-- What a store asks in some surroundings, the newest first, and what it comes to: nothing if it
breaks off. -/
def storeIn (s : Activity.Surroundings StorageI) (env : Environment) (b : Backoff) (data : String)
    (config : StorageConfig) : List StorageExchange × Option (Except StorageError Unit) :=
  (store env b data config).run.within s []

/-- The stages of a store of a configuration that can be used: the look at the pod, the patch of
the pod and the patch of the further object. -/
structure Stages (env : Environment) (b : Backoff) (home : PodName) (data : String)
    (c : InKubeConfig) (past fetched onPod onTarget : List StorageExchange)
    (result : Option (Except StorageError Unit)) : Prop where
  /-- There are no other calls. -/
  calls_eq : calls past = fetched ++ onPod ++ onTarget
  /-- The pod is looked at once at most, and only for a target. -/
  fetched_once : fetched = [] ∨
    c.target.isSome = true ∧ ∃ answer, fetched = [of (.getPod home) answer]
  /-- The store fails as the look at the pod does. -/
  unfetched : ∀ e, fetched = [of (.getPod home) (.error e)] →
    onPod = [] ∧ onTarget = [] ∧ result = some (.error e)
  /-- Otherwise the pod is patched, if there is anything to write; if that does not succeed the
  store is at its end, otherwise the further object is patched, if there is anything to write. -/
  goes_on : (∀ e, fetched ≠ [of (.getPod home) (.error e)]) →
    ∃ outcome, Stage b (podWrite? home data c) onPod outcome ∧
      (outcome ≠ some (.ok ()) → onTarget = [] ∧ result = outcome) ∧
      (outcome = some (.ok ()) → ∃ object?, Resolved env home c past fetched object? ∧
        TargetStage b (targetWrite? data c object?) onTarget result)
  /-- The store succeeds exactly if the last call of every stage did and the patch of the further
  object could be made. -/
  succeeds_iff : result = some (.ok ()) ↔
    (∀ stage ∈ [fetched, onPod, onTarget], ∀ x ∈ stage.getLast?, x.failure? = none) ∧
      (c.target.isSome = true → c.policies ≠ [] → ∃ patch, c.targetPatch data = .ok patch)
  /-- There is a result if the backoff has all its waits. -/
  result : (b.pause? (b.attempts - 1)).isSome = true → result.isSome = true

variable {s : Activity.Surroundings StorageI} {env : Environment} {b : Backoff} {home : PodName}
  {data : String} {config : StorageConfig} {c : InKubeConfig}
  {past fetched onPod onTarget : List StorageExchange} {w? : Option Write}
  {object? : Option ObjectRef} {outcome : Option (Except StorageError Unit)}

/-! ### A store in its surroundings -/

theorem outcome_storeIn (answers : ∀ past q, s past q = none → q = .breakOff) :
    Outcome env b data config (storeIn s env b data config).1 (storeIn s env b data config).2 := by
  cases result : (storeIn s env b data config).2 with
  | some r => exact keeps_store.of_result result
  | none =>
    obtain ⟨q, unanswered, may⟩ := keeps_store.of_open result
    obtain rfl := answers _ _ unanswered
    exact may

/-- **Where cluster storage is set up a store goes in one of the ways of `Course`.** -/
theorem course_storeIn (ready : Ready s home) :
    Course env b home data c (storeIn s env b data (.inKube c)).1
      (storeIn s env b data (.inKube c)).2 := by
  -- every answer to the question for the pod is the same, so the course is one for that pod
  have answered {home?} (mem : of .home home? ∈ (storeIn s env b data (.inKube c)).1) :
      home? = some home := by
    obtain ⟨before, answer⟩ := Activity.exists_answer_of_mem mem
    exact (Option.some.inj ((ready.home before).symm.trans answer)).symm
  have way : Outcome env b data (.inKube c) _ _ := outcome_storeIn ready.answers
  generalize storeIn s env b data (.inKube c) = run at way answered
  obtain ⟨past, outcome⟩ := run
  cases way with
  | notReady => cases answered List.mem_cons_self
  | ready mem course =>
    obtain rfl := Option.some.inj (answered mem)
    exact course

/-! ### The last calls of the stages -/

theorem Write.failure?_answered {w : Write} {r : Except StorageError Unit} :
    (w.answered r).failure? = errorOf? r := by
  cases w <;> rfl

theorem errorOf?_eq_none_iff {r : Except StorageError Unit} : errorOf? r = none ↔ r = .ok () := by
  cases r <;> simp [errorOf?]

/-- A stage succeeds exactly if its last call does. -/
theorem Stage.eq_ok_iff (h : Stage b w? onPod outcome) :
    outcome = some (.ok ()) ↔ ∀ x ∈ onPod.getLast?, x.failure? = none := by
  cases w? with
  | none => simp [h.1, h.2]
  | some w =>
    obtain ⟨answers, attempts, rfl⟩ := h
    rw [attempts.eq_ok_iff, List.getLast?_map]
    cases last : answers.getLast? with
    | none => exact absurd (List.getLast?_eq_none_iff.1 last) attempts.ne_nil
    | some r => simp [Write.failure?_answered, errorOf?_eq_none_iff]

theorem TargetStage.eq_ok_iff {w : Except StorageError (Option Write)}
    (h : TargetStage b w onTarget outcome) :
    outcome = some (.ok ()) ↔
      (∀ x ∈ onTarget.getLast?, x.failure? = none) ∧ ∃ w?, w = .ok w? := by
  cases w with
  | error e => simp [h.2]
  | ok w? => simpa using Stage.eq_ok_iff h

theorem exists_targetWrite?_iff :
    (∃ w?, targetWrite? data c object? = .ok w?) ↔
      (object?.isSome = true → c.policies ≠ [] → ∃ patch, c.targetPatch data = .ok patch) := by
  have way : ForTarget data c object? _ := forTarget
  generalize targetWrite? data c object? = w at way
  cases way <;> simp [*]

theorem Resolved.isSome_eq (h : Resolved env home c past fetched object?) :
    object?.isSome = c.target.isSome := by
  cases h with
  | untargeted untargeted => simp [untargeted]
  | targeted target => simp [target]

theorem Resolved.eq_or (h : Resolved env home c past fetched object?) :
    fetched = [] ∨ c.target.isSome = true ∧ ∃ pod, fetched = [of (.getPod home) (.ok pod)] := by
  cases h with
  | untargeted => exact .inl rfl
  | targeted target found resolves =>
    cases found with
    | kept => exact .inl rfl
    | fetched mem => exact .inr ⟨by simp [target], _, rfl⟩

theorem Stage.isSome (h : Stage b w? onPod outcome)
    (waits : (b.pause? (b.attempts - 1)).isSome = true) : outcome.isSome = true := by
  cases w? with
  | none => simp [h.2]
  | some w =>
    obtain ⟨answers, attempts, -⟩ := h
    exact attempts.isSome waits

theorem TargetStage.isSome {w : Except StorageError (Option Write)}
    (h : TargetStage b w onTarget outcome)
    (waits : (b.pause? (b.attempts - 1)).isSome = true) : outcome.isSome = true := by
  cases w with
  | error e => simp [h.2]
  | ok w? => exact Stage.isSome h waits

/-! ### The stages of a store -/

theorem Stages.of_unfetched {e : StorageError} (target : c.target.isSome = true)
    (asked : calls past = [of (.getPod home) (.error e)]) :
    Stages env b home data c past [of (.getPod home) (.error e)] [] [] (some (.error e)) where
  calls_eq := by simpa using asked
  fetched_once := .inr ⟨target, _, rfl⟩
  unfetched := by
    intro e' h
    cases h
    exact ⟨rfl, rfl, rfl⟩
  goes_on := fun h => absurd rfl (h e)
  succeeds_iff := by simp [StorageExchange.failure?, of, errorOf?]
  result := fun _ => rfl

theorem Resolved.failure?_eq_none (h : Resolved env home c past fetched object?) :
    ∀ x ∈ fetched.getLast?, x.failure? = none := by
  rcases h.eq_or with rfl | ⟨-, pod, rfl⟩
  · simp
  · simp [StorageExchange.failure?, of, errorOf?]

theorem Resolved.ne_failed (h : Resolved env home c past fetched object?) (e : StorageError) :
    fetched ≠ [of (.getPod home) (.error e)] := by
  rcases h.eq_or with rfl | ⟨-, pod, rfl⟩
  · simp
  · intro same
    cases same

theorem Stages.of_pod (resolved : Resolved env home c past fetched object?)
    (stage : Stage b (podWrite? home data c) onPod outcome) (last : outcome ≠ some (.ok ()))
    (asked : calls past = fetched ++ onPod) :
    Stages env b home data c past fetched onPod [] outcome where
  calls_eq := by simpa using asked
  fetched_once := resolved.eq_or.imp_right fun ⟨target, pod, heq⟩ => ⟨target, .ok pod, heq⟩
  unfetched := fun e h => absurd h (resolved.ne_failed e)
  goes_on := fun _ => ⟨outcome, stage, fun _ => ⟨rfl, rfl⟩, fun succeeds => absurd succeeds last⟩
  succeeds_iff := by
    have failed := mt stage.eq_ok_iff.2 last
    constructor
    · intro succeeds
      exact absurd succeeds last
    · rintro ⟨lasts, -⟩
      exact absurd (lasts onPod (by simp)) failed
  result := stage.isSome

theorem Stages.of_target (resolved : Resolved env home c past fetched object?)
    (stage : Stage b (podWrite? home data c) onPod (some (.ok ())))
    (last : TargetStage b (targetWrite? data c object?) onTarget outcome)
    (asked : calls past = fetched ++ onPod ++ onTarget) :
    Stages env b home data c past fetched onPod onTarget outcome where
  calls_eq := asked
  fetched_once := resolved.eq_or.imp_right fun ⟨target, pod, heq⟩ => ⟨target, .ok pod, heq⟩
  unfetched := fun e h => absurd h (resolved.ne_failed e)
  goes_on := fun _ =>
    ⟨_, stage, fun failed => absurd rfl failed, fun _ => ⟨object?, resolved, last⟩⟩
  succeeds_iff := by
    have podLast := stage.eq_ok_iff.1 rfl
    have fetchedLast := resolved.failure?_eq_none
    rw [last.eq_ok_iff, exists_targetWrite?_iff, resolved.isSome_eq]
    constructor
    · rintro ⟨targetLast, patch⟩
      refine ⟨?_, patch⟩
      intro stage mem
      simp only [List.mem_cons, List.not_mem_nil, or_false] at mem
      rcases mem with rfl | rfl | rfl
      · exact fetchedLast
      · exact podLast
      · exact targetLast
    · rintro ⟨lasts, patch⟩
      exact ⟨lasts onTarget (by simp), patch⟩
  result := last.isSome

/-- **The calls of a store, stage by stage.**  Of a configuration that can be used, and whose
templates stand for something in the pod that they are resolved with, a store makes these calls of
the cluster and comes to this result, whatever the answers are. -/
theorem calls_of_store (ready : Ready s home) (valid : c.validate = .ok ())
    (resolves : ∀ t, c.target = some t → ∀ fetched pod,
      Found home (storeIn s env b data (.inKube c)).1 fetched pod →
        ∃ object, targetObject env home pod t = .ok object) :
    ∃ fetched onPod onTarget,
      Stages env b home data c (storeIn s env b data (.inKube c)).1 fetched onPod onTarget
        (storeIn s env b data (.inKube c)).2 := by
  have course : Course env b home data c _ _ := course_storeIn ready
  generalize storeIn s env b data (.inKube c) = run at course resolves
  obtain ⟨past, result⟩ := run
  cases course with
  | invalid invalid =>
    rw [valid] at invalid
    cases invalid
  | unfetched _ target asked => exact ⟨_, _, _, .of_unfetched (by simp [target]) asked⟩
  | unresolved _ target found fails =>
    obtain ⟨object, resolved⟩ := resolves _ target _ _ found
    rw [fails] at resolved
    cases resolved
  | pod _ resolved stage last asked => exact ⟨_, _, _, .of_pod resolved stage last asked⟩
  | target _ resolved stage last asked => exact ⟨_, _, _, .of_target resolved stage last asked⟩

/-! ### A store that meets a conflict -/

/-- Surroundings in which cluster storage is set up for a pod that has to be looked at, and patches
are answered by what was asked before. -/
def settled (home : PodName) (pod : Pod)
    (patched : List StorageExchange → Except StorageError Unit) : Activity.Surroundings StorageI :=
  fun past q => match q with
    | .home => some (some home)
    | .keptPod => some none
    | .getPod _ => some (.ok pod)
    | .patchPod .. | .patchObject .. => some (patched past)
    | .storeGauge .. => some (.ok ())
    | .serveGauges _ | .gaugesOpen => some true
    | .wait _ | .settle .. | .keepPod _ | .openGauges | .acquire | .release => some ()
    | .breakOff => none

theorem ready_settled {pod : Pod} {patched : List StorageExchange → Except StorageError Unit} :
    Ready (settled home pod patched) home where
  home := fun _ => rfl
  answers := by
    intro past q unanswered
    cases q with
    | breakOff => rfl
    | _ => cases unanswered

theorem pod_eq_of_found {pod found : Pod}
    {patched : List StorageExchange → Except StorageError Unit}
    (h : Found home (storeIn (settled home pod patched) env b data config).1 fetched found) :
    found = pod := by
  cases h with
  | kept mem =>
    obtain ⟨before, answer⟩ := Activity.exists_answer_of_mem mem
    cases answer
  | fetched mem =>
    obtain ⟨before, answer⟩ := Activity.exists_answer_of_mem mem
    cases answer
    rfl

/-- A pod whose namespace is known to its first container. -/
def namespacedPod : Pod where
  ns := some "games"
  name := some "server-0"
  container := some { name := "main", env := some [{ name := "NS", value := some "prod" }] }

/-- A target in the namespace that the pod knows. -/
def widget : TargetConfig where
  group := ""
  version := "v1"
  resource := "widgets"
  ns := "${POD:NS}"
  name := "w1"
  isPodOwner := false

/-- An annotation, and a further one on failure, on the pod and on a target. -/
def widgetConfig : InKubeConfig where
  target := some widget
  jsonPath := none
  annotationKey := some "probe-result"
  labelKey := none
  policies := [{ state := "Failed", labels := [], annotations := [("tier", "degraded")] }]

theorem calls_of_store_conflict :
    let home : PodName := ⟨"games", "server-0"⟩
    let s := settled home namespacedPod fun past =>
      if (calls past).length = 1 then .error (.conflict "the object has been modified") else .ok ()
    Ready s home ∧ widgetConfig.validate = .ok () ∧
      (storeIn s .empty .default "Failed" (.inKube widgetConfig)).2.map Except.isOk = some true ∧
      ∃ fetched onPod onTarget,
        Stages .empty .default home "Failed" widgetConfig
          (storeIn s .empty .default "Failed" (.inKube widgetConfig)).1 fetched onPod onTarget
          (storeIn s .empty .default "Failed" (.inKube widgetConfig)).2 := by
  intro home s
  refine ⟨ready_settled, rfl, by decide +kernel, calls_of_store ready_settled rfl ?_⟩
  intro t target fetched pod found
  cases target
  rw [pod_eq_of_found found]
  exact ⟨_, rfl⟩

end InKube

end Sidecar
