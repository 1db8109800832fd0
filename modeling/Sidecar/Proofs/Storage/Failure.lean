import Sidecar.Proofs.Storage.Calls

/-!
# Failures that are not the cluster's

A store can fail for what its configuration, its data and the environment of the pod say, without
any call of the cluster having failed.

* `InKube.own_failure` : **what such a failure has written**: nothing if the configuration cannot be
  used or a template cannot be resolved; if the patch of the further object cannot be made that
  object is not written, but the pod has been.

`InKube.not_only_before_writing` shows that the latter happens.
-/

namespace Sidecar.InKube

open StorageExchange (of)

variable {s : Activity.Surroundings StorageI} {env : Environment} {b : Backoff} {home : PodName}
  {data : String} {config : StorageConfig} {c : InKubeConfig}
  {past fetched onStage : List StorageExchange} {w? : Option Write} {e : StorageError}
  {object? : Option ObjectRef}

/-- That a call only looks at a pod, and finds it. -/
def IsLook (home : PodName) (x : StorageExchange) : Prop := ∃ pod, x = of (.getPod home) (.ok pod)

/-- That a store fails with an error that no call of the cluster was answered with. -/
structure FailsByItself (past : List StorageExchange) (result : Option (Except StorageError Unit))
    (e : StorageError) : Prop where
  fails : result = some (.error e)
  own : ∀ x ∈ calls past, x.failure? ≠ some e

/-- What a store that fails by itself has called by then. -/
structure OwnFailure (b : Backoff) (home : PodName) (data : String) (config : StorageConfig)
    (past : List StorageExchange) (e : StorageError) : Prop where
  /-- Nothing if the configuration cannot be used. -/
  invalidConfig : ∀ why, e = .invalidConfig why → calls past = []
  /-- Nothing but a look at the pod if a template cannot be resolved. -/
  template : ∀ why, e = .template why → ∀ x ∈ calls past, IsLook home x
  /-- Nothing but a look at the pod and the stage on the pod, which succeeded, if the patch of the
  further object cannot be made. -/
  malformedPatch : ∀ path, e = .malformedPatch path → ∃ c fetched onPod, config = .inKube c ∧
    calls past = fetched ++ onPod ∧ (∀ x ∈ fetched, IsLook home x) ∧
    Stage b (podWrite? home data c) onPod (some (.ok ()))

/-! ### Where an error comes from -/

theorem exists_of_validate (h : c.validate = .error e) : ∃ why, e = .invalidConfig why := by
  unfold InKubeConfig.validate at h
  split at h
  · rename_i why _
    cases h
    exact ⟨why, rfl⟩
  · cases h

theorem exists_of_resolve {container : Option Container} {template : String}
    (h : resolve env container template = .error e) : ∃ why, e = .template why := by
  unfold resolve at h
  cases result : Template.resolve env container template with
  | error why =>
    rw [result] at h
    cases h
    exact ⟨why, rfl⟩
  | ok value =>
    rw [result] at h
    cases h

theorem exists_of_targetObject {pod : Pod} {t : TargetConfig}
    (h : targetObject env home pod t = .error e) : ∃ why, e = .template why := by
  rcases @targetObject_cases env home pod t with ⟨e', fails, ns | name⟩ | ⟨ns, name, -, -, resolves⟩
  · rw [h] at fails
    cases fails
    exact exists_of_resolve ns
  · rw [h] at fails
    cases fails
    exact exists_of_resolve name
  · rw [h] at resolves
    cases resolves

theorem targetPatch_of_targetWrite? (h : targetWrite? data c object? = .error e) :
    c.targetPatch data = .error e := by
  have way : ForTarget data c object? _ := forTarget
  rw [h] at way
  cases way with
  | malformed _ patch => exact patch

theorem exists_of_targetPatch (h : c.targetPatch data = .error e) :
    ∃ path, e = .malformedPatch path := by
  simp only [InKubeConfig.targetPatch] at h
  split at h
  · cases h
    exact ⟨_, rfl⟩
  · cases h

theorem Stage.failure_of_error (h : Stage b w? onStage (some (.error e))) :
    (∃ x ∈ onStage, x.failure? = some e) ∨ ∃ n last, e = .retriesExhausted n last := by
  cases w? with
  | none => cases h.2
  | some w =>
    obtain ⟨answers, attempts, rfl⟩ := h
    cases attempts with
    | fails =>
      refine .inl ⟨w.answered (.error e), ?_, Write.failure?_answered⟩
      simp
    | givesUp => exact .inr ⟨_, _, rfl⟩

theorem Found.looks {pod : Pod} (h : Found home past fetched pod) :
    ∀ x ∈ fetched, IsLook home x := by
  cases h with
  | kept => exact List.forall_mem_nil _
  | @fetched pod => exact List.forall_mem_singleton.2 ⟨_, rfl⟩

theorem Resolved.looks (h : Resolved env home c past fetched object?) :
    ∀ x ∈ fetched, IsLook home x := by
  cases h with
  | untargeted => exact List.forall_mem_nil _
  | targeted _ found => exact found.looks

/-! ### What was written by then -/

theorem OwnFailure.of_retriesExhausted {n : Nat} {last : StorageError} :
    OwnFailure b home data config past (.retriesExhausted n last) :=
  ⟨nofun, nofun, nofun⟩

theorem OwnFailure.of_stage (stage : Stage b w? onStage (some (.error e)))
    (asked : ∀ x ∈ onStage, x ∈ calls past) (own : ∀ x ∈ calls past, x.failure? ≠ some e) :
    OwnFailure b home data config past e := by
  rcases stage.failure_of_error with ⟨x, mem, failed⟩ | ⟨n, last, rfl⟩
  · exact absurd failed (own x (asked x mem))
  · exact .of_retriesExhausted

theorem ownFailure_of_course (course : Course env b home data c past (some (.error e)))
    (own : ∀ x ∈ calls past, x.failure? ≠ some e) :
    OwnFailure b home data (.inKube c) past e := by
  cases course with
  | invalid invalid asked =>
    obtain ⟨why, rfl⟩ := exists_of_validate invalid
    exact ⟨fun _ _ => asked, nofun, nofun⟩
  | unfetched _ _ asked =>
    have mem : of (.getPod home) (.error e) ∈ calls past := by simp [asked]
    exact absurd rfl (own _ mem)
  | unresolved _ _ found fails asked =>
    obtain ⟨why, rfl⟩ := exists_of_targetObject fails
    exact ⟨nofun, fun _ _ => asked ▸ found.looks, nofun⟩
  | pod _ _ stage _ asked => exact .of_stage stage (by simp +contextual [asked]) own
  | @target fetched onPod onTarget object? _ _ resolved stage last asked =>
    cases write : targetWrite? data c object? with
    | ok w? =>
      rw [write] at last
      exact .of_stage last (by simp +contextual [asked]) own
    | error e' =>
      -- that there is no patch turns out after the stage on the pod
      rw [write] at last
      obtain ⟨rfl, same⟩ := last
      cases same
      obtain ⟨path, rfl⟩ := exists_of_targetPatch (targetPatch_of_targetWrite? write)
      refine ⟨nofun, nofun, fun _ _ => ⟨c, fetched, onPod, rfl, ?_, resolved.looks, stage⟩⟩
      simpa using asked

/-- **What a store that fails by itself has written.**  A store that fails because its configuration
cannot be used or a template cannot be resolved has written nothing.  One that fails because the
patch of the further object cannot be made has not written that object, but the pod: it has gone
through the stage on the pod, with success. -/
theorem own_failure (ready : Ready s home)
    (failed : FailsByItself (storeIn s env b data config).1 (storeIn s env b data config).2 e) :
    OwnFailure b home data config (storeIn s env b data config).1 e := by
  cases config with
  | gauge g =>
    have wrong : e = .invalidConfig (.wrongKind .inKube .gauge) := by
      have := failed.fails
      cases this
      rfl
    subst wrong
    exact ⟨fun _ _ => rfl, nofun, nofun⟩
  | inKube c =>
    have course : Course env b home data c _ _ := course_storeIn ready
    rw [failed.fails] at course
    exact ownFailure_of_course course failed.own

/-! ### The pod is written before a patch turns out to be malformed -/

theorem eq_error_of_bind {result : Option (Except StorageError Unit)}
    (h : result.bind errorOf? = some e) : result = some (.error e) := by
  obtain ⟨r, rfl, heq⟩ := Option.bind_eq_some_iff.1 h
  cases r with
  | ok => cases heq
  | error e' =>
    cases heq
    rfl

/-- A path of the further object that is no pointer. -/
def malformedConfig : InKubeConfig where
  target := some widget
  jsonPath := some "/a~b"
  annotationKey := some "probe-result"
  labelKey := none
  policies := [{ state := "Failed", labels := [], annotations := [] }]

/-- A store with such a path, in a cluster that takes every patch. -/
def malformedRun : List StorageExchange × Option (Except StorageError Unit) :=
  storeIn (settled ⟨"games", "server-0"⟩ namespacedPod fun _ => .ok ()) .empty .default "Healthy"
    (.inKube malformedConfig)

theorem malformedRun_fails :
    FailsByItself malformedRun.1 malformedRun.2 (.malformedPatch "/a~b") where
  fails := eq_error_of_bind (by decide +kernel)
  own := by decide +kernel

theorem own_failure_malformed :
    FailsByItself malformedRun.1 malformedRun.2 (.malformedPatch "/a~b") ∧
      OwnFailure .default ⟨"games", "server-0"⟩ "Healthy" (.inKube malformedConfig) malformedRun.1
        (.malformedPatch "/a~b") :=
  ⟨malformedRun_fails, own_failure ready_settled malformedRun_fails⟩

/-- **A store that fails by itself may have written already**: if the patch of the further object
cannot be made this turns out when the pod has been patched. -/
theorem not_only_before_writing :
    ¬ ∀ (s : Activity.Surroundings StorageI) (env : Environment) (b : Backoff) (home : PodName)
      (data : String) (config : StorageConfig) (e : StorageError), Ready s home →
      FailsByItself (storeIn s env b data config).1 (storeIn s env b data config).2 e →
      ((∃ why, e = .invalidConfig why) ∨ (∃ why, e = .template why) ∨
        ∃ path, e = .malformedPatch path) →
      ∀ x ∈ calls (storeIn s env b data config).1, x.question.isWrite = false := by
  intro before
  have written : ∃ x ∈ calls malformedRun.1, x.question.isWrite = true := by decide +kernel
  obtain ⟨x, mem, write⟩ := written
  have unwritten :=
    before _ _ _ _ _ _ _ ready_settled malformedRun_fails (.inr (.inr ⟨_, rfl⟩)) x mem
  rw [write] at unwritten
  cases unwritten

end Sidecar.InKube
