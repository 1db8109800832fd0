import Sidecar.Proofs.Storage.Calls

/-!
# Configurations that write somewhere

A configuration that passes its checks need not write anything, whatever the data is: a path is
written on a further object only, which is looked at only if there are policies, and a policy may
set nothing.

* `InKubeConfig.CanWrite` : what a configuration has to say for some data to be written;
* `InKube.exists_write_iff` : **in a cluster that takes every patch, a configuration that passes its
  checks writes for some data exactly if it says so**.

`InKube.not_only_writable` shows a configuration that passes its checks and never writes.
-/

namespace Sidecar

namespace Value

variable {α : Type} {pairs : List (String × α)}

theorem insertMember_ne_nil {key : String} {v : α} {ms : List (String × α)} :
    insertMember key v ms ≠ [] := by
  cases ms with
  | nil => simp [insertMember]
  | cons p ms =>
    unfold insertMember
    split
    · simp
    · split <;> simp

theorem members_eq_nil_iff : members pairs = [] ↔ pairs = [] := by
  suffices ∀ out : List (String × α),
      pairs.foldl (fun out p => insertMember p.1 p.2 out) out = [] ↔ pairs = [] ∧ out = [] by
    simpa [members] using this []
  induction pairs with
  | nil => simp
  | cons p pairs ih =>
    intro out
    simp [ih, insertMember_ne_nil]

end Value

namespace InKubeConfig

variable {c : InKubeConfig} {data : String}

/-- Whether there is anything to write for a piece of data: onto the pod, or onto the further
object. -/
def WritesFor (c : InKubeConfig) (data : String) : Prop :=
  (c.podPatch? data).isSome = true ∨
    (c.target.isSome = true ∧ c.policies ≠ [] ∧ ∃ op ops, c.targetPatch data = .ok (op :: ops))

/-- What a configuration has to say for anything to be written: an annotation or a label that
receives the data, a policy that sets something and is the first of its state, or a path on a
further object that is looked at. -/
def CanWrite (c : InKubeConfig) : Prop :=
  c.annotation?.isSome = true ∨ c.label?.isSome = true ∨
    (∃ p ∈ c.policies, c.policy? p.state = some p ∧ (p.annotations ≠ [] ∨ p.labels ≠ [])) ∨
    (c.target.isSome = true ∧ c.policies ≠ [] ∧
      ∃ path ∈ c.path?, Pointer.isPointer (Pointer.ofPath path) = true)

instance : Decidable c.CanWrite := by
  unfold CanWrite
  infer_instance

theorem overlay_ne_nil_iff {part : MarkerPolicy → List (String × String)} :
    c.overlay data part ≠ [] ↔ ∃ p, c.policy? data = some p ∧ part p ≠ [] := by
  unfold overlay
  cases c.policy? data <;> simp

/-- There is anything to write onto the pod exactly if there is a key that receives the data or the
active policy sets something. -/
theorem isSome_podPatch?_iff :
    (c.podPatch? data).isSome = true ↔
      c.annotation?.isSome = true ∨ c.label?.isSome = true ∨
        ∃ p, c.policy? data = some p ∧ (p.annotations ≠ [] ∨ p.labels ≠ []) := by
  have annotations : c.annotationsFor data ≠ [] ↔
      c.annotation?.isSome = true ∨ c.overlay data MarkerPolicy.annotations ≠ [] := by
    unfold annotationsFor
    rw [ne_eq, Value.members_eq_nil_iff]
    cases c.annotation? <;> simp
  have labels : c.labelsFor data ≠ [] ↔
      c.label?.isSome = true ∨ c.overlay data MarkerPolicy.labels ≠ [] := by
    unfold labelsFor
    rw [ne_eq, Value.members_eq_nil_iff]
    cases c.label? <;> simp
  have parts : (c.podPatch? data).isSome = true ↔
      c.annotationsFor data ≠ [] ∨ c.labelsFor data ≠ [] := by
    unfold podPatch? metadataPart
    cases c.annotationsFor data <;> cases c.labelsFor data <;> simp
  rw [parts, annotations, labels, overlay_ne_nil_iff, overlay_ne_nil_iff]
  constructor
  · rintro ((noted | ⟨p, active, sets⟩) | (label | ⟨p, active, sets⟩))
    · exact .inl noted
    · exact .inr (.inr ⟨p, active, .inl sets⟩)
    · exact .inr (.inl label)
    · exact .inr (.inr ⟨p, active, .inr sets⟩)
  · rintro (noted | label | ⟨p, active, sets | sets⟩)
    · exact .inl (.inl noted)
    · exact .inr (.inl label)
    · exact .inl (.inr ⟨p, active, sets⟩)
    · exact .inr (.inr ⟨p, active, sets⟩)

theorem targetOperations_of_podPatch?_eq_none (h : c.podPatch? data = none) :
    c.targetOperations data =
      c.path?.toList.map fun p => .replaceText (Pointer.ofPath p) data := by
  have unset : ¬ (c.podPatch? data).isSome = true := by simp [h]
  simp only [isSome_podPatch?_iff, not_or, Bool.not_eq_true, Option.isSome_eq_false_iff,
    Option.isNone_iff_eq_none, not_exists, not_and, Classical.not_not] at unset
  obtain ⟨noted, label, policy⟩ := unset
  have overlay (part : MarkerPolicy → List (String × String))
      (unset : ∀ p, c.policy? data = some p → part p = []) : c.overlay data part = [] := by
    unfold InKubeConfig.overlay
    cases active : c.policy? data with
    | none => rfl
    | some p => exact unset p active
  have annotations := overlay MarkerPolicy.annotations fun p active => (policy p active).1
  have labels := overlay MarkerPolicy.labels fun p active => (policy p active).2
  simp [targetOperations, noted, label, annotations, labels]

theorem exists_targetPatch_iff (h : c.podPatch? data = none) :
    (∃ op ops, c.targetPatch data = .ok (op :: ops)) ↔
      ∃ path ∈ c.path?, Pointer.isPointer (Pointer.ofPath path) = true := by
  simp only [targetPatch, targetOperations_of_podPatch?_eq_none h]
  cases c.path? with
  | none => simp
  | some path =>
    cases pointer : Pointer.isPointer (Pointer.ofPath path) <;>
      simp [PatchOperation.replaceText, PatchOperation.path, pointer]

/-- **There is data that a configuration writes exactly if the configuration says what to write.**
-/
theorem exists_writesFor_iff : (∃ data, c.WritesFor data) ↔ c.CanWrite := by
  constructor
  · rintro ⟨data, writes⟩
    cases patch : c.podPatch? data with
    | some p =>
      have written : (c.podPatch? data).isSome = true := by rw [patch]; rfl
      rcases isSome_podPatch?_iff.1 written with noted | label | ⟨p, active, sets⟩
      · exact .inl noted
      · exact .inr (.inl label)
      · have state : p.state = data := by simpa using List.find?_some active
        exact .inr (.inr (.inl ⟨p, List.mem_of_find?_eq_some active, state ▸ active, sets⟩))
    | none =>
      rcases writes with written | ⟨target, policies, operations⟩
      · rw [patch] at written
        cases written
      · exact .inr (.inr (.inr ⟨target, policies, (exists_targetPatch_iff patch).1 operations⟩))
  · rintro (noted | label | ⟨p, -, active, sets⟩ | ⟨target, policies, path⟩)
    · exact ⟨"", .inl (isSome_podPatch?_iff.2 (.inl noted))⟩
    · exact ⟨"", .inl (isSome_podPatch?_iff.2 (.inr (.inl label)))⟩
    · exact ⟨p.state, .inl (isSome_podPatch?_iff.2 (.inr (.inr ⟨p, active, sets⟩)))⟩
    · refine ⟨"", ?_⟩
      cases patch : c.podPatch? "" with
      | some p => exact .inl (by rw [patch]; rfl)
      | none => exact .inr ⟨target, policies, (exists_targetPatch_iff patch).2 path⟩

end InKubeConfig

namespace InKube

open StorageExchange (of)

variable {s : Activity.Surroundings StorageI} {env : Environment} {b : Backoff} {home : PodName}
  {data : String} {c : InKubeConfig} {past fetched onStage : List StorageExchange}
  {w? : Option Write} {object? : Option ObjectRef} {outcome : Option (Except StorageError Unit)}

/-- Surroundings in which every patch is taken. -/
structure Accepts (s : Activity.Surroundings StorageI) : Prop where
  pod : ∀ past name patch, s past (.patchPod name patch) = some (.ok ())
  object : ∀ past object patch, s past (.patchObject object patch) = some (.ok ())

/-- Surroundings in which the templates of a target, if there is one, can be resolved: the pod is
found, and they stand for something in it. -/
structure Resolves (s : Activity.Surroundings StorageI) (env : Environment) (home : PodName)
    (c : InKubeConfig) : Prop where
  found : c.target.isSome = true → ∀ past e, s past (.getPod home) ≠ some (.error e)
  object : ∀ t, c.target = some t → ∀ past pod,
    s past .keptPod = some (some pod) ∨ s past (.getPod home) = some (.ok pod) →
      ∃ object, targetObject env home pod t = .ok object

/-- That a store calls the cluster to write. -/
def DoesWrite (past : List StorageExchange) : Prop :=
  ∃ x ∈ calls past, x.question.isWrite = true

/-! ### What the stages write -/

theorem Stage.isWrite (h : Stage b w? onStage outcome) :
    ∀ x ∈ onStage, x.question.isWrite = true := by
  cases w? with
  | none => simp [h.1]
  | some w =>
    obtain ⟨answers, -, rfl⟩ := h
    intro x mem
    obtain ⟨r, -, rfl⟩ := List.mem_map.1 mem
    cases w <;> rfl

theorem Stage.writes_iff (h : Stage b w? onStage outcome) :
    (∃ x ∈ onStage, x.question.isWrite = true) ↔ w?.isSome = true := by
  have all := h.isWrite
  cases w? with
  | none => simp [h.1]
  | some w =>
    obtain ⟨answers, attempts, rfl⟩ := h
    obtain ⟨r, mem⟩ := List.exists_mem_of_ne_nil _ attempts.ne_nil
    have written := List.mem_map_of_mem (f := w.answered) mem
    exact ⟨fun _ => rfl, fun _ => ⟨_, written, all _ written⟩⟩

theorem TargetStage.writes_iff {w : Except StorageError (Option Write)}
    (h : TargetStage b w onStage outcome) :
    (∃ x ∈ onStage, x.question.isWrite = true) ↔ ∃ write, w = .ok (some write) := by
  cases w with
  | error e => simp [h.1]
  | ok w? => simpa [Option.isSome_iff_exists] using Stage.writes_iff h

theorem exists_targetWrite?_some_iff :
    (∃ write, targetWrite? data c object? = .ok (some write)) ↔
      object?.isSome = true ∧ c.policies ≠ [] ∧ ∃ op ops, c.targetPatch data = .ok (op :: ops) := by
  have way : ForTarget data c object? _ := forTarget
  generalize targetWrite? data c object? = w at way
  cases way <;> simp [*]

theorem Resolved.isWrite (h : Resolved env home c past fetched object?) :
    ∀ x ∈ fetched, x.question.isWrite = false := by
  rcases h.eq_or with rfl | ⟨-, pod, rfl⟩
  · simp
  · simp [of, StorageAsk.isWrite]

/-! ### What a store writes -/

theorem failure?_of_isWrite (accepts : Accepts s) {x : StorageExchange}
    (mem : x ∈ calls (storeIn s env b data (.inKube c)).1) (write : x.question.isWrite = true) :
    x.failure? = none := by
  obtain ⟨before, answer⟩ := Activity.exists_answer_of_mem (mem_calls.1 mem).1
  obtain ⟨q, r⟩ := x
  cases q with
  | patchPod name patch =>
    rw [accepts.pod] at answer
    cases answer
    rfl
  | patchObject object patch =>
    rw [accepts.object] at answer
    cases answer
    rfl
  | _ => cases write

theorem Resolves.not_failed {e : StorageError} (resolves : Resolves s env home c)
    (target : c.target.isSome = true) :
    of (.getPod home) (.error e) ∉ calls (storeIn s env b data (.inKube c)).1 := by
  intro mem
  obtain ⟨before, answer⟩ := Activity.exists_answer_of_mem (mem_calls.1 mem).1
  exact resolves.found target before e answer

/-- Where templates can be resolved, they stand for something in the pod that was found. -/
theorem Resolves.resolved {t : TargetConfig} {pod : Pod} (resolves : Resolves s env home c)
    (target : c.target = some t)
    (found : Found home (storeIn s env b data (.inKube c)).1 fetched pod) :
    ∃ object, targetObject env home pod t = .ok object := by
  cases found with
  | kept mem =>
    obtain ⟨before, answer⟩ := Activity.exists_answer_of_mem mem
    exact resolves.object t target before pod (.inl answer)
  | fetched mem =>
    obtain ⟨before, answer⟩ := Activity.exists_answer_of_mem mem
    exact resolves.object t target before pod (.inr answer)

theorem doesWrite_of_stages {onPod onTarget : List StorageExchange}
    (resolved : Resolved env home c past fetched object?)
    (stage : Stage b (podWrite? home data c) onPod (some (.ok ())))
    (last : TargetStage b (targetWrite? data c object?) onTarget outcome)
    (asked : calls past = fetched ++ onPod ++ onTarget) :
    DoesWrite past ↔ c.WritesFor data := by
  have looks : ¬ ∃ x ∈ fetched, x.question.isWrite = true := by
    rintro ⟨x, mem, write⟩
    simp [resolved.isWrite x mem] at write
  unfold DoesWrite
  calc (∃ x ∈ calls past, x.question.isWrite = true)
    _ ↔ (∃ x ∈ onPod, x.question.isWrite = true) ∨ ∃ x ∈ onTarget, x.question.isWrite = true := by
      simp only [asked, List.mem_append, or_and_right, exists_or, looks, false_or]
    _ ↔ (podWrite? home data c).isSome = true ∨
        ∃ write, targetWrite? data c object? = .ok (some write) := by
      rw [stage.writes_iff, last.writes_iff]
    _ ↔ c.WritesFor data := by
      rw [exists_targetWrite?_some_iff, resolved.isSome_eq]
      simp [podWrite?, InKubeConfig.WritesFor]

/-- **What a store writes**: a configuration that passes its checks is written for a piece of data
exactly if there is anything to write for it. -/
theorem doesWrite_iff (ready : Ready s home) (accepts : Accepts s) (valid : c.validate = .ok ())
    (resolves : Resolves s env home c) :
    DoesWrite (storeIn s env b data (.inKube c)).1 ↔ c.WritesFor data := by
  have course : Course env b home data c _ _ := course_storeIn ready
  generalize (storeIn s env b data (.inKube c)).2 = outcome at course
  -- the last case is the only one that can be
  cases course with
  | invalid invalid =>
    rw [valid] at invalid
    cases invalid
  | @unfetched _ e _ target asked =>
    have failed : of (.getPod home) (.error e) ∈ calls (storeIn s env b data (.inKube c)).1 := by
      simp [asked]
    exact absurd failed (resolves.not_failed (by simp [target]))
  | unresolved _ target found fails =>
    obtain ⟨object, resolved⟩ := resolves.resolved target found
    rw [fails] at resolved
    cases resolved
  | pod _ _ stage last asked =>
    refine absurd (stage.eq_ok_iff.2 fun x newest => ?_) last
    have onPod := List.mem_of_getLast? newest
    have mem : x ∈ calls (storeIn s env b data (.inKube c)).1 := by simp [asked, onPod]
    exact failure?_of_isWrite accepts mem (stage.isWrite x onPod)
  | target _ resolved stage last asked => exact doesWrite_of_stages resolved stage last asked

/-- **In a cluster that takes every patch, a configuration that passes its checks, and whose
templates can be resolved, is written for some data exactly if it says what to write.** -/
theorem exists_write_iff (ready : Ready s home) (accepts : Accepts s)
    (valid : c.validate = .ok ()) (resolves : Resolves s env home c) :
    (∃ data, DoesWrite (storeIn s env b data (.inKube c)).1) ↔ c.CanWrite := by
  simp only [doesWrite_iff ready accepts valid resolves]
  exact InKubeConfig.exists_writesFor_iff

/-! ### A configuration that never writes -/

theorem accepts_settled {pod : Pod} : Accepts (settled home pod fun _ => .ok ()) where
  pod := fun _ _ _ => rfl
  object := fun _ _ _ => rfl

theorem resolves_settled {pod : Pod} {patched : List StorageExchange → Except StorageError Unit}
    (resolves : ∀ t, c.target = some t → ∃ object, targetObject env home pod t = .ok object) :
    Resolves (settled home pod patched) env home c where
  found := fun _ _ _ answer => by cases answer
  object := by
    rintro t target past found (kept | fetched)
    · cases kept
    · cases fetched
      exact resolves t target

/-- A path on a target, whose policy sets nothing. -/
def resultConfig : InKubeConfig where
  target := some widget
  jsonPath := some "status.result"
  annotationKey := none
  labelKey := none
  policies := [{ state := "Failed", labels := [], annotations := [] }]

theorem exists_write_result :
    let home : PodName := ⟨"games", "server-0"⟩
    let s := settled home namespacedPod fun _ => .ok ()
    Ready s home ∧ Accepts s ∧ resultConfig.validate = .ok () ∧
      Resolves s .empty home resultConfig ∧ resultConfig.CanWrite ∧
      ∃ data, DoesWrite (storeIn s .empty .default data (.inKube resultConfig)).1 := by
  intro home s
  have resolves : Resolves s .empty home resultConfig := resolves_settled fun t target => by
    cases target
    exact ⟨_, rfl⟩
  have can : resultConfig.CanWrite := by decide +kernel
  exact ⟨ready_settled, accepts_settled, rfl, resolves, can,
    (exists_write_iff ready_settled accepts_settled rfl resolves).2 can⟩

/-- A path, but no target. -/
def pathConfig : InKubeConfig where
  target := none
  jsonPath := some "status.result"
  annotationKey := none
  labelKey := none
  policies := []

/-- **A configuration that passes its checks may never write**: a path is written on a target only.
-/
theorem not_only_writable :
    ¬ ∀ (s : Activity.Surroundings StorageI) (env : Environment) (b : Backoff) (home : PodName)
      (c : InKubeConfig), Ready s home → Accepts s → c.validate = .ok () → Resolves s env home c →
      ∃ data, DoesWrite (storeIn s env b data (.inKube c)).1 := by
  intro writable
  have resolves : Resolves (settled ⟨"games", "server-0"⟩ namespacedPod fun _ => .ok ()) .empty
      ⟨"games", "server-0"⟩ pathConfig := resolves_settled nofun
  obtain ⟨data, writes⟩ :=
    writable _ _ .default _ pathConfig ready_settled accepts_settled rfl resolves
  have writes := (doesWrite_iff ready_settled accepts_settled rfl resolves).1 writes
  rcases writes with patch | ⟨target, -⟩
  · cases patch
  · cases target

end InKube

end Sidecar
