import Sidecar.Proofs.Activity
import Sidecar.Proofs.Storage.Attempts
import Sidecar.Storage.InKube

/-!
# What a store asks of the cluster

`InKube.calls` are the calls of the cluster among what was asked.  A store goes through stages, each
with its own calls: the pod is looked up if there is a target (`InKube.Resolved`), the pod is
patched, and then the further object (`InKube.Stage`, `InKube.TargetStage`).

* `InKube.Course` lists the ways in which a store of a configuration for cluster storage goes, and
  `InKube.Outcome` those of any store;
* `InKube.keeps_store` : **a store goes in one of these ways whatever the answers are**, and it
  patches no object but the one that its target stands for.
-/

namespace Sidecar

/-- A question of the storages with its answer. -/
abbrev StorageExchange := Exchange StorageI

/-- That a question of the storages was answered in a way. -/
def StorageExchange.of (q : StorageAsk) (r : q.Reply) : StorageExchange := ⟨q, r⟩

/-- Whether a question is a call of the cluster. -/
def StorageAsk.isCall : StorageAsk → Bool
  | .getPod _ | .patchPod .. | .patchObject .. => true
  | .wait _ | .breakOff | .serveGauges _ | .home | .settle .. | .keptPod | .keepPod _ | .gaugesOpen
  | .openGauges | .storeGauge .. | .acquire | .release => false

/-- Whether a question is a call that changes the cluster. -/
def StorageAsk.isWrite : StorageAsk → Bool
  | .patchPod .. | .patchObject .. => true
  | .getPod _ | .wait _ | .breakOff | .serveGauges _ | .home | .settle .. | .keptPod | .keepPod _
  | .gaugesOpen | .openGauges | .storeGauge .. | .acquire | .release => false

namespace InKube

open StorageExchange (of)

/-- The calls of the cluster with their answers, the oldest first. -/
def calls (past : List StorageExchange) : List StorageExchange :=
  (past.filter fun x => x.question.isCall).reverse

/-- Something to write into the cluster. -/
inductive Write where
  /-- A patch of a pod. -/
  | pod (name : PodName) (patch : Value)
  /-- A patch of another object. -/
  | target (object : ObjectRef) (patch : List PatchOperation)

namespace Write

/-- The call that writes. -/
def call : Write → Activity StorageI (Except StorageError Unit)
  | .pod name patch => Activity.query (I := StorageI) (.patchPod name patch)
  | .target object patch => Activity.query (I := StorageI) (.patchObject object patch)

/-- The call with its answer. -/
def answered : Write → Except StorageError Unit → StorageExchange
  | .pod name patch, r => of (.patchPod name patch) r
  | .target object patch, r => of (.patchObject object patch) r

end Write

/-- The calls of a stage, and what it comes to: it writes until it meets no conflict, within the
limits of a backoff.  A stage with nothing to write succeeds without a call. -/
def Stage (b : Backoff) : Option Write → List StorageExchange → Option (Except StorageError Unit) →
    Prop
  | none, calls, outcome => calls = [] ∧ outcome = some (.ok ())
  | some w, calls, outcome => ∃ answers,
    b.Attempts StorageError.isConflict StorageError.retriesExhausted answers outcome ∧
      calls = answers.map w.answered

/-- What there is to write onto the pod. -/
def podWrite? (home : PodName) (data : String) (c : InKubeConfig) : Option Write :=
  (c.podPatch? data).map (.pod home)

/-- What there is to write onto the further object, if the configuration names one. -/
def targetWrite? (data : String) (c : InKubeConfig) :
    Option ObjectRef → Except StorageError (Option Write)
  | none => .ok none
  | some object =>
    if c.policies.isEmpty then .ok none
    else (c.targetPatch data).map fun patch =>
      if patch.isEmpty then none else some (.target object patch)

/-- The cases in which something is written onto the further object or not. -/
inductive ForTarget (data : String) (c : InKubeConfig) :
    Option ObjectRef → Except StorageError (Option Write) → Prop
  /-- There is no such object. -/
  | untargeted : ForTarget data c none (.ok none)
  /-- It is written only for the sake of policies. -/
  | unmarked {object : ObjectRef} (unmarked : c.policies = []) :
      ForTarget data c (some object) (.ok none)
  /-- Its patch cannot be made. -/
  | malformed {object : ObjectRef} {e : StorageError} (marked : c.policies ≠ [])
      (patch : c.targetPatch data = .error e) : ForTarget data c (some object) (.error e)
  /-- Its patch is empty. -/
  | empty {object : ObjectRef} (marked : c.policies ≠ []) (patch : c.targetPatch data = .ok []) :
      ForTarget data c (some object) (.ok none)
  /-- It is patched. -/
  | patched {object : ObjectRef} {op : PatchOperation} {ops : List PatchOperation}
      (marked : c.policies ≠ []) (patch : c.targetPatch data = .ok (op :: ops)) :
      ForTarget data c (some object) (.ok (some (.target object (op :: ops))))

/-- The stage that writes onto the further object: without a call if there is no patch to make. -/
def TargetStage (b : Backoff) : Except StorageError (Option Write) → List StorageExchange →
    Option (Except StorageError Unit) → Prop
  | .error e, calls, outcome => calls = [] ∧ outcome = some (.error e)
  | .ok w?, calls, outcome => Stage b w? calls outcome

/-- The pod that templates are resolved with, and the calls that it took to find it. -/
inductive Found (home : PodName) (past : List StorageExchange) : List StorageExchange → Pod → Prop
  | kept {pod : Pod} (mem : of .keptPod (some pod) ∈ past) : Found home past [] pod
  | fetched {pod : Pod} (mem : of (.getPod home) (.ok pod) ∈ past) :
      Found home past [of (.getPod home) (.ok pod)] pod

/-- The further object that a configuration stands for, and the calls that it took to find out. -/
inductive Resolved (env : Environment) (home : PodName) (c : InKubeConfig)
    (past : List StorageExchange) : List StorageExchange → Option ObjectRef → Prop
  | untargeted (untargeted : c.target = none) : Resolved env home c past [] none
  | targeted {t : TargetConfig} {fetched : List StorageExchange} {pod : Pod} {object : ObjectRef}
      (target : c.target = some t) (found : Found home past fetched pod)
      (resolves : targetObject env home pod t = .ok object) :
      Resolved env home c past fetched (some object)

/-- The ways in which a store goes for the pod `home`, by what was asked and what it comes to:
nothing if it breaks off. -/
inductive Course (env : Environment) (b : Backoff) (home : PodName) (data : String)
    (c : InKubeConfig) (past : List StorageExchange) : Option (Except StorageError Unit) → Prop
  /-- The configuration cannot be used. -/
  | invalid {e : StorageError} (invalid : c.validate = .error e) (asked : calls past = []) :
      Course env b home data c past (some (.error e))
  /-- The pod cannot be fetched. -/
  | unfetched {t : TargetConfig} {e : StorageError} (valid : c.validate = .ok ())
      (target : c.target = some t) (asked : calls past = [of (.getPod home) (.error e)]) :
      Course env b home data c past (some (.error e))
  /-- A template cannot be resolved. -/
  | unresolved {t : TargetConfig} {fetched : List StorageExchange} {pod : Pod} {e : StorageError}
      (valid : c.validate = .ok ()) (target : c.target = some t)
      (found : Found home past fetched pod) (fails : targetObject env home pod t = .error e)
      (asked : calls past = fetched) : Course env b home data c past (some (.error e))
  /-- The stage that writes onto the pod is the last one. -/
  | pod {fetched onPod : List StorageExchange} {object? : Option ObjectRef}
      {outcome : Option (Except StorageError Unit)} (valid : c.validate = .ok ())
      (resolved : Resolved env home c past fetched object?)
      (stage : Stage b (podWrite? home data c) onPod outcome) (last : outcome ≠ some (.ok ()))
      (asked : calls past = fetched ++ onPod) : Course env b home data c past outcome
  /-- The stage that writes onto the further object is the last one. -/
  | target {fetched onPod onTarget : List StorageExchange} {object? : Option ObjectRef}
      {outcome : Option (Except StorageError Unit)} (valid : c.validate = .ok ())
      (resolved : Resolved env home c past fetched object?)
      (stage : Stage b (podWrite? home data c) onPod (some (.ok ())))
      (last : TargetStage b (targetWrite? data c object?) onTarget outcome)
      (asked : calls past = fetched ++ onPod ++ onTarget) : Course env b home data c past outcome

/-- The ways in which a store goes, by what was asked and what it comes to. -/
inductive Outcome (env : Environment) (b : Backoff) (data : String) :
    StorageConfig → List StorageExchange → Option (Except StorageError Unit) → Prop
  /-- The configuration is for the other storage. -/
  | wrongKind {g : GaugeConfig} :
      Outcome env b data (.gauge g) [] (some (.error (.invalidConfig (.wrongKind .inKube .gauge))))
  /-- Cluster storage is not set up. -/
  | notReady {c : InKubeConfig} :
      Outcome env b data (.inKube c) [of .home none] (some (.error (.notInitialized .inKube)))
  /-- Cluster storage is set up for a pod. -/
  | ready {c : InKubeConfig} {home : PodName} {past : List StorageExchange}
      {outcome : Option (Except StorageError Unit)} (mem : of .home (some home) ∈ past)
      (course : Course env b home data c past outcome) :
      Outcome env b data (.inKube c) past outcome

/-- What a store may ask after what was asked before: it patches no object but the one that its
target stands for, and it breaks off only as it may. -/
def MayAsk (env : Environment) (b : Backoff) (data : String) (config : StorageConfig)
    (past : List StorageExchange) : StorageAsk → Prop
  | .patchObject object _ => ∃ c home fetched, config = .inKube c ∧ of .home (some home) ∈ past ∧
      c.validate = .ok () ∧ Resolved env home c past fetched (some object)
  | .breakOff => Outcome env b data config past none
  | _ => True

/-! ### What was asked -/

variable {env : Environment} {b : Backoff} {home : PodName} {data : String} {c : InKubeConfig}
  {before past later : List StorageExchange} {w? : Option Write}

theorem calls_cons {x : StorageExchange} :
    calls (x :: past) = if x.question.isCall then calls past ++ [x] else calls past := by
  unfold calls
  split <;> simp [*]

theorem mem_calls {x : StorageExchange} :
    x ∈ calls past ↔ x ∈ past ∧ x.question.isCall = true := by
  simp [calls]

theorem calls_answered {w : Write} {r : Except StorageError Unit} :
    calls (w.answered r :: past) = calls past ++ [w.answered r] := by
  cases w <;> exact calls_cons.trans (if_pos rfl)

theorem Found.mono {fetched : List StorageExchange} {pod : Pod} (h : Found home past fetched pod)
    (grows : past <:+ later) : Found home later fetched pod := by
  cases h with
  | kept mem => exact .kept (grows.mem mem)
  | fetched mem => exact .fetched (grows.mem mem)

theorem Resolved.mono {fetched : List StorageExchange} {object? : Option ObjectRef}
    (h : Resolved env home c past fetched object?) (grows : past <:+ later) :
    Resolved env home c later fetched object? := by
  cases h with
  | untargeted untargeted => exact .untargeted untargeted
  | targeted target found resolves => exact .targeted target (found.mono grows) resolves

theorem targetObject_cases {pod : Pod} {t : TargetConfig} :
    (∃ e, targetObject env home pod t = .error e ∧
      (resolve env pod.container t.ns = .error e ∨ resolve env pod.container t.name = .error e)) ∨
    ∃ ns name, resolve env pod.container t.ns = .ok ns ∧
      resolve env pod.container t.name = .ok name ∧
      targetObject env home pod t = .ok
        { group := t.group, version := t.version, resource := t.resource
          ns := if ns = "" ∧ t.isPodOwner then home.ns else ns
          name } := by
  unfold targetObject
  cases ns : resolve env pod.container t.ns with
  | error e => exact .inl ⟨e, rfl, .inl rfl⟩
  | ok ns' =>
    cases name : resolve env pod.container t.name with
    | error e => exact .inl ⟨e, rfl, .inr rfl⟩
    | ok name' => exact .inr ⟨ns', name', rfl, rfl, rfl⟩

/-! ### The stages -/

theorem keeps_bind {α β : Type} {x : Storing α} {f : α → Storing β}
    {may : List StorageExchange → StorageAsk → Prop}
    {mid : List StorageExchange → Except StorageError α → Prop}
    {ends : List StorageExchange → Except StorageError β → Prop}
    (first : x.run.Keeps may mid past)
    (ok : ∀ past a, mid past (.ok a) → (f a).run.Keeps may ends past)
    (error : ∀ past e, mid past (.error e) → ends past (.error e)) :
    (x >>= f).run.Keeps may ends past := by
  refine Activity.Keeps.bind (f := ExceptT.bindCont f) first fun past r h => ?_
  cases r with
  | ok a => exact ok past a h
  | error e => exact error past e h

/-- That a stage was gone through since `before`, and what it came to. -/
def Writes (b : Backoff) (w? : Option Write) (before past : List StorageExchange)
    (outcome : Option (Except StorageError Unit)) : Prop :=
  ∃ onStage, Stage b w? onStage outcome ∧ calls past = calls before ++ onStage

/-- What may be asked in a stage that began after `before`. -/
def MayWrite (b : Backoff) (w? : Option Write) (before past : List StorageExchange) :
    StorageAsk → Prop
  | .patchPod name patch => w? = some (.pod name patch)
  | .patchObject object patch => w? = some (.target object patch)
  | .wait _ => True
  | .breakOff => Writes b w? before past none
  | _ => False

theorem keeps_nothing :
    (pure () : Storing Unit).run.Keeps (MayWrite b none past)
      (fun later r => Writes b none past later (some r)) past :=
  ⟨[], ⟨rfl, rfl⟩, (List.append_nil _).symm⟩

theorem keeps_untilNoConflict {w : Write} :
    (Storing.untilNoConflict b (ExceptT.mk w.call)).run.Keeps (MayWrite b (some w) past)
      (fun later r => Writes b (some w) past later (some r)) past := by
  -- the record is that the calls of this stage are the attempts so far
  refine Backoff.keeps_attempt
    (fun outcomes later => calls later = calls past ++ outcomes.map w.answered)
    (by simp) ?tries ?waits ?breaksOff ?finishes
  case tries =>
    intro met later _ recorded
    have answer (r : Except StorageError Unit) :
        calls (w.answered r :: later) =
          calls past ++ (met.map Except.error ++ [r]).map w.answered := by
      rw [calls_answered, recorded, List.map_append, List.append_assoc]
      rfl
    cases w with
    | pod name patch => exact ⟨rfl, answer⟩
    | target object patch => exact ⟨rfl, answer⟩
  case waits =>
    intro met e later span _ _ recorded
    exact ⟨trivial, fun _ => recorded⟩
  case breaksOff =>
    intro outcomes later attempts recorded
    exact ⟨⟨_, ⟨outcomes, attempts, rfl⟩, recorded⟩, nofun⟩
  case finishes =>
    intro outcomes later r attempts recorded
    exact ⟨_, ⟨outcomes, attempts, rfl⟩, recorded⟩

theorem keeps_storeInPod :
    (storeInPod b home data c).run.Keeps (MayWrite b (podWrite? home data c) past)
      (fun later r => Writes b (podWrite? home data c) past later (some r)) past := by
  unfold storeInPod podWrite?
  cases c.podPatch? data with
  | none => exact keeps_nothing
  | some patch => exact keeps_untilNoConflict (w := .pod home patch)

theorem TargetStage.of_stage {w : Except StorageError (Option Write)}
    {onTarget : List StorageExchange} (h : Stage b w.toOption.join onTarget none) :
    TargetStage b w onTarget none := by
  cases w with
  | error e => cases h.2
  | ok w? => exact h

/-- The writing onto the further object, if the configuration asks for it. -/
def storeFurther (b : Backoff) (data : String) (c : InKubeConfig) (object? : Option ObjectRef) :
    Storing Unit :=
  match object? with
  | some object => if c.policies.isEmpty then pure () else storeInTarget b object data c
  | none => pure ()

theorem keeps_storeFurther {object? : Option ObjectRef} :
    (storeFurther b data c object?).run.Keeps
      (MayWrite b (targetWrite? data c object?).toOption.join past)
      (fun later r => ∃ onTarget, TargetStage b (targetWrite? data c object?) onTarget (some r) ∧
        calls later = calls past ++ onTarget) past := by
  cases object? with
  | none => exact keeps_nothing
  | some object =>
    cases unwanted : c.policies.isEmpty with
    | true =>
      simp only [storeFurther, targetWrite?, unwanted, if_true]
      exact keeps_nothing
    | false =>
      simp only [storeFurther, targetWrite?, unwanted, Bool.false_eq_true, if_false, storeInTarget]
      cases c.targetPatch data with
      | error e => exact ⟨[], ⟨rfl, rfl⟩, (List.append_nil _).symm⟩
      | ok patch =>
        cases patch with
        | nil => exact keeps_nothing
        | cons op ops => exact keeps_untilNoConflict (w := .target object (op :: ops))

/-! ### The whole -/

/-- What may be asked to find the pod. -/
def MayLookUp (home : PodName) : StorageAsk → Prop
  | .getPod name => name = home
  | .keptPod | .keepPod _ => True
  | _ => False

theorem keeps_currentPod :
    (currentPod home).run.Keeps (fun _ q => MayLookUp home q)
      (fun later r => match r with
        | .ok pod => ∃ fetched, Found home later fetched pod ∧ calls later = calls past ++ fetched
        | .error e => calls later = calls past ++ [of (.getPod home) (.error e)]) past := by
  refine ⟨trivial, fun kept => ?_⟩
  cases kept with
  | some pod =>
    exact ⟨[], .kept List.mem_cons_self, calls_cons.trans (by simp [StorageAsk.isCall])⟩
  | none =>
    refine ⟨rfl, fun fetched => ?_⟩
    have asked : calls (of (.getPod home) fetched :: of .keptPod none :: past) =
        calls past ++ [of (.getPod home) fetched] := by
      rw [calls_cons, calls_cons]
      rfl
    cases fetched with
    | error e => exact asked
    | ok pod =>
      refine ⟨trivial, fun _ => ?_⟩
      refine ⟨[of (.getPod home) (.ok pod)], .fetched (by simp [of]), ?_⟩
      exact calls_cons.trans asked

theorem forTarget {object? : Option ObjectRef} :
    ForTarget data c object? (targetWrite? data c object?) := by
  cases object? with
  | none => exact .untargeted
  | some object =>
    cases policies : c.policies with
    | nil =>
      simp only [targetWrite?, policies, List.isEmpty_nil, if_true]
      exact .unmarked policies
    | cons p ps =>
      have marked : c.policies ≠ [] := by simp [policies]
      simp only [targetWrite?, policies, List.isEmpty_cons, Bool.false_eq_true, if_false]
      cases patch : c.targetPatch data with
      | error e => exact .malformed marked patch
      | ok operations =>
        cases operations with
        | nil => exact .empty marked patch
        | cons op ops => exact .patched marked patch

theorem eq_of_targetWrite? {object? : Option ObjectRef} {object : ObjectRef}
    {patch : List PatchOperation}
    (h : (targetWrite? data c object?).toOption.join = some (.target object patch)) :
    object? = some object := by
  have way : ForTarget data c object? _ := forTarget
  generalize targetWrite? data c object? = w at way h
  cases way <;> cases h
  rfl

theorem mayAsk_of_mayWrite {config : StorageConfig} {q : StorageAsk}
    (h : MayWrite b w? before past q)
    (addresses : ∀ object patch, w? = some (.target object patch) →
      MayAsk env b data config past (.patchObject object patch))
    (brokenOff : Writes b w? before past none → Outcome env b data config past none) :
    MayAsk env b data config past q := by
  cases q with
  | patchObject object patch => exact addresses object patch h
  | breakOff => exact brokenOff h
  | _ => trivial

theorem keeps_stages {fetched : List StorageExchange} {object? : Option ObjectRef}
    (mem : of .home (some home) ∈ past) (valid : c.validate = .ok ())
    (resolved : Resolved env home c past fetched object?) (asked : calls past = fetched) :
    (do storeInPod b home data c; storeFurther b data c object?).run.Keeps
      (MayAsk env b data (.inKube c))
      (fun later r => Outcome env b data (.inKube c) later (some r)) past := by
  -- a stage on the pod that is not followed by another one
  have last {later outcome} (grows : past <:+ later)
      (writes : Writes b (podWrite? home data c) past later outcome)
      (failed : outcome ≠ some (.ok ())) : Outcome env b data (.inKube c) later outcome := by
    obtain ⟨onPod, stage, heq⟩ := writes
    exact .ready (grows.mem mem)
      (.pod valid (resolved.mono grows) stage failed (by rw [heq, asked]))
  refine keeps_bind (keeps_storeInPod.mono ?asks fun grows writes => And.intro grows writes)
    ?goes ?fails
  case asks =>
    intro later q grows may
    refine mayAsk_of_mayWrite may ?_ fun writes => last grows writes nofun
    intro object patch none
    unfold podWrite? at none
    cases hp : c.podPatch? data <;> simp [hp] at none
  case fails =>
    rintro later e ⟨grows, writes⟩
    exact last grows writes nofun
  case goes =>
    rintro later ⟨⟩ ⟨grows, onPod, stage, heq⟩
    have ended {later' onTarget outcome} (more : later <:+ later')
        (target : TargetStage b (targetWrite? data c object?) onTarget outcome)
        (heq' : calls later' = calls later ++ onTarget) :
        Outcome env b data (.inKube c) later' outcome :=
      .ready ((grows.trans more).mem mem)
        (.target valid (resolved.mono (grows.trans more)) stage target (by rw [heq', heq, asked]))
    refine keeps_storeFurther.mono ?_ fun more ⟨onTarget, target, heq'⟩ => ended more target heq'
    intro later' q more may
    refine mayAsk_of_mayWrite may ?_ ?_
    · intro object patch writes
      obtain rfl := eq_of_targetWrite? writes
      exact ⟨c, home, fetched, rfl, (grows.trans more).mem mem, valid,
        resolved.mono (grows.trans more)⟩
    · rintro ⟨onTarget, target, heq'⟩
      exact ended more (.of_stage target) heq'

theorem keeps_storeFor (mem : of .home (some home) ∈ past) (asked : calls past = []) :
    (storeFor env b home data c).run.Keeps (MayAsk env b data (.inKube c))
      (fun later r => Outcome env b data (.inKube c) later (some r)) past := by
  -- with the checks and the target known, a store is one chain of stages
  cases valid : c.validate with
  | error e =>
    have : storeFor env b home data c = Storing.check (.error e) := by
      simp only [storeFor, valid]
      rfl
    rw [this]
    exact .ready mem (.invalid valid asked)
  | ok =>
    cases target : c.target with
    | none =>
      have : storeFor env b home data c =
          (do storeInPod b home data c; storeFurther b data c none) := by
        simp only [storeFor, valid, target]
        rfl
      rw [this]
      exact keeps_stages mem valid (.untargeted target) asked
    | some t =>
      have : storeFor env b home data c = (do
          let pod ← currentPod home
          let object ← Storing.check (targetObject env home pod t)
          storeInPod b home data c
          storeFurther b data c (some object)) := by
        simp only [storeFor, valid, target]
        rfl
      rw [this]
      refine keeps_bind (keeps_currentPod.mono ?asks fun grows found => And.intro grows found)
        ?goes ?fails
      case asks =>
        intro later q grows may
        cases q with
        | patchObject | breakOff => cases may
        | _ => trivial
      case fails =>
        rintro later e ⟨grows, heq⟩
        exact .ready (grows.mem mem) (.unfetched valid target (by rw [heq, asked]; rfl))
      case goes =>
        rintro later pod ⟨grows, fetched, found, heq⟩
        rw [asked, List.nil_append] at heq
        cases resolves : targetObject env home pod t with
        | error e => exact .ready (grows.mem mem) (.unresolved valid target found resolves heq)
        | ok object =>
          exact keeps_stages (grows.mem mem) valid (.targeted target found resolves) heq

/-- **A store goes in one of the ways of `Outcome`, whatever the answers are.** -/
theorem keeps_store {config : StorageConfig} :
    (store env b data config).run.Keeps (MayAsk env b data config)
      (fun past r => Outcome env b data config past (some r)) [] := by
  cases config with
  | gauge g => exact .wrongKind
  | inKube c =>
    refine ⟨trivial, fun home => ?_⟩
    cases home with
    | none => exact .notReady
    | some home => exact keeps_storeFor List.mem_cons_self rfl

end InKube

end Sidecar
