import Sidecar.Proofs.Storage.Calls

/-!
# The object that a store patches

A target is checked before its templates are resolved, so what is known of the object that it stands
for depends on what the templates come to.

* `Template.resolve_eq_ok_iff` : what a template stands for;
* `InKube.object_of_patch` : **every object that a store patches is the one that the target stands
  for**, with a version and a resource, and it has a name unless the name is a template for a
  variable whose value is empty.

`InKube.not_always_named` shows that an object without a name is patched.
-/

namespace Sidecar

namespace Template

/-- The value of the variable that a mention names. -/
def Mention.value? (m : Mention) (env : Environment) (container : Option Container) :
    Option String :=
  if m.scope = "SELF" then env m.name
  else if m.scope = "POD" then containerValue? container m.name
  else none

/-- **What a template stands for**: itself without a mention, otherwise the value of the variable
that the first mention names. -/
theorem resolve_eq_ok_iff {env : Environment} {container : Option Container}
    {template value : String} :
    resolve env container template = .ok value ↔
      (mention? template = none ∧ value = template) ∨
        ∃ m, mention? template = some m ∧ m.value? env container = some value := by
  unfold resolve
  cases mention : mention? template with
  | none => simp [eq_comm]
  | some m =>
    simp only [Mention.value?]
    by_cases own : m.scope = "SELF"
    · cases found : env m.name <;> simp [own, found]
    · by_cases pod : m.scope = "POD"
      · cases found : containerValue? container m.name <;> simp [pod, found]
      · simp [own, pod]

end Template

namespace InKube

open StorageExchange (of)

variable {env : Environment} {b : Backoff} {data : String} {config : StorageConfig}
  {home : PodName} {pod : Pod} {t : TargetConfig} {c : InKubeConfig} {object : ObjectRef}
  {past : List StorageExchange}

/-- That an object is the one that a target stands for, given the pod. -/
structure StandsFor (env : Environment) (home : PodName) (pod : Pod) (t : TargetConfig)
    (object : ObjectRef) : Prop where
  group : object.group = t.group
  version : object.version = t.version
  resource : object.resource = t.resource
  version_ne : object.version ≠ ""
  resource_ne : object.resource ≠ ""
  /-- The name is what its template stands for. -/
  name : Template.resolve env pod.container t.name = .ok object.name
  /-- The namespace is what its template stands for, but that of the pod if this is nothing and the
  object owns the pod. -/
  ns : ∃ ns, Template.resolve env pod.container t.ns = .ok ns ∧
    object.ns = if ns = "" ∧ t.isPodOwner = true then home.ns else ns
  /-- There is no name exactly if the template names a variable whose value is empty. -/
  unnamed_iff : object.name = "" ↔
    ∃ m, Template.mention? t.name = some m ∧ m.value? env pod.container = some ""

theorem resolve_eq_ok_iff {container : Option Container} {template value : String} :
    resolve env container template = .ok value ↔
      Template.resolve env container template = .ok value := by
  unfold resolve
  cases Template.resolve env container template with
  | error why => constructor <;> exact nofun
  | ok v =>
    constructor
    all_goals
      intro same
      cases same
      rfl

theorem ne_of_validate (valid : c.validate = .ok ()) (target : c.target = some t) :
    t.version ≠ "" ∧ t.resource ≠ "" ∧ t.name ≠ "" := by
  have checked : t.invalid? = none := by
    unfold InKubeConfig.validate InKubeConfig.invalid? at valid
    rw [target] at valid
    split at valid
    · cases valid
    · rename_i unwrong
      split at unwrong
      · cases unwrong
      · exact unwrong
  unfold TargetConfig.invalid? at checked
  split at checked
  · cases checked
  · split at checked
    · cases checked
    · split at checked
      · cases checked
      · exact ⟨‹_›, ‹_›, ‹_›⟩

theorem standsFor_of_targetObject (valid : c.validate = .ok ()) (target : c.target = some t)
    (resolves : targetObject env home pod t = .ok object) : StandsFor env home pod t object := by
  obtain ⟨version, resource, name⟩ := ne_of_validate valid target
  rcases @targetObject_cases env home pod t with ⟨e, fails, -⟩ | ⟨ns', name', ns, named, stands⟩
  · rw [fails] at resolves
    cases resolves
  · rw [stands] at resolves
    cases resolves
    have named := resolve_eq_ok_iff.1 named
    refine ⟨rfl, rfl, rfl, version, resource, named, ⟨ns', resolve_eq_ok_iff.1 ns, rfl⟩, ?_⟩
    -- a template that stands for itself is the name that was checked
    constructor
    · intro unnamed
      rcases Template.resolve_eq_ok_iff.1 named with ⟨-, same⟩ | mention
      · exact absurd (same.symm.trans unnamed) name
      · exact unnamed ▸ mention
    · rintro ⟨m, mention, empty⟩
      have resolved := Template.resolve_eq_ok_iff.2 (.inr ⟨m, mention, empty⟩)
      rw [named] at resolved
      exact Except.ok.inj resolved

/-- **Every object that a store patches is the one that the target of its configuration stands
for**, given the pod that cluster storage is set up for as it was kept or fetched for this store. -/
theorem object_of_patch {patch : List PatchOperation}
    {next : StorageAsk.Reply (.patchObject object patch) →
      Activity StorageI (Except StorageError Unit)}
    (asked : (store env b data config).run.Leads past (.ask (.patchObject object patch) next)) :
    ∃ c t home fetched pod, config = .inKube c ∧ c.target = some t ∧
      of .home (some home) ∈ past ∧ Found home past fetched pod ∧
      StandsFor env home pod t object := by
  obtain ⟨c, home, fetched, rfl, mem, valid, resolved⟩ := (keeps_store.of_leads asked).1
  cases resolved with
  | targeted target found resolves =>
    exact ⟨c, _, home, fetched, _, rfl, target, mem, found,
      standsFor_of_targetObject valid target resolves⟩

/-! ### An object without a name -/

/-- A pod in which the variable of the owner is empty. -/
def ownerlessPod : Pod where
  ns := some "games"
  name := some "server-0"
  container := some {
    name := "main"
    env := some [{ name := "NS", value := some "prod" }, { name := "OWNER", value := some "" }] }

/-- A target that is named by the variable of the owner. -/
def ownerConfig : InKubeConfig where
  target := some { widget with name := "${POD:OWNER}" }
  jsonPath := none
  annotationKey := none
  labelKey := none
  policies := [{ state := "Failed", labels := [], annotations := [("tier", "degraded")] }]

/-- The object that a question is about. -/
def object? : StorageAsk → Option ObjectRef
  | .patchObject object _ => some object
  | _ => none

theorem exists_patch_of_object? {s : Activity.Surroundings StorageI}
    (h : ∃ x ∈ (storeIn s env b data config).1, object? x.question = some object) :
    ∃ past patch next, (store env b data config).run.Leads past
      (.ask (.patchObject object patch) next) := by
  obtain ⟨⟨q, r⟩, mem, about⟩ := h
  cases q with
  | patchObject object' patch =>
    cases about
    rcases Activity.Leads.start.asked_of_mem mem with old | ⟨before, next, asked, -⟩
    · cases old
    · exact ⟨before, patch, next, asked⟩
  | _ => cases about

theorem exists_patch_unnamed :
    ∃ past patch next, (store .empty .default "Failed" (.inKube ownerConfig)).run.Leads past
      (.ask (.patchObject ⟨"", "v1", "widgets", "prod", ""⟩ patch) next) :=
  exists_patch_of_object? (s := settled ⟨"games", "server-0"⟩ ownerlessPod fun _ => .ok ())
    (by decide +kernel)

theorem object_of_patch_unnamed :
    ∃ past patch next, (store .empty .default "Failed" (.inKube ownerConfig)).run.Leads past
        (.ask (.patchObject ⟨"", "v1", "widgets", "prod", ""⟩ patch) next) ∧
      ∃ c t home fetched pod, StorageConfig.inKube ownerConfig = .inKube c ∧ c.target = some t ∧
        of .home (some home) ∈ past ∧ Found home past fetched pod ∧
        StandsFor .empty home pod t ⟨"", "v1", "widgets", "prod", ""⟩ := by
  obtain ⟨past, patch, next, asked⟩ := exists_patch_unnamed
  exact ⟨past, patch, next, asked, object_of_patch asked⟩

/-- **An object without a name may be patched**: the name is checked before its template is
resolved. -/
theorem not_always_named :
    ¬ ∀ (env : Environment) (b : Backoff) (data : String) (config : StorageConfig)
      (past : List StorageExchange) (object : ObjectRef) (patch : List PatchOperation)
      (next : StorageAsk.Reply (.patchObject object patch) →
        Activity StorageI (Except StorageError Unit)),
      (store env b data config).run.Leads past (.ask (.patchObject object patch) next) →
      object.version ≠ "" ∧ object.resource ≠ "" ∧ object.name ≠ "" := by
  intro named
  obtain ⟨past, patch, next, asked⟩ := exists_patch_unnamed
  exact (named _ _ _ _ _ _ _ _ asked).2.2 rfl

end InKube

end Sidecar
