import Mathlib.Data.List.Forall2
import Sidecar.Proofs.Json.Pointer
import Sidecar.Proofs.Storage.Address
import Sidecar.Proofs.Storage.Agreement
import Sidecar.Proofs.Storage.Binding
import Sidecar.Proofs.Storage.Failure

/-!
# The replacements on the further object

Each replacement on the further object has a source in the configuration: the annotation, the label
or the path that receives the data, or an entry of the active policy
(`InKubeConfig.sources`, `InKubeConfig.targetOperations_eq_map`).  A key may be any text, since it
is one token of a pointer; of the sources only a path can name no place.

* `InKubeConfig.patch_of_sources` : **the patch has one replacement for each source, in order**,
  unless the path is written as a pointer and is none;
* `InKube.whole_object_replaced` : **a store replaces the whole object exactly if the path is
  blank**, that is, nothing but dollar signs and then dots.

`InKube.not_only_parts` shows that such a path passes the checks.
-/

namespace Sidecar

namespace InKubeConfig

variable {c : InKubeConfig} {data key path text : String} {key? : Option String}
  {op : PatchOperation} {ops : List PatchOperation}

/-- What a place of the further object is replaced for. -/
inductive Source where
  | annotationKey (key : String)
  | labelKey (key : String)
  | path (path : String)
  deriving DecidableEq

namespace Source

/-- Where the places of sources are: an annotation and a label are members of the metadata, whatever
characters their keys have. -/
def IsAt : Source → String → Prop
  | .annotationKey key, place => Pointer.tokens? place = some ["metadata", "annotations", key]
  | .labelKey key, place => Pointer.tokens? place = some ["metadata", "labels", key]
  | .path path, place => place = Pointer.ofPath path

/-- The place of a source. -/
def place : Source → String
  | .annotationKey key => annotationPath key
  | .labelKey key => labelPath key
  | .path path => Pointer.ofPath path

theorem isAt_place (s : Source) : s.IsAt s.place := by
  cases s with
  | annotationKey key => rw [IsAt, place, annotationPath_eq, Pointer.tokens?_ofTokens]; rfl
  | labelKey key => rw [IsAt, place, labelPath_eq, Pointer.tokens?_ofTokens]; rfl
  | path path => rfl

end Source

/-- A configured source of the data, if there is one that is not empty. -/
def configured (source : String → Source) (data : String) : Option String → List (Source × String)
  | some key => if key = "" then [] else [(source key, data)]
  | none => []

/-- The entries of a policy as sources: the annotations, then the labels. -/
def entries (p : MarkerPolicy) : List (Source × String) :=
  p.annotations.map (fun e => (.annotationKey e.1, e.2)) ++
  p.labels.map fun e => (.labelKey e.1, e.2)

/-- The sources of a configuration for a piece of data, each with the text that it gives: the
annotation, the label and the path that receive the data, then the entries of the first policy for
the data. -/
def sources (c : InKubeConfig) (data : String) : List (Source × String) :=
  configured .annotationKey data c.annotationKey ++ configured .labelKey data c.labelKey ++
  configured .path data c.jsonPath ++
  (c.policies.find? fun p => p.state = data).elim [] entries

/-- A path that is written as a pointer, but has a tilde that stands for nothing. -/
def MalformedPath (c : InKubeConfig) (path : String) : Prop :=
  c.jsonPath = some path ∧ path.toList.head? = some '/' ∧ Pointer.HasStrayTilde path.toList

/-- A path of which nothing is left, though it is not empty. -/
def BlankPath (c : InKubeConfig) (path : String) : Prop :=
  c.jsonPath = some path ∧ path ≠ "" ∧ Pointer.IsBlank path

/-- The replacements for the sources of a configuration, one for each. -/
structure Replaces (c : InKubeConfig) (data : String) (ops : List PatchOperation) : Prop where
  /-- In order, each replaces the place of its source by the text that this gives. -/
  listed : List.Forall₂
    (fun op s => ∃ place, op = .replace place (.text s.2) ∧ s.1.IsAt place) ops (c.sources data)
  /-- The annotations and the labels of a policy are in order of their keys, each key once, if the
  configuration is sound, as every one that is read is. -/
  ordered : c.Sound → ∀ p ∈ c.policies, (p.annotations.map Prod.fst).Pairwise (· < ·) ∧
    (p.labels.map Prod.fst).Pairwise (· < ·)

/-! ### Sources -/

theorem configured_eq {source : String → Source} : configured source data key? =
    (key?.filter (· != "")).toList.map fun k => (source k, data) := by
  cases key? with
  | none => rfl
  | some key =>
    by_cases empty : key = ""
    · simp [configured, empty]
    · simp [configured, empty, Option.filter]

/-- **The operations are the replacements of the places of the sources.** -/
theorem targetOperations_eq_map : c.targetOperations data =
    (c.sources data).map fun s => .replaceText s.1.place s.2 := by
  have policy : (c.policies.find? fun p => p.state = data) = c.policy? data := rfl
  simp only [sources, configured_eq, policy, targetOperations, overlay, annotation?, label?, path?]
  cases c.policy? data <;>
    simp [entries, Source.place, Function.comp_def, List.append_assoc]

theorem mem_targetOperations : op ∈ c.targetOperations data ↔
    ∃ s text, (s, text) ∈ c.sources data ∧ op = .replaceText s.place text := by
  rw [targetOperations_eq_map, List.mem_map]
  constructor
  · rintro ⟨⟨s, text⟩, mem, rfl⟩
    exact ⟨s, text, mem, rfl⟩
  · rintro ⟨s, text, mem, rfl⟩
    exact ⟨(s, text), mem, rfl⟩

theorem mem_configured {source : String → Source} {s : Source} :
    (s, text) ∈ configured source data key? ↔
      ∃ key, key? = some key ∧ key ≠ "" ∧ s = source key ∧ text = data := by
  cases key? with
  | none => simp [configured]
  | some key => by_cases empty : key = "" <;> simp [configured, empty]

theorem path_mem_sources : (Source.path path, text) ∈ c.sources data ↔
    c.jsonPath = some path ∧ path ≠ "" ∧ text = data := by
  have policy : (Source.path path, text) ∉
      (c.policies.find? fun p => p.state = data).elim [] entries := by
    cases c.policies.find? fun p => p.state = data <;> simp [entries]
  simp [sources, mem_configured, policy]

theorem replaces_targetOperations : c.Replaces data (c.targetOperations data) where
  listed := by
    rw [targetOperations_eq_map, List.forall₂_map_left_iff, List.forall₂_same]
    exact fun s _ => ⟨s.1.place, rfl, s.1.isAt_place⟩
  ordered sound p mem :=
    ⟨List.pairwise_map.2 (sound p mem).annotations, List.pairwise_map.2 (sound p mem).labels⟩

/-! ### Places that no pointer names -/

theorem malformed_of_source {s : Source} (mem : (s, text) ∈ c.sources data)
    (malformed : Pointer.isPointer s.place = false) : c.MalformedPath s.place := by
  have at_place := s.isAt_place
  cases s with
  | annotationKey key =>
    have tokens : Pointer.tokens? _ = some _ := at_place
    rw [Pointer.isPointer, tokens] at malformed
    cases malformed
  | labelKey key =>
    have tokens : Pointer.tokens? _ = some _ := at_place
    rw [Pointer.isPointer, tokens] at malformed
    cases malformed
  | path path =>
    have stray : path.toList.head? = some '/' ∧ Pointer.HasStrayTilde path.toList := by
      by_contra sound
      have pointer : Pointer.isPointer (Source.path path).place = true :=
        Pointer.isPointer_ofPath.2 sound
      rw [malformed] at pointer
      cases pointer
    have own : (Source.path path).place = path := Pointer.ofPath_of_slash stray.1
    rw [own]
    exact ⟨(path_mem_sources.1 mem).1, stray⟩

theorem malformedPath_of_find?
    (found : (c.targetOperations data).find? (fun op => !Pointer.isPointer op.path) = some op) :
    c.MalformedPath op.path := by
  obtain ⟨s, text, mem, rfl⟩ := mem_targetOperations.1 (List.mem_of_find?_eq_some found)
  have malformed := List.find?_some found
  rw [Bool.not_eq_true'] at malformed
  exact malformed_of_source mem malformed

theorem MalformedPath.mem_targetOperations (h : c.MalformedPath path) :
    ∃ op ∈ c.targetOperations data, Pointer.isPointer op.path = false := by
  obtain ⟨given, slash, stray⟩ := h
  have nonempty := Pointer.ne_empty_of_slash slash
  refine ⟨.replaceText (Pointer.ofPath path) data, InKubeConfig.mem_targetOperations.2
    ⟨.path path, data, path_mem_sources.2 ⟨given, nonempty, rfl⟩, rfl⟩, ?_⟩
  exact Bool.eq_false_iff.2 fun pointer => Pointer.isPointer_ofPath.1 pointer ⟨slash, stray⟩

theorem targetPatch_of_malformedPath (h : c.MalformedPath path) :
    c.targetPatch data = .error (.malformedPatch path) := by
  simp only [targetPatch]
  split
  · rename_i op found
    have same : some op.path = some path := (malformedPath_of_find? found).1.symm.trans h.1
    rw [Option.some.inj same]
  · rename_i sound
    obtain ⟨op, mem, malformed⟩ := h.mem_targetOperations
    exact absurd (congrArg (!·) malformed) (List.find?_eq_none.1 sound op mem)

theorem targetPatch_of_not_malformedPath (h : ¬ ∃ path, c.MalformedPath path) :
    c.targetPatch data = .ok (c.targetOperations data) := by
  simp only [targetPatch]
  split
  · rename_i op found
    exact absurd ⟨op.path, malformedPath_of_find? found⟩ h
  · rfl

/-- **The patch of the further object has one replacement for each source, in order**, and there is
none exactly if the path is written as a pointer and is none. -/
theorem patch_of_sources (c : InKubeConfig) (data : String) :
    (∀ s, Pointer.isPointer s = true ↔
      s = "" ∨ s.toList.head? = some '/' ∧ ¬ Pointer.HasStrayTilde s.toList) ∧
    ((∃ e, c.targetPatch data = .error e) ↔ ∃ path, c.MalformedPath path) ∧
    (∀ path, c.MalformedPath path → c.targetPatch data = .error (.malformedPatch path)) ∧
    ((¬ ∃ path, c.MalformedPath path) → c.targetPatch data = .ok (c.targetOperations data)) ∧
    c.Replaces data (c.targetOperations data) := by
  refine ⟨fun s => Pointer.isPointer_iff, ⟨?fails, ?malformed⟩,
    fun path => targetPatch_of_malformedPath, targetPatch_of_not_malformedPath,
    replaces_targetOperations⟩
  case fails =>
    rintro ⟨e, fails⟩
    by_contra sound
    rw [targetPatch_of_not_malformedPath sound] at fails
    cases fails
  case malformed =>
    rintro ⟨path, malformed⟩
    exact ⟨_, targetPatch_of_malformedPath malformed⟩

/-- A path that is a pointer but for a tilde at its end. -/
def tildeConfig : InKubeConfig where
  target := none
  jsonPath := some "/status/~"
  annotationKey := some "~"
  labelKey := none
  policies := []

theorem patch_of_sources_tilde :
    tildeConfig.MalformedPath "/status/~" ∧
      tildeConfig.targetPatch "Up" = .error (.malformedPatch "/status/~") := by
  have malformed : tildeConfig.MalformedPath "/status/~" :=
    ⟨rfl, rfl, "/status/".toList, [], by decide, by decide, by decide⟩
  exact ⟨malformed, (patch_of_sources tildeConfig "Up").2.2.1 _ malformed⟩

/-! ### The whole object -/

theorem blankPath_of_source {s : Source} (mem : (s, text) ∈ c.sources data) (whole : s.place = "") :
    text = data ∧ ∃ path, c.BlankPath path := by
  have at_place := s.isAt_place
  rw [whole] at at_place
  cases s with
  | annotationKey key => cases at_place
  | labelKey key => cases at_place
  | path path =>
    obtain ⟨given, nonempty, same⟩ := path_mem_sources.1 mem
    exact ⟨same, path, given, nonempty, Pointer.ofPath_eq_empty_iff.1 whole⟩

/-- **An operation is about the whole object exactly if the path is blank.** -/
theorem exists_whole_iff :
    (∃ op ∈ c.targetOperations data, op.path = "") ↔ ∃ path, c.BlankPath path := by
  constructor
  · rintro ⟨op, mem, whole⟩
    obtain ⟨s, text, source, rfl⟩ := mem_targetOperations.1 mem
    exact (blankPath_of_source source whole).2
  · rintro ⟨path, given, nonempty, blank⟩
    exact ⟨.replaceText (Pointer.ofPath path) data, mem_targetOperations.2
      ⟨.path path, data, path_mem_sources.2 ⟨given, nonempty, rfl⟩, rfl⟩,
      Pointer.ofPath_eq_empty_iff.2 blank⟩

theorem replaceIn?_of_whole (mem : op ∈ c.targetOperations data) (whole : op.path = "")
    (o : Value) : PatchOperation.replaceIn? o op = some (.text data) := by
  obtain ⟨s, text, source, rfl⟩ := mem_targetOperations.1 mem
  have place : s.place = "" := whole
  rw [(blankPath_of_source source place).1, PatchOperation.replaceText, place]
  rfl

/-- The checks do not look at what is left of a path. -/
theorem BlankPath.validate_eq_ok_iff (h : c.BlankPath path) :
    c.validate = .ok () ↔ c.target.bind TargetConfig.invalid? = none := by
  obtain ⟨given, nonempty, -⟩ := h
  have own : c.path? = some path := by simp [path?, given, nonempty]
  have checked : c.invalid? = c.target.bind TargetConfig.invalid? := by simp [invalid?, own]
  rw [validate, checked]
  cases c.target.bind TargetConfig.invalid? <;> simp

theorem eq_targetOperations_of_targetPatch (h : c.targetPatch data = .ok ops) :
    ops = c.targetOperations data := by
  simp only [targetPatch] at h
  split at h
  · cases h
  · exact (Except.ok.inj h).symm

end InKubeConfig

namespace InKube

variable {env : Environment} {b : Backoff} {home : PodName} {data : String} {c : InKubeConfig}
  {past onStage : List StorageExchange} {object : ObjectRef} {patch : List PatchOperation}
  {outcome : Option (Except StorageError Unit)}

theorem Stage.eq_of_patchObject {w? : Option Write} {x : StorageExchange}
    (h : Stage b w? onStage outcome) (mem : x ∈ onStage)
    (asked : x.question = .patchObject object patch) : w? = some (.target object patch) := by
  cases w? with
  | none => cases h.1 ▸ mem
  | some w =>
    obtain ⟨answers, -, rfl⟩ := h
    obtain ⟨r, -, rfl⟩ := List.mem_map.1 mem
    cases w <;> cases asked
    rfl

theorem TargetStage.eq_of_patchObject {w : Except StorageError (Option Write)}
    {x : StorageExchange} (h : TargetStage b w onStage outcome) (mem : x ∈ onStage)
    (asked : x.question = .patchObject object patch) : w = .ok (some (.target object patch)) := by
  cases w with
  | error e => cases h.1 ▸ mem
  | ok w? => exact congrArg Except.ok (Stage.eq_of_patchObject h mem asked)

theorem targetPatch_of_write {object? : Option ObjectRef}
    (h : targetWrite? data c object? = .ok (some (.target object patch))) :
    c.targetPatch data = .ok patch := by
  have way : ForTarget data c object? _ := forTarget
  rw [h] at way
  cases way with
  | patched _ patched => exact patched

theorem targetPatch_of_course {x : StorageExchange} (course : Course env b home data c past outcome)
    (mem : x ∈ calls past) (asked : x.question = .patchObject object patch) :
    c.targetPatch data = .ok patch := by
  have notLook : ¬ IsLook home x := by
    rintro ⟨pod, rfl⟩
    cases asked
  have notOnPod {onPod outcome} (stage : Stage b (podWrite? home data c) onPod outcome) :
      x ∉ onPod := fun mem => by
    obtain ⟨p, -, other⟩ := Option.map_eq_some_iff.1 (stage.eq_of_patchObject mem asked)
    cases other
  cases course with
  | invalid _ none => cases none ▸ mem
  | unfetched _ _ looked =>
    rw [looked, List.mem_singleton] at mem
    cases mem
    cases asked
  | unresolved _ _ found _ looked => exact absurd (found.looks x (looked ▸ mem)) notLook
  | pod _ resolved stage _ all =>
    rcases List.mem_append.1 (all ▸ mem) with mem | mem
    · exact absurd (resolved.looks x mem) notLook
    · exact absurd mem (notOnPod stage)
  | target _ resolved stage last all =>
    rcases List.mem_append.1 (all ▸ mem) with mem | mem
    · rcases List.mem_append.1 mem with mem | mem
      · exact absurd (resolved.looks x mem) notLook
      · exact absurd mem (notOnPod stage)
    · exact targetPatch_of_write (last.eq_of_patchObject mem asked)

/-- That some replacement is of the whole object. -/
def ReplacesWhole (patch : List PatchOperation) : Prop := ∃ op ∈ patch, op.path = ""

/-- **A store asks the cluster to replace the whole object by the data exactly if the path is
blank**, which no check rules out. -/
theorem whole_object_replaced (c : InKubeConfig) (data : String) :
    (ReplacesWhole (c.targetOperations data) ↔ ∃ path, c.BlankPath path) ∧
    (∀ op ∈ c.targetOperations data, op.path = "" →
      ∀ o, PatchOperation.replaceIn? o op = some (.text data)) ∧
    (∀ path, c.BlankPath path →
      (c.validate = .ok () ↔ c.target.bind TargetConfig.invalid? = none)) ∧
    ∀ s env b home, Ready s home → ∀ x ∈ calls (storeIn s env b data (.inKube c)).1,
      ∀ object patch, x.question = .patchObject object patch →
        (ReplacesWhole patch ↔ ∃ path, c.BlankPath path) := by
  refine ⟨InKubeConfig.exists_whole_iff,
    fun op mem whole o => InKubeConfig.replaceIn?_of_whole mem whole o,
    fun path blank => blank.validate_eq_ok_iff, ?_⟩
  intro s env b home ready x mem object patch asked
  have course : Course env b home data c _ _ := course_storeIn ready
  have patched := targetPatch_of_course course mem asked
  rw [InKubeConfig.eq_targetOperations_of_targetPatch patched]
  exact InKubeConfig.exists_whole_iff

/-- A path that names nothing. -/
def dotConfig : InKubeConfig where
  target := some widget
  jsonPath := some "."
  annotationKey := none
  labelKey := none
  policies := [{ state := "Failed", labels := [], annotations := [("tier", "degraded")] }]

theorem whole_object_replaced_dot :
    let s := settled ⟨"games", "server-0"⟩ namespacedPod fun _ => .ok ()
    dotConfig.validate = .ok () ∧ Ready s ⟨"games", "server-0"⟩ ∧
      ∃ x ∈ calls (storeIn s .empty .default "Healthy" (.inKube dotConfig)).1, ∃ object patch,
        x.question = .patchObject object patch ∧ ReplacesWhole patch := by
  intro s
  have ready : Ready s ⟨"games", "server-0"⟩ := ready_settled
  have patched : ∃ x ∈ calls (storeIn s .empty .default "Healthy" (.inKube dotConfig)).1,
      object? x.question = some ⟨"", "v1", "widgets", "prod", "w1"⟩ := by decide +kernel
  obtain ⟨x, mem, about⟩ := patched
  obtain ⟨object, patch, asked⟩ : ∃ object patch, x.question = .patchObject object patch := by
    obtain ⟨q, r⟩ := x
    cases q with
    | patchObject object patch => exact ⟨object, patch, rfl⟩
    | _ => cases about
  have blank : dotConfig.BlankPath "." := ⟨rfl, by decide, 0, 1, by decide⟩
  have whole := (whole_object_replaced dotConfig "Healthy").2.2.2 s .empty .default
    ⟨"games", "server-0"⟩ ready x mem object patch asked
  exact ⟨rfl, ready, x, mem, object, patch, asked, whole.2 ⟨".", blank⟩⟩

/-- **A path may pass the checks and stand for the whole object**: only the empty path counts as
none. -/
theorem not_only_parts :
    ¬ ∀ (c : InKubeConfig) (data : String), c.validate = .ok () →
      ∀ op ∈ c.targetOperations data, op.path ≠ "" := by
  intro parts
  exact parts dotConfig "Healthy" rfl (.replaceText "" "Healthy") (.head _) rfl

end InKube

end Sidecar
