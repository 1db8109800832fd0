import Sidecar.Proofs.Value.Change
import Sidecar.Storage.Patch

/-!
# Two patches of one document

Data is written in two ways: `podPatch?` is merged into a document, `targetOperations` replace one
place of a document after the other.  Where every place is there, both come to the same.

* `InKubeConfig.targetOperations_eq` : without a path of its own, the operations are replacements of
  annotations and labels;
* `InKubeConfig.merge_podPatch?` : merging sets the annotations and the labels;
* `InKubeConfig.patches_agree` : **replacing and merging make the same document of a document**, in
  which each annotation and each label has the value of the active policy, or else the data if it
  is the configured one, and in which nothing else differs.
-/

namespace Sidecar.InKubeConfig

variable {c : InKubeConfig} {data key : String} {o : Value}

/-- Where the annotations are. -/
def annotationsAt : List String := ["metadata", "annotations"]

/-- Where the labels are. -/
def labelsAt : List String := ["metadata", "labels"]

/-- The annotations that are set one after another. -/
def annotationsSet (c : InKubeConfig) (data : String) : List (String × String) :=
  c.annotation?.toList.map (fun k => (k, data)) ++ c.overlay data MarkerPolicy.annotations

/-- The labels that are set one after another. -/
def labelsSet (c : InKubeConfig) (data : String) : List (String × String) :=
  c.label?.toList.map (fun k => (k, data)) ++ c.overlay data MarkerPolicy.labels

/-- The document has every annotation and every label that is set. -/
structure HasPlaces (c : InKubeConfig) (data : String) (o : Value) : Prop where
  annotations : ∀ p ∈ c.annotationsSet data, (o.member? (annotationsAt ++ [p.1])).isSome = true
  labels : ∀ p ∈ c.labelsSet data, (o.member? (labelsAt ++ [p.1])).isSome = true

/-- The value of a key: that of the first policy for the data, if it has the key, and otherwise the
data for the configured key. -/
def valueOf? (c : InKubeConfig) (data : String) (part : MarkerPolicy → List (String × String))
    (configured : Option String) (key : String) : Option String :=
  ((c.policies.find? fun p => p.state = data).bind fun p => (part p).reverse.lookup key).or
    (if configured = some key then some data else none)

/-- A place that is neither one of those that are set nor above or below one. -/
def Elsewhere (c : InKubeConfig) (data : String) (q : List String) : Prop :=
  (∀ p ∈ c.annotationsSet data, ¬ annotationsAt ++ [p.1] <+: q ∧ ¬ q <+: annotationsAt ++ [p.1]) ∧
  ∀ p ∈ c.labelsSet data, ¬ labelsAt ++ [p.1] <+: q ∧ ¬ q <+: labelsAt ++ [p.1]

/-- What data makes of a document. -/
structure Written (c : InKubeConfig) (data : String) (o after : Value) : Prop where
  /-- Each annotation has its value, and the others are left. -/
  annotations : ∀ key, after.member? (annotationsAt ++ [key]) =
    ((c.valueOf? data MarkerPolicy.annotations c.annotation? key).map Value.text).or
      (o.member? (annotationsAt ++ [key]))
  /-- Each label has its value, and the others are left. -/
  labels : ∀ key, after.member? (labelsAt ++ [key]) =
    ((c.valueOf? data MarkerPolicy.labels c.label? key).map Value.text).or
      (o.member? (labelsAt ++ [key]))
  /-- Nothing else changes. -/
  others : ∀ q, c.Elsewhere data q → after.member? q = o.member? q

/-- A document with the annotations and the labels set. -/
def write (c : InKubeConfig) (data : String) (o : Value) : Value :=
  (o.setTexts annotationsAt (c.annotationsSet data)).setTexts labelsAt (c.labelsSet data)

/-! ### Replacing -/

theorem ofTokens_metadata {part : String} :
    Pointer.ofTokens ["metadata", part, key] =
      "/metadata/" ++ Pointer.escape part ++ "/" ++ Pointer.escape key := by
  have plain : "/metadata/" = "/" ++ Pointer.escape "metadata" ++ "/" := by decide
  rw [plain]
  simp [Pointer.ofTokens, String.append_assoc]

theorem annotationPath_eq : annotationPath key = Pointer.ofTokens (annotationsAt ++ [key]) := by
  have plain : "/metadata/" ++ Pointer.escape "annotations" ++ "/" = "/metadata/annotations/" := by
    decide
  exact (ofTokens_metadata.trans (congrArg (· ++ Pointer.escape key) plain)).symm

theorem labelPath_eq : labelPath key = Pointer.ofTokens (labelsAt ++ [key]) := by
  have plain : "/metadata/" ++ Pointer.escape "labels" ++ "/" = "/metadata/labels/" := by decide
  exact (ofTokens_metadata.trans (congrArg (· ++ Pointer.escape key) plain)).symm

/-- The replacements of texts at a place. -/
def replacements (path : List String) (texts : List (String × String)) : List PatchOperation :=
  texts.map fun p => .replaceText (Pointer.ofTokens (path ++ [p.1])) p.2

/-- The operations: the configured keys, then those of the active policy. -/
theorem targetOperations_eq (h : c.path? = none) :
    c.targetOperations data =
      replacements annotationsAt (c.annotation?.toList.map fun k => (k, data)) ++
      replacements labelsAt (c.label?.toList.map fun k => (k, data)) ++
      replacements annotationsAt (c.overlay data MarkerPolicy.annotations) ++
      replacements labelsAt (c.overlay data MarkerPolicy.labels) := by
  simp [targetOperations, replacements, h, annotationPath_eq, labelPath_eq, Function.comp_def]

theorem targetOperations_eq_nil (h : c.path? = none) :
    c.targetOperations data = [] ↔ c.annotationsSet data = [] ∧ c.labelsSet data = [] := by
  simp only [targetOperations_eq h, replacements, annotationsSet, labelsSet,
    List.append_eq_nil_iff, List.map_eq_nil_iff]
  tauto

theorem replaceAll?_targetOperations (h : c.path? = none) (places : c.HasPlaces data o) :
    PatchOperation.replaceAll? (c.targetOperations data) o = some (c.write data o) := by
  obtain ⟨annotations, labels⟩ := places
  simp only [annotationsSet, labelsSet, List.forall_mem_append] at annotations labels
  have keeps {v : Value} {path texts} {q : List String} (length : q.length = path.length + 1)
      (there : (v.member? q).isSome = true) :
      ((v.setTexts path texts).member? q).isSome = true :=
    Value.isSome_member?_setTexts length there
  simp only [targetOperations_eq h, Value.replaceAll?_append, replacements]
  rw [Value.replaceAll?_eq_setTexts annotations.1, Option.bind_some,
    Value.replaceAll?_eq_setTexts fun p mem => keeps rfl (labels.1 p mem), Option.bind_some,
    Value.replaceAll?_eq_setTexts fun p mem => keeps rfl (keeps rfl (annotations.2 p mem)),
    Option.bind_some,
    Value.replaceAll?_eq_setTexts fun p mem => keeps rfl (keeps rfl (keeps rfl (labels.2 p mem)))]
  -- the annotations of the policy may as well be set before the configured label
  have swap {v : Value} {texts further} :
      (v.setTexts labelsAt texts).setTexts annotationsAt further =
        (v.setTexts annotationsAt further).setTexts labelsAt texts :=
    @Value.setTexts_comm v "annotations" "labels" ["metadata"] _ _ (by decide)
  rw [swap, Value.setTexts_setTexts, Value.setTexts_setTexts]
  rfl

/-! ### Merging -/

theorem metadataPart_members {name : String} {texts : List (String × String)} :
    metadataPart name (Value.members texts) =
      if texts = [] then [] else [(name, Value.ofTexts texts)] := by
  have gathered : Value.ofTexts (Value.members texts) = Value.ofTexts texts := by
    simp only [Value.ofTexts, Value.ofPairs, Value.members_map, Value.members_members]
  simp only [metadataPart, gathered, List.isEmpty_iff, Value.members_eq_nil]

theorem podPatch?_eq :
    c.podPatch? data =
      if c.annotationsSet data = [] then
        if c.labelsSet data = [] then none
        else some (Value.nest labelsAt (Value.ofTexts (c.labelsSet data)))
      else if c.labelsSet data = [] then
        some (Value.nest annotationsAt (Value.ofTexts (c.annotationsSet data)))
      else some (Value.nest ["metadata"] (.object
        [("annotations", Value.ofTexts (c.annotationsSet data)),
          ("labels", Value.ofTexts (c.labelsSet data))])) := by
  have annotations : c.annotationsFor data = Value.members (c.annotationsSet data) := rfl
  have labels : c.labelsFor data = Value.members (c.labelsSet data) := rfl
  simp only [podPatch?, annotations, labels, metadataPart_members]
  by_cases noAnnotations : c.annotationsSet data = [] <;> by_cases noLabels : c.labelsSet data = []
  · simp [noAnnotations, noLabels]
  · simp [noAnnotations, noLabels, Value.nest, labelsAt, Value.ofPairs, Value.members,
      Value.insertMember]
  · simp [noAnnotations, noLabels, Value.nest, annotationsAt, Value.ofPairs, Value.members,
      Value.insertMember]
  · have sorted : ¬ "labels" < "annotations" := by decide
    simp [noAnnotations, noLabels, Value.nest, Value.ofPairs, Value.members, Value.insertMember,
      sorted]

theorem podPatch?_eq_none :
    c.podPatch? data = none ↔ c.annotationsSet data = [] ∧ c.labelsSet data = [] := by
  rw [podPatch?_eq]
  split <;> split <;> simp_all

/-- Merging the patch of the pod sets the annotations and the labels. -/
theorem merge_podPatch? : (c.podPatch? data).elim o o.merge = c.write data o := by
  rw [podPatch?_eq, write]
  by_cases noAnnotations : c.annotationsSet data = [] <;> by_cases noLabels : c.labelsSet data = []
  · simp [noAnnotations, noLabels]
  · simp [noAnnotations, noLabels, Value.merge_nest_ofTexts, Value.setTexts_of_ne_nil]
  · simp [noAnnotations, noLabels, Value.merge_nest_ofTexts, Value.setTexts_of_ne_nil]
  · have both : o.merge (Value.nest ["metadata"] (.object
        ([("annotations", Value.ofTexts (c.annotationsSet data))] ++
          [("labels", Value.ofTexts (c.labelsSet data))]))) =
        (o.merge (Value.nest annotationsAt (Value.ofTexts (c.annotationsSet data)))).merge
          (Value.nest labelsAt (Value.ofTexts (c.labelsSet data))) := Value.merge_nest_append
    simpa [noAnnotations, noLabels, Value.merge_nest_ofTexts, Value.setTexts_of_ne_nil] using both

/-! ### Both -/

theorem lookup_set {part : MarkerPolicy → List (String × String)} {configured : Option String} :
    (configured.toList.map (fun k => (k, data)) ++ c.overlay data part).reverse.lookup key =
      c.valueOf? data part configured key := by
  have own : (configured.toList.map fun k => (k, data)).reverse.lookup key =
      if configured = some key then some data else none := by
    cases configured with
    | none => rfl
    | some k =>
      by_cases same : key = k
      · simp [same]
      · simp [List.lookup_cons, beq_eq_false_iff_ne.2 same, Ne.symm same]
  rw [List.reverse_append, List.lookup_append, own, valueOf?, overlay, policy?]
  cases c.policies.find? fun p => p.state = data <;> rfl

theorem written_write : c.Written data o (c.write data o) where
  annotations key := by
    have apart : ∀ p ∈ c.labelsSet data, ¬ labelsAt ++ [p.1] <+: annotationsAt ++ [key] ∧
        ¬ annotationsAt ++ [key] <+: labelsAt ++ [p.1] := by
      simp [annotationsAt, labelsAt]
    rw [write, Value.member?_setTexts_of_apart apart, Value.member?_setTexts, annotationsSet,
      lookup_set]
  labels key := by
    have apart : ∀ p ∈ c.annotationsSet data, ¬ annotationsAt ++ [p.1] <+: labelsAt ++ [key] ∧
        ¬ labelsAt ++ [key] <+: annotationsAt ++ [p.1] := by
      simp [annotationsAt, labelsAt]
    rw [write, Value.member?_setTexts, Value.member?_setTexts_of_apart apart, labelsSet, lookup_set]
  others q elsewhere := by
    rw [write, Value.member?_setTexts_of_apart elsewhere.2,
      Value.member?_setTexts_of_apart elsewhere.1]

/-- **Replacing and merging agree**, and neither does anything exactly when the other does not. -/
theorem patches_agree (h : c.path? = none) :
    (c.podPatch? data = none ↔ c.targetOperations data = []) ∧
    ∀ o, c.HasPlaces data o →
      ∃ after, PatchOperation.replaceAll? (c.targetOperations data) o = some after ∧
        (c.podPatch? data).elim o o.merge = after ∧ c.Written data o after :=
  ⟨podPatch?_eq_none.trans (targetOperations_eq_nil h).symm, fun _ places =>
    ⟨_, replaceAll?_targetOperations h places, merge_podPatch?, written_write⟩⟩

/-! ### A policy that has the configured key -/

/-- A configured key with a slash, and two policies for one state, the first of which has the
key. -/
def disputed : InKubeConfig where
  target := none
  jsonPath := none
  annotationKey := some "example.com/state"
  labelKey := some "state"
  policies := [
    { state := "Up", labels := [("~", "1")],
      annotations := [("example.com/state", "ready"), ("~1", "2")] },
    { state := "Up", labels := [("state", "late")], annotations := [("late", "3")] }]

/-- An object that has the places of `disputed`. -/
def marked : Value := .object [
  ("metadata", .object [
    ("annotations", .object [
      ("example.com/state", .text ""), ("kept", .text "yes"), ("~1", .null)]),
    ("labels", .object [("state", .text "Down"), ("~", .text "0")]),
    ("name", .text "server-0")]),
  ("spec", .list [.int 1])]

theorem patches_agree_disputed :
    disputed.path? = none ∧ disputed.HasPlaces "Up" marked ∧
      ∃ after,
        PatchOperation.replaceAll? (disputed.targetOperations "Up") marked = some after ∧
          (disputed.podPatch? "Up").elim marked marked.merge = after ∧
          disputed.Written "Up" marked after := by
  have places : disputed.HasPlaces "Up" marked := ⟨by decide, by decide⟩
  exact ⟨rfl, places, (patches_agree rfl).2 marked places⟩

end Sidecar.InKubeConfig
