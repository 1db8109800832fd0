import Mathlib.Data.List.Nodup
import Sidecar.Proofs.Node.Record
import Sidecar.Storage.Config

/-!
# Storage configurations that are read back

A storage configuration is read back from the value that it is written as
(`StorageConfig.Sound.ofNode?_toValue`), and whatever is read is sound
(`StorageConfig.sound_ofNode?`), so it is read back as well.  The text of that value is read as its
tree wherever it stands less than five levels above the limit (`StorageConfig.legible_toValue`).

A field that is left out when there is nothing to say (`InKubeConfig.present`) is missing when it is
read, which means the same; a field that is written as null is read as nothing.  The tag of a
variant stands among its fields.
-/

namespace Sidecar

variable {depth : Nat}

/-! ### Targets -/

theorem TargetConfig.legible_toValue {t : TargetConfig} :
    Json.Legible .any (depth + 1) t.toValue := by
  refine .ofPairs ?_
  simp only [List.forall_mem_cons]
  exact ⟨.text, .text, .text, .text, .text, .bool, nofun⟩

theorem TargetConfig.ofNode?_toValue {t : TargetConfig} :
    ofNode? (Node.ofValue t.toValue) = some t := by
  let fields : List (String × Value) := [
    ("group", .text t.group), ("version", .text t.version), ("resource", .text t.resource),
    ("namespace", .text t.ns), ("name", .text t.name), ("isPodOwner", .bool t.isPodOwner)]
  have distinct : (fields.map Prod.fst).Nodup := by
    change ["group", "version", "resource", "namespace", "name", "isPodOwner"].Nodup
    decide
  obtain ⟨r, record, found⟩ := Arrangement.sorted.record?_arrange distinct
  have record : (Node.ofValue t.toValue).record?
      ["group", "version", "resource", "namespace", "name", "isPodOwner"] [] = some r := record
  simp only [fields, List.forall_mem_cons] at found
  obtain ⟨group, version, resource, ns, name, isPodOwner, -⟩ := found
  simp [ofNode?, record, Record.defaulting, group, version, resource, ns, name, isPodOwner,
    Node.text?_ofValue, Node.bool?_ofValue]

/-! ### Policies -/

/-- What a policy keeps to. -/
structure MarkerPolicy.Sound (p : MarkerPolicy) : Prop where
  labels : Value.Ordered p.labels
  annotations : Value.Ordered p.annotations

theorem Node.ordered_defaulting_table? {α : Type} {read : Node → Option α} {r : Record}
    {field : String} {ps : List (String × α)}
    (h : r.defaulting field (Node.table? read) [] = some ps) : Value.Ordered ps := by
  rcases Record.defaulting_eq_some h with rfl | ⟨m, -, table⟩
  · exact List.Pairwise.nil
  · exact ordered_table? table

namespace MarkerPolicy

variable {p : MarkerPolicy} {n : Node}

theorem sound_ofNode? (read : ofNode? n = some p) : p.Sound := by
  simp only [ofNode?, Option.bind_eq_bind, Option.bind_eq_some_iff] at read
  obtain ⟨r, -, state, -, labels, first, annotations, second, ⟨⟩⟩ := read
  exact ⟨Node.ordered_defaulting_table? first, Node.ordered_defaulting_table? second⟩

theorem legible_toValue : Json.Legible .any (depth + 2) p.toValue := by
  refine .ofPairs ?_
  simp only [List.forall_mem_cons]
  exact ⟨.text, .ofTexts, .ofTexts, nofun⟩

theorem Sound.ofNode?_toValue (sound : p.Sound) : ofNode? (Node.ofValue p.toValue) = some p := by
  let fields : List (String × Value) := [
    ("state", .text p.state), ("labels", Value.ofTexts p.labels),
    ("annotations", Value.ofTexts p.annotations)]
  have distinct : (fields.map Prod.fst).Nodup := by
    change ["state", "labels", "annotations"].Nodup
    decide
  obtain ⟨r, record, found⟩ := Arrangement.sorted.record?_arrange distinct
  have record : (Node.ofValue p.toValue).record? ["state", "labels", "annotations"] [] = some r :=
    record
  simp only [fields, List.forall_mem_cons] at found
  obtain ⟨state, labels, annotations, -⟩ := found
  simp [ofNode?, record, Record.required, Record.defaulting, state, labels, annotations,
    Node.text?_ofValue, Node.table?_ofTexts sound.labels, Node.table?_ofTexts sound.annotations]

end MarkerPolicy

/-! ### The cluster -/

/-- What a cluster storage configuration keeps to. -/
def InKubeConfig.Sound (c : InKubeConfig) : Prop := ∀ p ∈ c.policies, p.Sound

namespace InKubeConfig

variable {c : InKubeConfig} {n : Node} {field : String} {v : Option Value}
  {declared : List (String × Option Value)}

/-- The declared fields, each with what is written for it, if anything is. -/
def fields (c : InKubeConfig) : List (String × Option Value) :=
  [("target", c.target.map TargetConfig.toValue), ("jsonPath", c.jsonPath.map .text),
    ("annotationKey", c.annotationKey.map .text), ("labelKey", c.labelKey.map .text),
    ("markerPolicies",
      if c.policies.isEmpty then none else some (.list (c.policies.map MarkerPolicy.toValue)))]

/-- The fields that are written. -/
def written (declared : List (String × Option Value)) : List (String × Value) :=
  declared.flatMap fun p => present p.1 p.2

theorem toValue_eq : c.toValue = .object (Arrangement.sorted.arrange (written c.fields)) := by
  have policies : present "markerPolicies"
      (if c.policies.isEmpty then none else some (.list (c.policies.map MarkerPolicy.toValue))) =
        if c.policies.isEmpty then []
        else [("markerPolicies", .list (c.policies.map MarkerPolicy.toValue))] := by
    split <;> rfl
  simp only [written, fields, List.flatMap_cons, List.flatMap_nil, List.append_nil, policies]
  simp only [← List.append_assoc]
  rfl

theorem written_sublist : ((written declared).map Prod.fst).Sublist (declared.map Prod.fst) := by
  induction declared with
  | nil => exact .refl _
  | cons p declared ih =>
    obtain ⟨field, v⟩ := p
    rw [written, List.flatMap_cons, List.map_append]
    cases v with
    | none => exact ih.cons _
    | some v => exact ih.cons_cons _

theorem lookup_written (distinct : (declared.map Prod.fst).Nodup) :
    (written declared).lookup field = (declared.lookup field).join := by
  induction declared with
  | nil => rfl
  | cons p declared ih =>
    obtain ⟨other, v⟩ := p
    obtain ⟨new, distinct⟩ := List.nodup_cons.1 distinct
    have ih := ih distinct
    rw [written] at ih
    rw [written, List.flatMap_cons, List.lookup_append, ih, List.lookup_cons]
    have own : (present other v).lookup field = if field = other then v else none := by
      cases v with
      | none => simp [present]
      | some v =>
        rw [present, Option.map_some, Option.toList_some, List.lookup_cons]
        by_cases same : field = other
        · rw [beq_iff_eq.2 same, if_pos same]
        · rw [beq_eq_false_iff_ne.2 same, if_neg same, List.lookup_nil]
    rw [own]
    by_cases same : field = other
    · have absent : declared.lookup other = none :=
        List.lookup_eq_none_iff.2 fun p mem => bne_iff_ne.2 fun same =>
          new (List.mem_map.2 ⟨p, mem, same.symm⟩)
      simp [same, absent]
    · rw [beq_eq_false_iff_ne.2 same, if_neg same, Option.none_or]

theorem sound_ofNode? (read : ofNode? n = some c) : c.Sound := by
  simp only [ofNode?, Option.bind_eq_bind, Option.bind_eq_some_iff] at read
  obtain ⟨r, -, target, -, jsonPath, -, annotationKey, -, labelKey, -, policies, read, ⟨⟩⟩ := read
  rcases Record.defaulting_eq_some read with rfl | ⟨m, -, list⟩
  · exact List.forall_mem_nil _
  · intro p mem
    cases m with
    | list ns =>
      obtain ⟨k, -, own⟩ := exists_of_mem_mapM list mem
      exact MarkerPolicy.sound_ofNode? own
    | _ => cases list

theorem legible_toValue : Json.Legible .any (depth + 4) c.toValue := by
  rw [toValue_eq]
  refine .ofPairs fun p mem => ?_
  obtain ⟨⟨field, v⟩, declared, own⟩ := List.mem_flatMap.1 mem
  obtain ⟨w, rfl, rfl⟩ : ∃ w, v = some w ∧ p = (field, w) := by
    obtain ⟨w, there, rfl⟩ := Option.map_eq_some_iff.1 (Option.mem_toList.1 own)
    exact ⟨w, there, rfl⟩
  have optional {α : Type} {a : Option α} {write : α → Value} (h : a.map write = some w)
      (each : ∀ a, Json.Legible .any (depth + 3) (write a)) : Json.Legible .any (depth + 3) w := by
    obtain ⟨a, -, rfl⟩ := Option.map_eq_some_iff.1 h
    exact each a
  simp only [fields, List.mem_cons, Prod.mk.injEq, List.not_mem_nil, or_false] at declared
  obtain ⟨-, h⟩ | ⟨-, h⟩ | ⟨-, h⟩ | ⟨-, h⟩ | ⟨-, h⟩ := declared
  · exact optional h.symm fun t => TargetConfig.legible_toValue
  · exact optional h.symm fun _ => .text
  · exact optional h.symm fun _ => .text
  · exact optional h.symm fun _ => .text
  · split at h
    · cases h
    · cases h
      refine .list rfl fun v mem => ?_
      obtain ⟨p, -, rfl⟩ := List.mem_map.1 mem
      exact MarkerPolicy.legible_toValue

/-- **A cluster storage configuration is read back.** -/
theorem Sound.ofNode?_toValue (sound : c.Sound) : ofNode? (Node.ofValue c.toValue) = some c := by
  have distinct : (c.fields.map Prod.fst).Nodup := by
    change ["target", "jsonPath", "annotationKey", "labelKey", "markerPolicies"].Nodup
    decide
  have known : ∀ p ∈ written c.fields,
      p.1 ∈ ["target", "jsonPath", "annotationKey", "labelKey", "markerPolicies"] ∧
        [("markerPolices", "markerPolicies")].lookup p.1 = none := by
    intro p mem
    have unaliased : ∀ k ∈ ["target", "jsonPath", "annotationKey", "labelKey", "markerPolicies"],
        [("markerPolices", "markerPolicies")].lookup k = none := by decide
    have declared := written_sublist.subset (List.mem_map_of_mem mem)
    exact ⟨declared, unaliased _ declared⟩
  obtain ⟨r, record, found⟩ := Arrangement.sorted.record?_of_known
    (List.Nodup.sublist written_sublist distinct) known
  rw [← toValue_eq] at record
  simp only [lookup_written distinct] at found
  have target : r.optional "target" TargetConfig.ofNode? = some c.target :=
    Record.optional_of_lookup (found _) fun t => ⟨nofun, TargetConfig.ofNode?_toValue⟩
  have text {field : String} {t : Option String}
      (found : r.lookup field = (t.map .text).map Node.ofValue) :
      r.optional field Node.text? = some t :=
    Record.optional_of_lookup found fun s => ⟨nofun, Node.text?_ofValue⟩
  have policies : r.defaulting "markerPolicies" (Node.list? MarkerPolicy.ofNode?) [] =
      some c.policies := by
    have found : r.lookup "markerPolicies" = (if c.policies.isEmpty then none
        else some (.list (c.policies.map MarkerPolicy.toValue))).map Node.ofValue := found _
    rw [Record.defaulting, found]
    by_cases none : c.policies = []
    · simp [none]
    · simp only [List.isEmpty_iff, none, if_false, Option.map_some]
      exact Node.mapM_ofItems fun p mem => (sound p mem).ofNode?_toValue
  simp only [ofNode?, record, target, text (found "jsonPath"), text (found "annotationKey"),
    text (found "labelKey"), policies, Option.bind_eq_bind, Option.bind_some]
  rfl

end InKubeConfig

/-! ### Gauges -/

theorem GaugeConfig.ofNode?_toValue {c : GaugeConfig} :
    ofNode? (Node.ofValue c.toValue) = some c := rfl

theorem GaugeConfig.legible_toValue {c : GaugeConfig} :
    Json.Legible .any (depth + 1) c.toValue := by
  refine .ofPairs ?_
  simp only [List.forall_mem_cons]
  exact ⟨.text, nofun⟩

/-! ### Either -/

namespace StorageConfig

variable {c : StorageConfig} {n : Node}

/-- What a storage configuration keeps to. -/
def Sound : StorageConfig → Prop
  | .inKube c => c.Sound
  | .gauge _ => True

theorem sound_ofKind? {kind : StorageKind} (read : ofKind? kind n = some c) : c.Sound := by
  cases kind with
  | inKube =>
    obtain ⟨k, variant, rfl⟩ := Option.map_eq_some_iff.1 read
    simp only [variant?, Option.bind_eq_bind, Option.bind_eq_some_iff, Record.required] at variant
    obtain ⟨r, -, own⟩ := variant
    split at own
    · exact InKubeConfig.sound_ofNode? own
    · cases own
  | gauge =>
    obtain ⟨k, -, rfl⟩ := Option.map_eq_some_iff.1 read
    trivial

theorem sound_ofNode? (read : ofNode? n = some c) : c.Sound := by
  unfold ofNode? at read
  split at read
  · split at read
    · obtain ⟨kind, -, read⟩ := Option.bind_eq_some_iff.1 read
      exact sound_ofKind? read
    · cases read
  · obtain ⟨kind, -, read⟩ := Option.bind_eq_some_iff.1 read
    exact sound_ofKind? read
  · cases read

theorem legible_toValue : Json.Legible .any (depth + 5) c.toValue := by
  refine .ofPairs ?_
  simp only [List.forall_mem_cons]
  cases c with
  | inKube c => exact ⟨.text, InKubeConfig.legible_toValue, nofun⟩
  | gauge c => exact ⟨.text, GaugeConfig.legible_toValue, nofun⟩

theorem members_tagged {field tag : String} {v : Value} (h : field < "type") :
    Value.members [("type", .text tag), (field, v)] = [(field, v), ("type", .text tag)] :=
  Value.insertMember_cons_of_lt h

/-- **A storage configuration is read back.** -/
theorem Sound.ofNode?_toValue (sound : c.Sound) : ofNode? (Node.ofValue c.toValue) = some c := by
  cases c with
  | inKube c =>
    have back : InKubeConfig.ofNode? (Node.ofValue c.toValue) = some c :=
      InKubeConfig.Sound.ofNode?_toValue sound
    have tree : Node.ofValue (toValue (.inKube c)) =
        .table [(.text "inKube", Node.ofValue c.toValue), (.text "type", .text "InKube")] := by
      simp only [toValue, Value.ofPairs]
      rw [members_tagged (by decide)]
      rfl
    rw [tree]
    simp [ofNode?, takeTag?, kindOfTag?, Node.text?, StorageKind.ofTag?, ofKind?, variant?,
      Node.record?, Record.gather, Record.fieldOf, Record.required, back]
  | gauge c =>
    have tree : Node.ofValue (toValue (.gauge c)) =
        .table
          [(.text "httpMetric", Node.ofValue c.toValue), (.text "type", .text "HTTPMetric")] := by
      simp only [toValue, Value.ofPairs]
      rw [members_tagged (by decide)]
      rfl
    rw [tree]
    simp [ofNode?, takeTag?, kindOfTag?, Node.text?, StorageKind.ofTag?, ofKind?, variant?,
      Node.record?, Record.gather, Record.fieldOf, Record.required, GaugeConfig.ofNode?_toValue]

end StorageConfig

end Sidecar
