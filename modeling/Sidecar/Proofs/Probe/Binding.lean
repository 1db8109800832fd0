import Sidecar.Probe.Config
import Sidecar.Proofs.Storage.Binding

/-!
# Probe configurations that are bound again

A probe configuration is sound if its numbers fit their widths and its headers, labels and
annotations are in byte order of their names (`Config.Sound`).  These are exactly the configurations
that binding can lead to:

* `Config.sound_ofNode?` : whatever is read is sound;
* `Config.Sound.ofNode?_toValue` : **what is sound is read back from the value that it is written
  as**, field by field;
* `Config.bind_toValue` : so binding undoes writing, and to write and bind again what was bound
  changes nothing.
-/

namespace Sidecar.Probe

variable {n : Node} {depth : Nat}

/-! ### Paths -/

theorem FieldType.ofName?_name : ∀ t : FieldType, ofName? t.name = some t := by
  intro t
  cases t <;> decide

namespace PathConfig

theorem legible_toValue {c : PathConfig} : Json.Legible .any (depth + 1) c.toValue := by
  refine .ofPairs ?_
  simp only [List.forall_mem_cons]
  refine ⟨.text, ?_, nofun⟩
  cases c.fieldType with
  | none => exact .null
  | some t => exact .text

theorem ofNode?_toValue {c : PathConfig} : ofNode? (Node.ofValue c.toValue) = some c := by
  let fields : List (String × Value) := [
    ("jsonPath", .text c.path), ("fieldType", Value.ofText? (c.fieldType.map FieldType.name))]
  have distinct : (fields.map Prod.fst).Nodup := by
    change ["jsonPath", "fieldType"].Nodup
    decide
  obtain ⟨r, record, found⟩ := Arrangement.sorted.record?_arrange distinct
  have record : (Node.ofValue c.toValue).record? ["jsonPath", "fieldType"] [] = some r := record
  simp only [fields, List.forall_mem_cons] at found
  obtain ⟨path, fieldType, -⟩ := found
  -- no type is written as null, which is read as none
  have read : (Node.ofValue (Value.ofText? (c.fieldType.map FieldType.name))).nullable?
      FieldType.ofNode? = some c.fieldType := by
    cases c.fieldType with
    | none => rfl
    | some t => exact congrArg (Option.map some) (FieldType.ofName?_name t)
  simp [ofNode?, record, Record.required, Record.optional, path, fieldType, read,
    Node.text?_ofValue]

end PathConfig

/-! ### Endpoints -/

/-- What an endpoint keeps to. -/
structure EndpointConfig.Sound (e : EndpointConfig) : Prop where
  headers : Value.Ordered e.headers
  timeout : e.timeout < Nat.pow 2 64
  expectedStatus : e.expectedStatus < Nat.pow 2 16
  storage : e.storage.Sound

theorem lt_of_defaulting {r : Record} {field : String} {limit default i : Nat}
    (h : r.defaulting field (Node.natBelow? limit) default = some i) (own : default < limit) :
    i < limit := by
  rcases Record.defaulting_eq_some h with rfl | ⟨m, -, read⟩
  · exact own
  · exact Node.lt_of_natBelow? read

namespace EndpointConfig

variable {e : EndpointConfig}

theorem sound_ofNode? (read : ofNode? n = some e) : e.Sound := by
  simp only [ofNode?, Option.bind_eq_bind, Option.bind_eq_some_iff] at read
  obtain ⟨r, -, url, -, method, -, headers, first, timeout, second, expectedStatus, third, storage,
    fourth, path, -, ⟨⟩⟩ := read
  refine ⟨Node.ordered_defaulting_table? first, lt_of_defaulting second (by decide),
    lt_of_defaulting third (by decide), ?_⟩
  unfold Record.required at fourth
  split at fourth
  · exact StorageConfig.sound_ofNode? fourth
  · cases fourth

theorem Sound.legible_toValue (sound : e.Sound) : Json.Legible .any (depth + 6) e.toValue := by
  have status : e.expectedStatus < Nat.pow 2 64 :=
    Nat.lt_trans sound.expectedStatus (by decide)
  refine .ofPairs ?_
  simp only [List.forall_mem_cons]
  refine ⟨.text, .text, .ofTexts, .natural sound.timeout, .natural status,
    StorageConfig.legible_toValue, ?_, nofun⟩
  cases e.path with
  | none => exact .null
  | some c => exact PathConfig.legible_toValue

/-- **An endpoint is read back.** -/
theorem Sound.ofNode?_toValue (sound : e.Sound) : ofNode? (Node.ofValue e.toValue) = some e := by
  let fields : List (String × Value) := [
    ("url", .text e.url), ("method", .text e.method), ("headers", Value.ofTexts e.headers),
    ("timeout", .int e.timeout), ("expectedStatusCode", .int e.expectedStatus),
    ("storageConfig", e.storage.toValue),
    ("jsonPathConfig", (e.path.map PathConfig.toValue).getD .null)]
  have distinct : (fields.map Prod.fst).Nodup := by
    change ["url", "method", "headers", "timeout", "expectedStatusCode", "storageConfig",
      "jsonPathConfig"].Nodup
    decide
  obtain ⟨r, record, found⟩ := Arrangement.sorted.record?_arrange distinct
  have record : (Node.ofValue e.toValue).record? ["url", "method", "headers", "timeout",
    "expectedStatusCode", "storageConfig", "jsonPathConfig"] [] = some r := record
  simp only [fields, List.forall_mem_cons] at found
  obtain ⟨url, method, headers, timeout, expectedStatus, storage, path, -⟩ := found
  have readTimeout : seconds? (Node.ofValue (.int e.timeout)) = some e.timeout := by
    rw [seconds?, Node.natBelow?_ofValue, if_pos sound.timeout]
  have readStatus : status? (Node.ofValue (.int e.expectedStatus)) = some e.expectedStatus := by
    rw [status?, Node.natBelow?_ofValue, if_pos sound.expectedStatus]
  have readPath : (Node.ofValue ((e.path.map PathConfig.toValue).getD .null)).nullable?
      PathConfig.ofNode? = some e.path := by
    cases e.path with
    | none => rfl
    | some c => exact congrArg (Option.map some) PathConfig.ofNode?_toValue
  simp [ofNode?, record, Record.required, Record.defaulting, Record.optional, url, method, headers,
    timeout, expectedStatus, storage, path, Node.text?_ofValue, Node.table?_ofTexts sound.headers,
    readTimeout, readStatus, sound.storage.ofNode?_toValue, readPath]

end EndpointConfig

/-! ### Configurations -/

/-- What a probe configuration keeps to. -/
structure Config.Sound (c : Config) : Prop where
  startDelay : c.startDelay < Nat.pow 2 64
  interval : c.interval < Nat.pow 2 64
  endpoints : ∀ e ∈ c.endpoints, e.Sound

namespace Config

variable {c : Config}

theorem sound_ofNode? (read : ofNode? n = some c) : c.Sound := by
  simp only [ofNode?, Option.bind_eq_bind, Option.bind_eq_some_iff] at read
  obtain ⟨r, -, startDelay, first, interval, second, endpoints, third, ⟨⟩⟩ := read
  refine ⟨lt_of_defaulting first (by decide), lt_of_defaulting second (by decide), ?_⟩
  rcases Record.defaulting_eq_some third with rfl | ⟨m, -, list⟩
  · exact List.forall_mem_nil _
  · intro e mem
    cases m with
    | list ns =>
      obtain ⟨k, -, own⟩ := exists_of_mem_mapM list mem
      exact EndpointConfig.sound_ofNode? own
    | _ => cases list

/-- **A probe configuration is read back.** -/
theorem Sound.ofNode?_toValue (sound : c.Sound) : ofNode? (Node.ofValue c.toValue) = some c := by
  let fields : List (String × Value) := [
    ("startDelaySeconds", .int c.startDelay), ("probeIntervalSeconds", .int c.interval),
    ("endpoints", .list (c.endpoints.map EndpointConfig.toValue))]
  have distinct : (fields.map Prod.fst).Nodup := by
    change ["startDelaySeconds", "probeIntervalSeconds", "endpoints"].Nodup
    decide
  obtain ⟨r, record, found⟩ := Arrangement.sorted.record?_arrange distinct
  have record : (Node.ofValue c.toValue).record?
    ["startDelaySeconds", "probeIntervalSeconds", "endpoints"] [] = some r := record
  simp only [fields, List.forall_mem_cons] at found
  obtain ⟨startDelay, interval, endpoints, -⟩ := found
  have readDelay : EndpointConfig.seconds? (Node.ofValue (.int c.startDelay)) =
      some c.startDelay := by
    rw [EndpointConfig.seconds?, Node.natBelow?_ofValue, if_pos sound.startDelay]
  have readInterval : EndpointConfig.seconds? (Node.ofValue (.int c.interval)) =
      some c.interval := by
    rw [EndpointConfig.seconds?, Node.natBelow?_ofValue, if_pos sound.interval]
  have readEndpoints : (Node.ofValue (.list (c.endpoints.map EndpointConfig.toValue))).list?
      EndpointConfig.ofNode? = some c.endpoints :=
    Node.mapM_ofItems fun e mem => (sound.endpoints e mem).ofNode?_toValue
  simp [ofNode?, record, Record.defaulting, startDelay, interval, endpoints, readDelay,
    readInterval, readEndpoints]

theorem sound_of_bind {source : Value} (h : binding.bind source = .ok c) : c.Sound := by
  unfold Binding.bind at h
  split at h
  · cases h
  · split at h
    · cases h
    · split at h
      · rename_i read
        cases h
        exact sound_ofNode? read
      · cases h

theorem Sound.bind_eq_ok (sound : c.Sound) : binding.bind c.toValue = .ok c := by
  have read : binding.read (Node.ofValue c.toValue) = some c := sound.ofNode?_toValue
  have structured : binding.structured = true := rfl
  have isObject : c.toValue.isObject = true := rfl
  simp [Binding.bind, read, structured, isObject]

theorem Sound.legible_toValue (sound : c.Sound) : Json.Legible .any (depth + 8) c.toValue := by
  refine .ofPairs ?_
  simp only [List.forall_mem_cons]
  refine ⟨.natural sound.startDelay, .natural sound.interval, .list rfl fun v mem => ?_, nofun⟩
  obtain ⟨e, there, rfl⟩ := List.mem_map.1 mem
  exact (sound.endpoints e there).legible_toValue

/-- **Binding undoes writing**: a configuration whose numbers fit their widths and whose tables are
in order is bound from its own value, the text of which is read as its tree.  **To write what was
bound and to bind it again changes nothing**, whatever it was bound from, and nor does it if the
binding failed. -/
theorem bind_toValue :
    (∀ c : Config, c.Sound → binding.bind c.toValue = .ok c ∧
      Json.read .any c.toValue.compact = some (Node.ofValue c.toValue)) ∧
    (∀ (source : Value) (c : Config), binding.bind source = .ok c → c.Sound) ∧
    ∀ source, (binding.bind source >>= fun c => binding.bind c.toValue) = binding.bind source := by
  refine ⟨fun c sound => ⟨sound.bind_eq_ok, sound.legible_toValue.read_compact⟩,
    fun _ _ => sound_of_bind, fun source => ?_⟩
  cases bound : binding.bind source with
  | error why => rfl
  | ok c => exact (pure_bind c _).trans (sound_of_bind bound).bind_eq_ok

/-- A probe of two endpoints, one of which is stored in the cluster, with a state for which labels
are set, and the other as a gauge. -/
def twoEndpoints : Config where
  startDelay := 0
  interval := Nat.pow 2 64 - 1
  endpoints := [
    { url := "http://a", method := "", headers := [("Accept", "*/*"), ("X-Probe", "1")]
      timeout := 2
      expectedStatus := Nat.pow 2 16 - 1
      storage := .inKube {
        target := some {
          group := "", version := "v1", resource := "widgets", ns := "", name := "${POD:OWNER}"
          isPodOwner := true }
        jsonPath := some "", annotationKey := none, labelKey := some "state"
        policies := [
          { state := "Failed", labels := [("a/b", "~"), ("tier", "")], annotations := [] }] }
      path := some { path := "status.state", fieldType := none } },
    { url := "", method := "POST", headers := [], timeout := 0, expectedStatus := 0
      storage := .gauge { metricName := "players" }
      path := some { path := "$", fieldType := some .float } }]

theorem bind_toValue_twoEndpoints : twoEndpoints.Sound ∧
    binding.bind twoEndpoints.toValue = .ok twoEndpoints ∧
    Json.read .any twoEndpoints.toValue.compact = some (Node.ofValue twoEndpoints.toValue) := by
  have sound : twoEndpoints.Sound := by
    refine ⟨by decide, by decide, ?_⟩
    simp only [twoEndpoints, List.forall_mem_cons]
    refine ⟨⟨?_, by decide, by decide, ?_⟩, ⟨.nil, by decide, by decide, trivial⟩, nofun⟩
    · exact List.pairwise_cons.2 ⟨by decide, List.pairwise_singleton _ _⟩
    · refine List.forall_mem_singleton.2 ⟨?_, .nil⟩
      exact List.pairwise_cons.2 ⟨by decide, List.pairwise_singleton _ _⟩
  exact ⟨sound, bind_toValue.1 twoEndpoints sound⟩

end Config

end Sidecar.Probe
