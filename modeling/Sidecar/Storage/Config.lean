import Sidecar.Node

/-!
# Where results are stored

A result is written into the cluster (`InKubeConfig`), onto the pod that the sidecar runs in and
perhaps onto a further object, or it is shown as a gauge (`GaugeConfig`).  `StorageConfig` is
either of the two, with the tag of its `StorageKind`.

Each type has its reading from a tree (`ofNode?`) and its writing as a value (`toValue`) side by
side; `validate` says whether a configuration can be used.
-/

namespace Sidecar

/-- The kinds of storage. -/
inductive StorageKind where
  /-- Patches of the pod and of further objects. -/
  | inKube
  /-- Gauges. -/
  | gauge
  deriving DecidableEq, Repr, Inhabited

namespace StorageKind

/-- The tag of a kind. -/
def tag : StorageKind → String
  | .inKube => "InKube"
  | .gauge => "HTTPMetric"

/-- The kind of a tag. -/
def ofTag? (s : String) : Option StorageKind :=
  if s = "InKube" then some .inKube
  else if s = "HTTPMetric" then some .gauge
  else none

end StorageKind

/-- The coordinates of an object to patch; the namespace and the name may be templates. -/
structure TargetConfig where
  /-- The API group, empty for the core group. -/
  group : String
  version : String
  /-- The plural name of the kind of object. -/
  resource : String
  /-- The namespace. -/
  ns : String
  name : String
  /-- The object owns the pod: it is in the pod's namespace unless it says otherwise. -/
  isPodOwner : Bool
  deriving DecidableEq, Repr, Inhabited

namespace TargetConfig

/-- The reading of a target. -/
def ofNode? (n : Node) : Option TargetConfig := do
  let r ← n.record? ["group", "version", "resource", "namespace", "name", "isPodOwner"] []
  let group ← r.defaulting "group" Node.text? ""
  let version ← r.defaulting "version" Node.text? ""
  let resource ← r.defaulting "resource" Node.text? ""
  let ns ← r.defaulting "namespace" Node.text? ""
  let name ← r.defaulting "name" Node.text? ""
  let isPodOwner ← r.defaulting "isPodOwner" Node.bool? false
  return { group, version, resource, ns, name, isPodOwner }

/-- A target as a value. -/
def toValue (t : TargetConfig) : Value :=
  Value.ofPairs [
    ("group", .text t.group), ("version", .text t.version), ("resource", .text t.resource),
    ("namespace", .text t.ns), ("name", .text t.name), ("isPodOwner", .bool t.isPodOwner)]

end TargetConfig

/-- Labels and annotations that are set while the data is a certain state. -/
structure MarkerPolicy where
  /-- The data for which the policy is active. -/
  state : String
  /-- Sorted by key. -/
  labels : List (String × String)
  /-- Sorted by key. -/
  annotations : List (String × String)
  deriving DecidableEq, Repr, Inhabited

namespace MarkerPolicy

/-- The reading of a policy. -/
def ofNode? (n : Node) : Option MarkerPolicy := do
  let r ← n.record? ["state", "labels", "annotations"] []
  let state ← r.required "state" Node.text?
  let labels ← r.defaulting "labels" (Node.table? Node.text?) []
  let annotations ← r.defaulting "annotations" (Node.table? Node.text?) []
  return { state, labels, annotations }

/-- A policy as a value. -/
def toValue (p : MarkerPolicy) : Value :=
  Value.ofPairs [
    ("state", .text p.state), ("labels", Value.ofTexts p.labels),
    ("annotations", Value.ofTexts p.annotations)]

end MarkerPolicy

/-- Why a storage configuration cannot be used. -/
inductive InvalidStorage where
  /-- Nothing says what to write. -/
  | writesNowhere
  /-- A field of the target that has to be set is empty. -/
  | emptyTargetField (field : String)
  | emptyMetricName
  /-- A configuration for the other kind of storage. -/
  | wrongKind (storage config : StorageKind)
  deriving DecidableEq, Repr

/-- The reason in words. -/
def InvalidStorage.reason : InvalidStorage → String
  | .writesNowhere => "one of jsonPath, annotationKey, labelKey or markerPolicies must be set"
  | .emptyTargetField field => "target " ++ field ++ " cannot be empty"
  | .emptyMetricName => "metricName cannot be empty"
  | .wrongKind storage config =>
    storage.tag ++ " storage cannot store " ++ config.tag ++ " config"

namespace TargetConfig

/-- What is wrong with a target. -/
def invalid? (t : TargetConfig) : Option InvalidStorage :=
  if t.version = "" then some (.emptyTargetField "version")
  else if t.resource = "" then some (.emptyTargetField "resource")
  else if t.name = "" then some (.emptyTargetField "name")
  else none

end TargetConfig

/-- How results are written into the cluster.  An empty key or path counts as none. -/
structure InKubeConfig where
  /-- A further object to patch besides the pod. -/
  target : Option TargetConfig
  /-- Where the data goes on the further object. -/
  jsonPath : Option String
  /-- The annotation that receives the data. -/
  annotationKey : Option String
  /-- The label that receives the data. -/
  labelKey : Option String
  /-- Of the policies for one state the first counts. -/
  policies : List MarkerPolicy
  deriving DecidableEq, Repr, Inhabited

namespace InKubeConfig

/-- The reading of a cluster storage configuration. -/
def ofNode? (n : Node) : Option InKubeConfig := do
  let r ← n.record? ["target", "jsonPath", "annotationKey", "labelKey", "markerPolicies"]
    [("markerPolices", "markerPolicies")]
  let target ← r.optional "target" TargetConfig.ofNode?
  let jsonPath ← r.optional "jsonPath" Node.text?
  let annotationKey ← r.optional "annotationKey" Node.text?
  let labelKey ← r.optional "labelKey" Node.text?
  let policies ← r.defaulting "markerPolicies" (Node.list? MarkerPolicy.ofNode?) []
  return { target, jsonPath, annotationKey, labelKey, policies }

/-- A field that is written only when it is there. -/
def present (field : String) (v : Option Value) : List (String × Value) :=
  (v.map fun v => (field, v)).toList

/-- A cluster storage configuration as a value. -/
def toValue (c : InKubeConfig) : Value :=
  Value.ofPairs (
    present "target" (c.target.map TargetConfig.toValue) ++
    present "jsonPath" (c.jsonPath.map .text) ++
    present "annotationKey" (c.annotationKey.map .text) ++
    present "labelKey" (c.labelKey.map .text) ++
    if c.policies.isEmpty then []
    else [("markerPolicies", .list (c.policies.map MarkerPolicy.toValue))])

/-- The annotation that receives the data. -/
def annotation? (c : InKubeConfig) : Option String := c.annotationKey.filter (· != "")

/-- The label that receives the data. -/
def label? (c : InKubeConfig) : Option String := c.labelKey.filter (· != "")

/-- The path that receives the data. -/
def path? (c : InKubeConfig) : Option String := c.jsonPath.filter (· != "")

/-- The policy that is active for a state. -/
def policy? (c : InKubeConfig) (state : String) : Option MarkerPolicy :=
  c.policies.find? fun p => p.state = state

/-- What is wrong with a cluster storage configuration. -/
def invalid? (c : InKubeConfig) : Option InvalidStorage :=
  if c.annotation?.isNone ∧ c.label?.isNone ∧ c.path?.isNone ∧ c.policies.isEmpty then
    some .writesNowhere
  else c.target.bind TargetConfig.invalid?

end InKubeConfig

/-- How results are shown as a gauge. -/
structure GaugeConfig where
  /-- The name of the gauge. -/
  metricName : String
  deriving DecidableEq, Repr, Inhabited

namespace GaugeConfig

/-- The reading of a gauge configuration. -/
def ofNode? (n : Node) : Option GaugeConfig := do
  let r ← n.record? ["metricName"] []
  let metricName ← r.required "metricName" Node.text?
  return { metricName }

/-- A gauge configuration as a value. -/
def toValue (c : GaugeConfig) : Value := Value.ofPairs [("metricName", .text c.metricName)]

/-- What is wrong with a gauge configuration. -/
def invalid? (c : GaugeConfig) : Option InvalidStorage :=
  if c.metricName = "" then some .emptyMetricName else none

end GaugeConfig

/-- How results are stored. -/
inductive StorageConfig where
  | inKube (c : InKubeConfig)
  | gauge (c : GaugeConfig)
  deriving DecidableEq, Repr

namespace StorageConfig

/-- The kind of storage that a configuration is for. -/
def kind : StorageConfig → StorageKind
  | .inKube _ => .inKube
  | .gauge _ => .gauge

/-- The fields of a variant, which has but one of its own. -/
def variant? (field : String) (read : Node → Option α) (n : Node) : Option α := do
  let r ← n.record? [field] []
  r.required field read

/-- The configuration of a kind. -/
def ofKind? (kind : StorageKind) (n : Node) : Option StorageConfig :=
  match kind with
  | .inKube => (variant? "inKube" InKubeConfig.ofNode? n).map .inKube
  | .gauge => (variant? "httpMetric" GaugeConfig.ofNode? n).map .gauge

/-- The kind that a tag names. -/
def kindOfTag? (n : Node) : Option StorageKind := n.text?.bind StorageKind.ofTag?

/-- Split the entry of the tag off a table, which has exactly one. -/
def takeTag? : List (Node × Node) → Option (Option Node × List (Node × Node))
  | [] => some (none, [])
  | (.text "type", n) :: es =>
    match takeTag? es with
    | some (none, rest) => some (some n, rest)
    | _ => none
  | e :: es => (takeTag? es).map fun (tag, rest) => (tag, e :: rest)

/-- The reading of a storage configuration: a table with a tag among its entries, or a list that
begins with the tag. -/
def ofNode? : Node → Option StorageConfig
  | .table es =>
    match takeTag? es with
    | some (some tag, rest) => (kindOfTag? tag).bind fun k => ofKind? k (.table rest)
    | _ => none
  | .list (tag :: rest) => (kindOfTag? tag).bind fun k => ofKind? k (.list rest)
  | _ => none

/-- A storage configuration as a value. -/
def toValue (c : StorageConfig) : Value :=
  Value.ofPairs [("type", .text c.kind.tag),
    match c with
    | .inKube c => ("inKube", c.toValue)
    | .gauge c => ("httpMetric", c.toValue)]

/-- What is wrong with a storage configuration. -/
def invalid? : StorageConfig → Option InvalidStorage
  | .inKube c => c.invalid?
  | .gauge c => c.invalid?

end StorageConfig

end Sidecar
