import Sidecar.Config.Environment
import Sidecar.Storage.Error
import Sidecar.Storage.Patch

/-!
# Objects in the cluster

`PodName` says which pod, `ObjectRef` which object of any kind; `Pod` is what the program looks at
of a pod.

`RecordingCluster` stands in for a cluster: it knows some pods, accepts patches without applying
them and keeps what it accepted.  It can be told to refuse the next patches as conflicting, or to
give out no pods.
-/

namespace Sidecar

/-- Which pod. -/
structure PodName where
  ns : String
  name : String
  deriving DecidableEq, Repr, Inhabited

namespace PodName

/-- A pod in words. -/
def render (p : PodName) : String := p.ns ++ "/" ++ p.name

/-- The pod that the environment says the program runs in. -/
def ofEnvironment (env : Environment) : Except StorageError PodName :=
  let ns := (env "POD_NAMESPACE").getD ""
  let name := (env "POD_NAME").getD ""
  if ns = "" ∨ name = "" then
    .error (.noCurrentPod "POD_NAMESPACE and POD_NAME must both be set")
  else .ok { ns, name }

end PodName

/-- A variable in the environment of a container; it may have no value. -/
structure ContainerVariable where
  name : String
  value : Option String
  deriving DecidableEq, Repr, Inhabited

/-- A container of a pod. -/
structure Container where
  name : String
  /-- Its environment, if it lists one. -/
  env : Option (List ContainerVariable)
  deriving DecidableEq, Repr, Inhabited

/-- What is looked at of a pod. -/
structure Pod where
  ns : Option String
  name : Option String
  /-- The first container, if there is one. -/
  container : Option Container
  deriving DecidableEq, Repr, Inhabited

/-- Which object of any kind. -/
structure ObjectRef where
  /-- The API group, empty for the core group. -/
  group : String
  version : String
  /-- The plural name of the kind of object. -/
  resource : String
  /-- The namespace, empty for an object that is in none. -/
  ns : String
  name : String
  deriving DecidableEq, Repr, Inhabited

namespace ObjectRef

/-- The API version with its group. -/
def apiVersion (o : ObjectRef) : String :=
  if o.group = "" then o.version else o.group ++ "/" ++ o.version

/-- An object in words. -/
def render (o : ObjectRef) : String :=
  o.apiVersion ++ "/" ++ o.resource ++ (if o.ns = "" then "" else "/" ++ o.ns) ++ "/" ++ o.name

end ObjectRef

/-! ### A cluster in memory -/

/-- A cluster in memory. -/
structure RecordingCluster where
  pods : List (PodName × Pod)
  /-- The accepted patches of pods, the oldest first. -/
  podPatches : List (PodName × Value)
  /-- The accepted patches of other objects, the oldest first. -/
  objectPatches : List (ObjectRef × List PatchOperation)
  /-- How often a pod was asked for. -/
  podCalls : Nat
  /-- How many of the next patches conflict. -/
  conflicts : Nat
  /-- Whether no pod is given out. -/
  failing : Bool
  deriving Inhabited

namespace RecordingCluster

/-- No pods. -/
def empty : RecordingCluster :=
  { pods := [], podPatches := [], objectPatches := [], podCalls := 0, conflicts := 0
    failing := false }

/-- The refusal to connect anywhere, for there is no server behind the cluster. -/
def unconnected : StorageError := .cluster "cluster client has no API connection"

/-- Add a pod, or replace it, by the environment of its only container. -/
def addPod (c : RecordingCluster) (name : PodName) (env : List (String × String)) :
    RecordingCluster :=
  let pod : Pod :=
    { ns := some name.ns, name := some name.name
      container := some {
        name := "main"
        env := some (env.map fun (k, v) => { name := k, value := some v }) } }
  { c with pods := (name, pod) :: c.pods.filter fun p => p.1 ≠ name }

/-- Fetch a pod. -/
def getPod (c : RecordingCluster) (name : PodName) : Except StorageError Pod × RecordingCluster :=
  let answer :=
    if c.failing then .error (.cluster "connection refused")
    else
      match c.pods.lookup name with
      | some pod => .ok pod
      | none => .error (.cluster ("pods \"" ++ name.name ++ "\" not found"))
  (answer, { c with podCalls := c.podCalls + 1 })

/-- Refuse a patch if one is due to conflict, else accept it. -/
def accept (c : RecordingCluster) (keep : RecordingCluster → RecordingCluster) :
    Except StorageError Unit × RecordingCluster :=
  match c.conflicts with
  | 0 => (.ok (), keep c)
  | n + 1 => (.error (.conflict "the object has been modified"), { c with conflicts := n })

/-- Patch a pod. -/
def patchPod (c : RecordingCluster) (name : PodName) (patch : Value) :
    Except StorageError Unit × RecordingCluster :=
  c.accept fun c => { c with podPatches := c.podPatches ++ [(name, patch)] }

/-- Patch an object. -/
def patchObject (c : RecordingCluster) (object : ObjectRef) (patch : List PatchOperation) :
    Except StorageError Unit × RecordingCluster :=
  c.accept fun c => { c with objectPatches := c.objectPatches ++ [(object, patch)] }

end RecordingCluster

end Sidecar
