import Sidecar.Json.Pointer
import Sidecar.Storage.Error

/-!
# Patches

What is written for a piece of data:

* `podPatch?` merges annotations and labels into the pod's metadata;
* `targetOperations` replaces single places of the further object, `targetPatch` checks that each
  place is named by a pointer.

The configured keys receive the data; the values of the active policy win over them.
-/

namespace Sidecar

/-- Replace what is at a place by a text. -/
def PatchOperation.replaceText (path text : String) : PatchOperation := .replace path (.text text)

namespace InKubeConfig

/-- The values of the active policy, if there is one. -/
def overlay (c : InKubeConfig) (data : String) (part : MarkerPolicy → List (String × String)) :
    List (String × String) :=
  ((c.policy? data).map part).getD []

/-- The annotations to write, sorted by key. -/
def annotationsFor (c : InKubeConfig) (data : String) : List (String × String) :=
  Value.members (c.annotation?.toList.map (fun k => (k, data)) ++
    c.overlay data MarkerPolicy.annotations)

/-- The labels to write, sorted by key. -/
def labelsFor (c : InKubeConfig) (data : String) : List (String × String) :=
  Value.members (c.label?.toList.map (fun k => (k, data)) ++ c.overlay data MarkerPolicy.labels)

/-- A part of the metadata that is written only when it is not empty. -/
def metadataPart (name : String) (entries : List (String × String)) : List (String × Value) :=
  if entries.isEmpty then [] else [(name, Value.ofTexts entries)]

/-- The patch of the pod, if there is anything to write. -/
def podPatch? (c : InKubeConfig) (data : String) : Option Value :=
  let parts :=
    metadataPart "annotations" (c.annotationsFor data) ++
    metadataPart "labels" (c.labelsFor data)
  if parts.isEmpty then none
  else some (Value.ofPairs [("metadata", Value.ofPairs parts)])

/-- The place of an annotation. -/
def annotationPath (key : String) : String := "/metadata/annotations/" ++ Pointer.escape key

/-- The place of a label. -/
def labelPath (key : String) : String := "/metadata/labels/" ++ Pointer.escape key

/-- The replacements on the further object: annotation key, label key, path, then the annotations
and the labels of the active policy. -/
def targetOperations (c : InKubeConfig) (data : String) : List PatchOperation :=
  c.annotation?.toList.map (fun k => .replaceText (annotationPath k) data) ++
  c.label?.toList.map (fun k => .replaceText (labelPath k) data) ++
  c.path?.toList.map (fun p => .replaceText (Pointer.ofPath p) data) ++
  (c.overlay data MarkerPolicy.annotations).map (fun (k, v) => .replaceText (annotationPath k) v) ++
  (c.overlay data MarkerPolicy.labels).map (fun (k, v) => .replaceText (labelPath k) v)

/-- The patch of the further object. -/
def targetPatch (c : InKubeConfig) (data : String) : Except StorageError (List PatchOperation) :=
  let ops := c.targetOperations data
  match ops.find? fun op => !Pointer.isPointer op.path with
  | some op => .error (.malformedPatch op.path)
  | none => .ok ops

end InKubeConfig

end Sidecar
