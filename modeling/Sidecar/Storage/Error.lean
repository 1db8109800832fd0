import Sidecar.Storage.Config
import Sidecar.Text.Basic
import Sidecar.Text.Quoted

/-!
# What can go wrong with storing

`TemplateError` and `StorageError` are causes; `message` puts them into words.
-/

namespace Sidecar

/-- Why a template cannot be resolved. -/
inductive TemplateError where
  /-- There is no such scope. -/
  | unknownScope (scope : String)
  /-- The scope has no such variable. -/
  | variableNotFound (scope name : String)
  deriving DecidableEq, Repr

/-- The error in words. -/
def TemplateError.message : TemplateError → String
  | .unknownScope scope => "unknown variable scope: " ++ scope
  | .variableNotFound scope name => "variable " ++ name ++ " not found in " ++ scope ++ " scope"

/-- Why a result cannot be stored. -/
inductive StorageError where
  /-- No kind of storage has this tag. -/
  | unknownKind (tag : String)
  /-- A storage cannot be set up. -/
  | setupFailed (storage why : String)
  | notInitialized (kind : StorageKind)
  | invalidConfig (why : InvalidStorage)
  | template (why : TemplateError)
  /-- The data is no number. -/
  | notNumeric (data : String)
  /-- It is not known which pod the sidecar runs in. -/
  | noCurrentPod (why : String)
  /-- The object was changed by someone else in the meantime. -/
  | conflict (why : String)
  /-- The cluster refuses or cannot be reached. -/
  | cluster (why : String)
  /-- There is no cluster to connect to; a client's own words say where it looked for one. -/
  | noConnection (searched : String)
  /-- The gauges refuse. -/
  | metric (why : String)
  /-- A patch with a place that no pointer names. -/
  | malformedPatch (path : String)
  /-- All attempts met a conflict; `last` is the last error. -/
  | retriesExhausted (attempts : Nat) (last : StorageError)
  deriving DecidableEq, Repr

namespace StorageError

/-- The error in words. -/
def message : StorageError → String
  | .unknownKind tag => "Unknown storage type: " ++ tag
  | .setupFailed storage why => "Failed to set up " ++ storage ++ " storage: " ++ why
  | .notInitialized kind => "Storage " ++ kind.tag ++ " is not initialized"
  | .invalidConfig why => "Invalid storage config: " ++ why.reason
  | .template why => "Template error: " ++ why.message
  | .notNumeric data => "Non-numeric metric data: " ++ quoted data
  | .noCurrentPod why => "Current pod unavailable: " ++ why
  | .conflict why => "Conflict: " ++ why
  | .cluster why => "Kubernetes API error: " ++ why
  | .noConnection _ => "Kubernetes API error: Failed to create K8s client: " ++ foreign
  | .metric why => "Metric error: " ++ why
  | .malformedPatch _ => "Serialization error: " ++ foreign
  | .retriesExhausted attempts last =>
    "Gave up after " ++ toString attempts ++ " attempts: " ++ last.message

/-- The error in more words: where a cluster was looked for, which place is no pointer. -/
def details : StorageError → String
  | .noConnection searched => "Kubernetes API error: Failed to create K8s client: " ++ searched
  | .malformedPatch path =>
    "Serialization error: json pointer \"" ++ path ++ "\" is improperly encoded"
  | e => e.message

/-- Whether it is worth another attempt. -/
def isConflict : StorageError → Bool
  | .conflict _ => true
  | _ => false

end StorageError

/-- Accept a storage configuration that can be used. -/
def StorageConfig.validate (c : StorageConfig) : Except StorageError Unit :=
  match c.invalid? with
  | some why => .error (.invalidConfig why)
  | none => .ok ()

/-- Accept a cluster storage configuration that can be used. -/
def InKubeConfig.validate (c : InKubeConfig) : Except StorageError Unit :=
  match c.invalid? with
  | some why => .error (.invalidConfig why)
  | none => .ok ()

end Sidecar
