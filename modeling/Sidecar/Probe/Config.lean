import Sidecar.Config.Basic
import Sidecar.Storage.Config
import Sidecar.Time.Span

/-!
# Probe configurations

Which endpoints are probed, what a good answer is, and what becomes of it.  A field that is left
empty or zero means its default; the accessors (`EndpointConfig.effectiveMethod` and so on) give
the values in effect.
-/

namespace Sidecar.Probe

/-- What an extracted value is turned into. -/
inductive FieldType where
  | text
  | int
  | float
  deriving DecidableEq, Repr, Inhabited

namespace FieldType

/-- The name of a type. -/
def name : FieldType → String
  | .text => "string"
  | .int => "int"
  | .float => "float"

/-- The type of a name. -/
def ofName? (s : String) : Option FieldType :=
  if s = "string" then some .text
  else if s = "int" then some .int
  else if s = "float" then some .float
  else none

/-- The reading of a type: its name, or a table from its name to null. -/
def ofNode? : Node → Option FieldType
  | .text s => ofName? s
  | .table [(.text s, .null)] => ofName? s
  | _ => none

end FieldType

/-- Which part of a JSON answer is stored. -/
structure PathConfig where
  /-- A dotted path. -/
  path : String
  /-- What the value is turned into; `none` leaves it as it is. -/
  fieldType : Option FieldType
  deriving DecidableEq, Repr, Inhabited

namespace PathConfig

/-- The reading of a path configuration. -/
def ofNode? (n : Node) : Option PathConfig := do
  let r ← n.record? ["jsonPath", "fieldType"] []
  let path ← r.required "jsonPath" Node.text?
  let fieldType ← r.optional "fieldType" FieldType.ofNode?
  return { path, fieldType }

/-- A path configuration as a value. -/
def toValue (c : PathConfig) : Value :=
  Value.ofPairs [
    ("jsonPath", .text c.path), ("fieldType", Value.ofText? (c.fieldType.map FieldType.name))]

end PathConfig

/-- An endpoint to probe. -/
structure EndpointConfig where
  url : String
  /-- The request method; empty means `GET`. -/
  method : String
  /-- Request headers, sorted by name. -/
  headers : List (String × String)
  /-- The time limit of a request in seconds; zero means ten. -/
  timeout : Nat
  /-- The status of a good answer; zero means 200. -/
  expectedStatus : Nat
  /-- Where the result goes. -/
  storage : StorageConfig
  /-- Which part of the answer is stored; `none` stores its whole text. -/
  path : Option PathConfig
  deriving DecidableEq, Repr

namespace EndpointConfig

/-- A whole number of seconds. -/
def seconds? : Node → Option Nat := Node.natBelow? (Nat.pow 2 64)

/-- A status code. -/
def status? : Node → Option Nat := Node.natBelow? (Nat.pow 2 16)

/-- The reading of an endpoint. -/
def ofNode? (n : Node) : Option EndpointConfig := do
  let r ← n.record? ["url", "method", "headers", "timeout", "expectedStatusCode", "storageConfig",
    "jsonPathConfig"] []
  let url ← r.required "url" Node.text?
  let method ← r.defaulting "method" Node.text? ""
  let headers ← r.defaulting "headers" (Node.table? Node.text?) []
  let timeout ← r.defaulting "timeout" seconds? 0
  let expectedStatus ← r.defaulting "expectedStatusCode" status? 0
  let storage ← r.required "storageConfig" StorageConfig.ofNode?
  let path ← r.optional "jsonPathConfig" PathConfig.ofNode?
  return { url, method, headers, timeout, expectedStatus, storage, path }

/-- An endpoint as a value. -/
def toValue (e : EndpointConfig) : Value :=
  Value.ofPairs [
    ("url", .text e.url), ("method", .text e.method), ("headers", Value.ofTexts e.headers),
    ("timeout", .int e.timeout), ("expectedStatusCode", .int e.expectedStatus),
    ("storageConfig", e.storage.toValue),
    ("jsonPathConfig", (e.path.map PathConfig.toValue).getD .null)]

/-- The request method in effect. -/
def effectiveMethod (e : EndpointConfig) : String := if e.method = "" then "GET" else e.method

/-- The time limit in effect, in seconds. -/
def effectiveTimeout (e : EndpointConfig) : Nat := if e.timeout = 0 then 10 else e.timeout

/-- The status of a good answer. -/
def effectiveStatus (e : EndpointConfig) : Nat :=
  if e.expectedStatus = 0 then 200 else e.expectedStatus

end EndpointConfig

/-- What the probe plugin does. -/
structure Config where
  /-- Seconds before the first probe. -/
  startDelay : Nat
  /-- Seconds between probes of one endpoint; zero means the default. -/
  interval : Nat
  endpoints : List EndpointConfig
  deriving DecidableEq, Repr

namespace Config

/-- The default start delay in seconds. -/
def defaultStartDelay : Nat := 30

/-- The default interval in seconds. -/
def defaultInterval : Nat := 5

/-- The reading of a probe configuration. -/
def ofNode? (n : Node) : Option Config := do
  let r ← n.record? ["startDelaySeconds", "probeIntervalSeconds", "endpoints"] []
  let startDelay ← r.defaulting "startDelaySeconds" EndpointConfig.seconds? defaultStartDelay
  let interval ← r.defaulting "probeIntervalSeconds" EndpointConfig.seconds? defaultInterval
  let endpoints ← r.defaulting "endpoints" (Node.list? EndpointConfig.ofNode?) []
  return { startDelay, interval, endpoints }

/-- A probe configuration as a value. -/
def toValue (c : Config) : Value :=
  Value.ofPairs [
    ("startDelaySeconds", .int c.startDelay), ("probeIntervalSeconds", .int c.interval),
    ("endpoints", .list (c.endpoints.map EndpointConfig.toValue))]

/-- The interval in effect, in seconds. -/
def effectiveInterval (c : Config) : Nat := if c.interval = 0 then defaultInterval else c.interval

/-- Probe configurations are read from plugin configurations. -/
def binding : Binding Config := .ofRecord ofNode?

end Config

end Sidecar.Probe
