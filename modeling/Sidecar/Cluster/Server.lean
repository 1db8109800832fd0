import Sidecar.Cluster.Object
import Sidecar.Http
import Sidecar.Json.Reader
import Sidecar.Storage.Patch
import Sidecar.Storage.Sandbox

/-!
# The API of the cluster

How the calls of the storages become requests to the API server, and what its answers mean:

* `PodName.uri` and `ObjectRef.uri` are the addresses of objects;
* `Rest.Response.read` reads an answer, `Rest.Failure.storageError` puts a failure into the terms
  of the storages: only a conflict is told apart.

`ScriptedServer` stands in for the API server: it answers every request from a script and keeps what
it received.  `Connection` is what the storages call the cluster through, which may find no server
to connect to.
-/

namespace Sidecar

/-- The address of a kind of object, in a namespace if one is given. -/
def ObjectRef.collection (group version resource : String) (ns : Option String) : String :=
  (if group = "" then "/api/" ++ version else "/apis/" ++ group ++ "/" ++ version) ++
    (match ns with
    | some ns => "/namespaces/" ++ ns
    | none => "") ++ "/" ++ resource

/-- The address of an object. -/
def ObjectRef.uri (o : ObjectRef) : String :=
  collection o.group o.version o.resource (if o.ns = "" then none else some o.ns) ++ "/" ++ o.name

/-- The address of a pod. -/
def PodName.uri (p : PodName) : String :=
  ObjectRef.collection "" "v1" "pods" (some p.ns) ++ "/" ++ p.name

namespace Rest

/-- How the body of a request changes an object. -/
inductive PatchFormat where
  /-- It is merged into the object. -/
  | strategicMerge
  /-- It lists operations. -/
  | operations
  deriving DecidableEq, Repr

/-- The media type of a body. -/
def PatchFormat.contentType : PatchFormat → String
  | .strategicMerge => "application/strategic-merge-patch+json"
  | .operations => "application/json-patch+json"

/-- What a request does. -/
inductive Action where
  | get
  | patch (format : PatchFormat) (body : Value)

/-- A request to the API server. -/
structure Request where
  uri : String
  action : Action

/-- The name of the method of a request. -/
def Request.method (r : Request) : String :=
  match r.action with
  | .get => "GET"
  | .patch .. => "PATCH"

/-- The media type of the body, if there is one. -/
def Request.contentType (r : Request) : Option String :=
  match r.action with
  | .get => none
  | .patch format _ => some format.contentType

/-- The body, or null. -/
def Request.body (r : Request) : Value :=
  match r.action with
  | .get => .null
  | .patch _ body => body

/-- A request for what is named at an address; the name must not be empty. -/
def Request.make? (name uri : String) (action : Action) : Option Request :=
  if name = "" then none
  else
    let uri := match action with
      | .get => uri
      | .patch .. => uri ++ "?"
    (Uri.parse uri).map fun u => { uri := u.path, action }

/-- A request that fetches a pod. -/
def Request.getPod? (pod : PodName) : Option Request := make? pod.name pod.uri .get

/-- A request that patches a pod. -/
def Request.patchPod? (pod : PodName) (patch : Value) : Option Request :=
  make? pod.name pod.uri (.patch .strategicMerge patch)

/-- A request that patches an object. -/
def Request.patchObject? (object : ObjectRef) (patch : List PatchOperation) : Option Request :=
  make? object.name object.uri (.patch .operations (PatchOperation.patchValue patch))

/-- An answer of the API server. -/
structure Response where
  status : Nat
  body : String
  deriving DecidableEq, Repr

/-- Why a call fails. -/
inductive Failure where
  /-- The server refuses, with a code and a message. -/
  | refused (code : Nat) (message : String)
  /-- There is no request for it, or the answer is not understood. -/
  | broken
  deriving DecidableEq, Repr

/-- The code for a change that someone else's change got in the way of. -/
def conflictCode : Nat := 409

/-- A failure in the terms of the storages. -/
def Failure.storageError (context : String) : Failure → StorageError
  | .refused code message =>
    if code = conflictCode then .conflict (context ++ ": " ++ message)
    else .cluster (context ++ ": " ++ foreign)
  | .broken => .cluster (context ++ ": " ++ foreign)

/-- The reading of a status that the server sends with a refusal: its code and message. -/
def refusal? (n : Node) : Option (Nat × String) := do
  let r ← n.record? ["status", "message", "reason", "code"] []
  let _ ← r.required "status" Node.text?
  let message ← r.defaulting "message" Node.text? ""
  let _ ← r.defaulting "reason" Node.text? ""
  let code ← r.required "code" (Node.natBelow? (Nat.pow 2 16))
  return (code, message)

/-- What of a refusal is looked at. -/
def refusalShape : Shape :=
  .record [("status", .any), ("message", .any), ("reason", .any), ("code", .any)]

/-- Whether an answer is a refusal. -/
def Response.isRefusal (r : Response) : Bool := 400 ≤ r.status && r.status < 600

/-- Read an answer. -/
def Response.read (r : Response) (shape : Shape) (object? : Node → Option α) : Except Failure α :=
  if r.isRefusal then
    match (Json.read refusalShape r.body).bind refusal? with
    | some (code, message) => .error (.refused code message)
    | none => .error (.refused r.status (quoted r.body))
  else
    match (Json.read shape r.body).bind object? with
    | some a => .ok a
    | none => .error .broken

/-! ### Objects in answers -/

/-- The fields of an object; the last of a name counts. -/
def fields? : Node → Option Record
  | .table es => some (es.reverse.filterMap fun (k, n) => k.text?.map (·, n))
  | _ => none

/-- A field of an object, which may be missing or null. -/
def part? (n : Node) (name : String) (read : Node → Option α) : Option (Option α) := do
  (← fields? n).optional name read

/-- The reading of a variable. -/
def envItem? (n : Node) : Option ContainerVariable := do
  let r ← fields? n
  let name ← r.optional "name" Node.text?
  let value ← r.optional "value" Node.text?
  return { name := name.getD "", value }

/-- The reading of a container. -/
def container? (n : Node) : Option Container := do
  let r ← fields? n
  let name ← r.optional "name" Node.text?
  let env ← r.optional "env" (Node.list? envItem?)
  return { name := name.getD "", env }

/-- The reading of metadata: the name and the namespace. -/
def metadata? (n : Node) : Option (Option String × Option String) := do
  let r ← fields? n
  let name ← r.optional "name" Node.text?
  let ns ← r.optional "namespace" Node.text?
  let _ ← r.optional "uid" Node.text?
  let _ ← r.optional "resourceVersion" Node.text?
  let _ ← r.optional "annotations" (Node.table? Node.text?)
  let _ ← r.optional "labels" (Node.table? Node.text?)
  return (name, ns)

/-- The reading of a fixed text. -/
def fixed? (text : String) (n : Node) : Option Unit := if n.text? = some text then some () else none

/-- The reading of a pod. -/
def pod? (n : Node) : Option Pod := do
  let r ← fields? n
  r.defaulting "apiVersion" (fixed? "v1") ()
  r.defaulting "kind" (fixed? "Pod") ()
  let metadata ← r.optional "metadata" metadata?
  let containers ← r.optional "spec" fun n => part? n "containers" (Node.list? container?)
  return {
    name := metadata.bind Prod.fst
    ns := metadata.bind Prod.snd
    container := (containers.bind id).bind List.head? }

/-- What of a pod is looked at. -/
def podShape : Shape :=
  .record [("apiVersion", .any), ("kind", .any), ("metadata", .any), ("spec", .any)]

/-- The reading of an object of any kind, of which nothing is kept. -/
def object? (n : Node) : Option Unit := do
  let r ← fields? n
  r.defaulting "metadata" (fun n => (metadata? n).map fun _ => ()) ()

end Rest

end Sidecar

namespace Sidecar.Rest

/-- An API server that follows a script. -/
structure ScriptedServer where
  /-- The answers to come; the last one answers all further requests. -/
  script : List Response
  /-- The requests, the oldest first. -/
  received : List Request

namespace ScriptedServer

/-- A server that has received nothing yet. -/
def new (script : List Response) : ScriptedServer := { script, received := [] }

/-- The answer when there is no script. -/
def notFound : Response := { status := 404, body := "" }

/-- Answer a request. -/
def answer (s : ScriptedServer) (r : Request) : Response × ScriptedServer :=
  let received := s.received ++ [r]
  match s.script with
  | [] => (notFound, { s with received })
  | [last] => (last, { s with received })
  | response :: script => (response, { script, received })

end ScriptedServer

/-- A connection to the cluster, if there is one. -/
structure Connection where
  server : Option ScriptedServer
  /-- The client's words where it finds no cluster: unless told otherwise, those of one that root
  runs outside of any cluster. -/
  searched : String :=
    "Failed to infer configuration: failed to infer config: in-cluster: (failed to read an " ++
    "incluster environment variable: environment variable not found), kubeconfig: (failed to read " ++
    "kubeconfig from '\"/root/.kube/config\"': " ++ foreign

namespace Connection

/-- Send a request, if there is one, and read the answer. -/
def call (c : Connection) (context : String) (request : Option Request) (shape : Shape)
    (object? : Node → Option α) : Except StorageError α × Connection :=
  match c.server with
  | none => (.error (.noConnection c.searched), c)
  | some s =>
    match request with
    | none => (.error (Failure.broken.storageError context), c)
    | some request =>
      let (response, s) := s.answer request
      ((response.read shape object?).mapError (Failure.storageError context),
        { c with server := some s })

/-- Fetch a pod. -/
def getPod (c : Connection) (pod : PodName) : Except StorageError Pod × Connection :=
  c.call ("Failed to get pod " ++ pod.render) (Request.getPod? pod) podShape pod?

/-- Patch a pod. -/
def patchPod (c : Connection) (pod : PodName) (patch : Value) :
    Except StorageError Unit × Connection :=
  c.call ("Failed to patch pod " ++ pod.render) (Request.patchPod? pod patch) podShape
    fun n => (pod? n).map fun _ => ()

/-- Patch an object. -/
def patchObject (c : Connection) (object : ObjectRef) (patch : List PatchOperation) :
    Except StorageError Unit × Connection :=
  c.call ("Failed to patch " ++ object.render) (Request.patchObject? object patch) .any object?

/-- The calls of a connection. -/
def client : ClusterClient Connection := { getPod, patchPod, patchObject }

/-- Fail if there is no connection. -/
def ensure (c : Connection) : Except StorageError Unit :=
  if c.server.isSome then .ok () else .error (.noConnection c.searched)

end Connection

end Sidecar.Rest
