import Sidecar.Cluster.Object
import Sidecar.Storage.Ask

/-!
# Cluster storage

`InKube.store` writes data onto the pod that the program runs in and, if the configuration has a
target and marker policies, onto that further object.  The target is resolved before anything is
written.

The target is given by templates.  A template names a variable as `${SCOPE:NAME}`: the scope `SELF`
is the program's own environment, `POD` that of the pod's first container.  The first such mention
decides: the whole template then stands for the variable's value.  A text without a mention stands
for itself.
-/

namespace Sidecar

namespace Template

/-- A mention of a variable. -/
structure Mention where
  scope : String
  name : String
  deriving DecidableEq, Repr

/-- A character of scopes. -/
def isScopeChar (c : Char) : Bool := c != ':' && c != '}'

/-- A mention after its dollar sign and brace: a scope of at least one character, a colon, and a
name of at least one character up to the closing brace. -/
def mentionAt? (cs : List Char) : Option Mention :=
  let scope := cs.takeWhile isScopeChar
  match cs.dropWhile isScopeChar with
  | ':' :: rest =>
    let name := rest.takeWhile (· != '}')
    if scope.isEmpty || name.isEmpty || (rest.dropWhile (· != '}')).isEmpty then none
    else some { scope := String.ofList scope, name := String.ofList name }
  | _ => none

/-- The first mention in a text. -/
def firstMention? : List Char → Option Mention
  | [] => none
  | c :: cs =>
    match c, cs with
    | '$', '{' :: rest => (mentionAt? rest).or (firstMention? cs)
    | _, _ => firstMention? cs

/-- The mention that decides what a template stands for. -/
def mention? (template : String) : Option Mention := firstMention? template.toList

/-- Whether a text mentions a variable. -/
def hasMention (template : String) : Bool := (mention? template).isSome

/-- The value of a variable of a container: of the first variable of that name, empty if it has
none. -/
def containerValue? (container : Option Container) (name : String) : Option String := do
  let vars ← (← container).env
  let v ← vars.find? fun v => v.name = name
  return v.value.getD ""

/-- What a template stands for. -/
def resolve (env : Environment) (container : Option Container) (template : String) :
    Except TemplateError String :=
  match mention? template with
  | none => .ok template
  | some m =>
    let found :=
      if m.scope = "SELF" then some (env m.name)
      else if m.scope = "POD" then some (containerValue? container m.name)
      else none
    match found with
    | some (some value) => .ok value
    | some none => .error (.variableNotFound m.scope m.name)
    | none => .error (.unknownScope m.scope)

end Template

end Sidecar

namespace Sidecar.InKube

/-- Set cluster storage up for a pod, which has to exist. -/
def setUp (pod : Option PodName) : Storing Unit := do
  if (← Storing.ask .home).isSome then return
  match pod with
  | none => throw (.setupFailed StorageKind.inKube.tag "current pod identity is unknown")
  | some name =>
    let fetched ← tryCatch (Storing.getPod name) fun e =>
      throw (.setupFailed StorageKind.inKube.tag e.details)
    Storing.ask (.settle name fetched)

/-- The pod that the program runs in, fetched again when it is out of date. -/
def currentPod (name : PodName) : Storing Pod := do
  match ← Storing.ask .keptPod with
  | some pod => return pod
  | none =>
    let pod ← Storing.getPod name
    Storing.ask (.keepPod pod)
    return pod

/-- What a template stands for. -/
def resolve (env : Environment) (container : Option Container) (template : String) :
    Except StorageError String :=
  (Template.resolve env container template).mapError .template

/-- The object that a target names, given the pod. -/
def targetObject (env : Environment) (home : PodName) (pod : Pod) (t : TargetConfig) :
    Except StorageError ObjectRef := do
  let ns ← resolve env pod.container t.ns
  let name ← resolve env pod.container t.name
  return { group := t.group, version := t.version, resource := t.resource
           ns := if ns = "" ∧ t.isPodOwner then home.ns else ns
           name }

/-- Write data onto the pod, if there is anything to write. -/
def storeInPod (backoff : Backoff) (home : PodName) (data : String) (c : InKubeConfig) :
    Storing Unit :=
  match c.podPatch? data with
  | none => pure ()
  | some patch =>
    Storing.untilNoConflict backoff
      (ExceptT.mk (Activity.query (I := StorageI) (.patchPod home patch)))

/-- Write data onto the further object, if there is anything to write. -/
def storeInTarget (backoff : Backoff) (object : ObjectRef) (data : String) (c : InKubeConfig) :
    Storing Unit := do
  let patch ← Storing.check (c.targetPatch data)
  if patch.isEmpty then return
  Storing.untilNoConflict backoff
    (ExceptT.mk (Activity.query (I := StorageI) (.patchObject object patch)))

/-- Store data as a configuration says. -/
def storeFor (env : Environment) (backoff : Backoff) (home : PodName) (data : String)
    (c : InKubeConfig) : Storing Unit := do
  Storing.check c.validate
  let object ← match c.target with
    | some t => do
      let pod ← currentPod home
      let object ← Storing.check (targetObject env home pod t)
      pure (some object)
    | none => pure none
  storeInPod backoff home data c
  match object with
  | some object => if c.policies.isEmpty then pure () else storeInTarget backoff object data c
  | none => pure ()

/-- Store data; cluster storage has to be set up and the configuration to be for it. -/
def store (env : Environment) (backoff : Backoff) (data : String) (config : StorageConfig) :
    Storing Unit :=
  match config with
  | .gauge _ => throw (.invalidConfig (.wrongKind .inKube config.kind))
  | .inKube c => do
    match ← Storing.ask .home with
    | none => throw (.notInitialized .inKube)
    | some home => storeFor env backoff home data c

end Sidecar.InKube
