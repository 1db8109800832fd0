import Sidecar.Storage.InKube
import Sidecar.Value

/-!
# Storages on demand

There is one storage of each kind.  It is set up when it is first needed, one storage at a time
(`resolve`); a setup that fails is tried again the next time.  `storeValue` stores a value in the
storage that a configuration asks for.

Both ask `FactoryAsk`, which leaves open what the storages are; `StorageContext.answer` says what
they are here.
-/

namespace Sidecar

/-- The questions about storages of which nothing else is known. -/
inductive FactoryAsk where
  /-- Whether a storage is set up. -/
  | isReady (kind : StorageKind)
  /-- Wait for one's turn to set a storage up. -/
  | acquire
  /-- Let others set storages up. -/
  | release
  /-- Set a storage up. -/
  | setUp (kind : StorageKind)
  /-- Store data in a storage. -/
  | store (kind : StorageKind) (data : String) (config : StorageConfig)
  deriving DecidableEq, Repr

/-- The answers to them. -/
def FactoryAsk.Reply : FactoryAsk → Type
  | .isReady _ => Bool
  | .acquire => Unit
  | .release => Unit
  | .setUp _ => Except StorageError Unit
  | .store .. => Except StorageError Unit

/-- What is asked about storages. -/
abbrev FactoryI : Interface := ⟨FactoryAsk, FactoryAsk.Reply⟩

/-- The error of a setup that failed, which says of which storage unless it does so already. -/
def StorageError.ofSetup (kind : StorageKind) : StorageError → StorageError
  | .setupFailed storage why => .setupFailed storage why
  | e => .setupFailed kind.tag e.details

namespace Factory

/-- Ask a question. -/
def ask (q : FactoryAsk) : Activity FactoryI q.Reply := Activity.query (I := FactoryI) q

/-- Make sure that a storage is set up.  Whether it is, is asked again once it is one's turn,
because another may have set it up in the meantime. -/
def resolve (kind : StorageKind) : Activity FactoryI (Except StorageError Unit) := do
  let ready : Bool ← ask (.isReady kind)
  if ready then return .ok ()
  ask .acquire
  let ready : Bool ← ask (.isReady kind)
  let result ← if ready then pure (.ok ()) else ask (.setUp kind)
  ask .release
  return Except.mapError (StorageError.ofSetup kind) result

/-- The storage of a kind, which is set up when it is first needed. -/
def storage (kind : StorageKind) : Activity FactoryI (Except StorageError StorageKind) := do
  return (← resolve kind).map fun _ => kind

/-- The storage of a tag, which is set up when it is first needed. -/
def resolveTag (tag : String) : Activity FactoryI (Except StorageError StorageKind) :=
  match StorageKind.ofTag? tag with
  | none => return .error (.unknownKind tag)
  | some kind => storage kind

/-- Store a value as a configuration says. -/
def storeValue (config : StorageConfig) (v : Value) :
    Activity FactoryI (Except StorageError Unit) := do
  match ← resolve config.kind with
  | .ok () => ask (.store config.kind v.stored config)
  | .error e => return .error e

end Factory

/-- What the storages are given. -/
structure StorageContext where
  /-- The program's own environment. -/
  env : Environment
  /-- The pod that the program runs in, if it is known. -/
  pod : Option PodName
  /-- Where the gauges are served, if at all. -/
  listen : Option Address
  /-- The backoff for conflicting changes. -/
  backoff : Backoff

namespace StorageContext

/-- Set gauge storage up, serving the gauges if there is an address for it. -/
def setUpGauges (ctx : StorageContext) : Storing Unit := do
  let ready : Bool ← Storing.ask .gaugesOpen
  if ready then return
  match ctx.listen with
  | some a =>
    let served : Bool ← Storing.ask (.serveGauges a)
    if !served then
      throw (.setupFailed StorageKind.gauge.tag ("bind " ++ a.render ++ ": " ++ foreign))
  | none => pure ()
  Storing.ask .openGauges

/-- Set a storage up. -/
def setUp (ctx : StorageContext) : StorageKind → Storing Unit
  | .inKube => InKube.setUp ctx.pod
  | .gauge => ctx.setUpGauges

/-- Store data in a storage. -/
def store (ctx : StorageContext) (kind : StorageKind) (data : String) (config : StorageConfig) :
    Storing Unit :=
  match kind with
  | .inKube => InKube.store ctx.env ctx.backoff data config
  | .gauge => ExceptT.mk (Activity.query (I := StorageI) (.storeGauge data config))

/-- Whether a storage is set up. -/
def isReady : StorageKind → Activity StorageI Bool
  | .inKube => do return (← Activity.query (I := StorageI) .home).isSome
  | .gauge => Activity.query (I := StorageI) .gaugesOpen

/-- What is asked about storages, answered by the storages. -/
def answer (ctx : StorageContext) : (q : FactoryAsk) → Activity StorageI q.Reply
  | .isReady kind => isReady kind
  | .acquire => Activity.query (I := StorageI) .acquire
  | .release => Activity.query (I := StorageI) .release
  | .setUp kind => (ctx.setUp kind).run
  | .store kind data config => (ctx.store kind data config).run

/-- Store a value as a configuration says. -/
def storeValue (ctx : StorageContext) (config : StorageConfig) (v : Value) :
    Activity StorageI (Except StorageError Unit) :=
  (Factory.storeValue config v).via ctx.answer

end StorageContext

end Sidecar
