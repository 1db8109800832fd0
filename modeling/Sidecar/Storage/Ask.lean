import Sidecar.Cluster.Object
import Sidecar.Net.Address
import Sidecar.Storage.Backoff
import Sidecar.Storage.Gauges
import Sidecar.Storage.Patch

/-!
# What storing asks for

`StorageAsk` lists the questions of the storages: calls to the cluster, waiting, serving, and what
they keep between one result and the next.  `Storing` is an activity that asks them and may fail.

`StorageMemory` is what the storages keep; it answers the questions about itself.
-/

namespace Sidecar

/-- The questions of the storages. -/
inductive StorageAsk where
  /-- Fetch a pod from the cluster. -/
  | getPod (pod : PodName)
  /-- Merge a patch into a pod. -/
  | patchPod (pod : PodName) (patch : Value)
  /-- Apply a patch to an object. -/
  | patchObject (object : ObjectRef) (patch : List PatchOperation)
  /-- Wait. -/
  | wait (span : Span)
  /-- Break off. -/
  | breakOff
  /-- Serve the gauges at an address; the answer is whether that is possible. -/
  | serveGauges (address : Address)
  /-- The pod that cluster storage is set up for. -/
  | home
  /-- Cluster storage is set up for a pod, which was just fetched. -/
  | settle (name : PodName) (pod : Pod)
  /-- The pod as last fetched, unless that was too long ago. -/
  | keptPod
  /-- Keep a pod just fetched. -/
  | keepPod (pod : Pod)
  /-- Whether gauge storage is set up. -/
  | gaugesOpen
  /-- Gauge storage is set up. -/
  | openGauges
  /-- Store data as a gauge. -/
  | storeGauge (data : String) (config : StorageConfig)
  /-- Wait for one's turn to set a storage up. -/
  | acquire
  /-- Let others set storages up. -/
  | release

/-- The answers to them. -/
def StorageAsk.Reply : StorageAsk → Type
  | .getPod _ => Except StorageError Pod
  | .patchPod .. => Except StorageError Unit
  | .patchObject .. => Except StorageError Unit
  | .wait _ => Unit
  | .breakOff => Empty
  | .serveGauges _ => Bool
  | .home => Option PodName
  | .settle .. => Unit
  | .keptPod => Option Pod
  | .keepPod _ => Unit
  | .gaugesOpen => Bool
  | .openGauges => Unit
  | .storeGauge .. => Except StorageError Unit
  | .acquire => Unit
  | .release => Unit

/-- What the storages ask. -/
abbrev StorageI : Interface := ⟨StorageAsk, StorageAsk.Reply⟩

instance : Patient StorageI where
  wait s := Activity.query (I := StorageI) (.wait s)
  breakOff := Activity.query (I := StorageI) .breakOff >>= fun e => nomatch (e : Empty)

/-- An activity of the storages that may fail. -/
abbrev Storing := ExceptT StorageError (Activity StorageI)

namespace Storing

/-- Ask a question. -/
def ask (q : StorageAsk) : Storing q.Reply := ExceptT.lift (Activity.query (I := StorageI) q)

/-- Get a pod from the cluster. -/
def getPod (pod : PodName) : Storing Pod := ExceptT.mk (Activity.query (I := StorageI) (.getPod pod))

/-- Fail if a check fails. -/
def check (r : Except StorageError α) : Storing α := ExceptT.mk (pure r)

/-- Do something until it meets no conflict, within the limits of a backoff. -/
def untilNoConflict (b : Backoff) (op : Storing α) : Storing α :=
  ExceptT.mk (b.attempt StorageError.isConflict .retriesExhausted op.run)

end Storing

/-- What cluster storage keeps once it is set up. -/
structure InKubeMemory where
  /-- The pod that the program runs in. -/
  pod : PodName
  /-- That pod as last fetched, with the time of it in nanoseconds. -/
  kept : Option (Nat × Pod)
  deriving DecidableEq, Repr

/-- What the storages keep. -/
structure StorageMemory where
  /-- Of cluster storage, once it is set up. -/
  inKube : Option InKubeMemory
  /-- Of gauge storage, once it is set up. -/
  gauges : Option Gauges
  deriving DecidableEq, Repr, Inhabited

namespace StorageMemory

/-- Nothing is set up. -/
def empty : StorageMemory := { inKube := none, gauges := none }

/-- How long a fetched pod may be used. -/
def podLifetime : Span := .ofSeconds 60

/-- Whether a storage is set up. -/
def isReady (m : StorageMemory) : StorageKind → Bool
  | .inKube => m.inKube.isSome
  | .gauge => m.gauges.isSome

/-- The pod as last fetched, unless that was too long ago. -/
def keptPod? (m : StorageMemory) (now : Nat) : Option Pod := do
  let (fetched, pod) ← (← m.inKube).kept
  if now - fetched < podLifetime.nanos then return pod else none

/-- Keep a pod just fetched. -/
def keepPod (m : StorageMemory) (now : Nat) (pod : Pod) : StorageMemory :=
  { m with inKube := m.inKube.map fun k => { k with kept := some (now, pod) } }

/-- Set cluster storage up, once. -/
def settle (m : StorageMemory) (now : Nat) (name : PodName) (pod : Pod) : StorageMemory :=
  { m with inKube := m.inKube.or (some { pod := name, kept := some (now, pod) }) }

/-- Set gauge storage up, once. -/
def openGauges (m : StorageMemory) : StorageMemory :=
  { m with gauges := m.gauges.or (some .empty) }

/-- Store data as a gauge. -/
def storeGauge (m : StorageMemory) (data : String) (config : StorageConfig) :
    Except StorageError Unit × StorageMemory :=
  match Gauges.store m.gauges data config with
  | .ok g => (.ok (), { m with gauges := some g })
  | .error e => (.error e, m)

end StorageMemory

end Sidecar
