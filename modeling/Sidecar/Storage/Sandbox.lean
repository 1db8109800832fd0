import Sidecar.Cluster.Object
import Sidecar.Storage.Factory
import Sidecar.Time.Span

/-!
# A sandbox for storages

`Sandbox` is what storages need to work in: a clock, what they keep, a cluster, and addresses at
which others serve.  The cluster is any state with a `ClusterClient`.

`Sandbox.run` runs an activity of the storages to its end, the clock jumping over its waits.
-/

namespace Sidecar

/-- How a cluster of some state answers the calls of the storages. -/
structure ClusterClient (σ : Type) where
  getPod : σ → PodName → Except StorageError Pod × σ
  patchPod : σ → PodName → Value → Except StorageError Unit × σ
  patchObject : σ → ObjectRef → List PatchOperation → Except StorageError Unit × σ

/-- What storages work in. -/
structure Sandbox (σ : Type) where
  /-- The time in nanoseconds. -/
  now : Nat
  memory : StorageMemory
  cluster : σ
  /-- The addresses at which others serve. -/
  taken : List Address

namespace Sandbox

variable {σ : Type}

/-- Whether something can be served at an address: the machine has it, and it is not taken. -/
def canServe (s : Sandbox σ) (a : Address) : Bool := a.isOwn && !s.taken.contains a

/-- The time for the age of a fetched pod, which stands still. -/
def podTime : Nat := 0

/-- Answer a question that needs no waiting.  One activity at a time runs, up to its next wait, and
none waits while it sets a storage up, so it always is one's turn. -/
def answer? (client : ClusterClient σ) (s : Sandbox σ) :
    (q : StorageAsk) → Option (q.Reply × Sandbox σ)
  | .getPod pod =>
    let (r, c) := client.getPod s.cluster pod
    some (r, { s with cluster := c })
  | .patchPod pod patch =>
    let (r, c) := client.patchPod s.cluster pod patch
    some (r, { s with cluster := c })
  | .patchObject object patch =>
    let (r, c) := client.patchObject s.cluster object patch
    some (r, { s with cluster := c })
  | .wait _ => none
  | .breakOff => none
  | .serveGauges a => some (s.canServe a, s)
  | .home => some (s.memory.inKube.map InKubeMemory.pod, s)
  | .settle name pod => some ((), { s with memory := s.memory.settle podTime name pod })
  | .keptPod => some (s.memory.keptPod? podTime, s)
  | .keepPod pod => some ((), { s with memory := s.memory.keepPod podTime pod })
  | .gaugesOpen => some (s.memory.gauges.isSome, s)
  | .openGauges => some ((), { s with memory := s.memory.openGauges })
  | .storeGauge data config =>
    let (r, m) := s.memory.storeGauge data config
    some (r, { s with memory := m })
  | .acquire => some ((), s)
  | .release => some ((), s)

/-- Let the clock jump over a wait. -/
def sleep (s : Sandbox σ) (w : Span) : Sandbox σ :=
  { s with now := Clock.fires (Clock.deadline s.now w) }

/-- Run an activity to its end, the clock jumping over its waits.  There is no result when the
activity breaks off. -/
def run (client : ClusterClient σ) : Sandbox σ → Activity StorageI α → Option (α × Sandbox σ)
  | s, .done a => some (a, s)
  | s, .ask (.wait w) next =>
    run client (s.sleep w) (next ())
  | s, .ask q next =>
    match s.answer? client q with
    | some (r, s) => run client s (next r)
    | none => none

end Sandbox

/-- The calls of a cluster in memory. -/
def RecordingCluster.client : ClusterClient RecordingCluster :=
  { getPod := RecordingCluster.getPod
    patchPod := RecordingCluster.patchPod
    patchObject := RecordingCluster.patchObject }

end Sidecar
