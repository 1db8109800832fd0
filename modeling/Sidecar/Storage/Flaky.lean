import Sidecar.Storage.Sandbox

/-!
# A storage that is slow to start

A `Flaky` storage takes the place of one kind of storage.  Its first setups fail; once it is set
up it keeps every text.  `FactorySandbox` runs what is asked about storages with such a storage
among them.
-/

namespace Sidecar

/-- A storage whose first setups fail. -/
structure Flaky where
  kind : StorageKind
  /-- How many setups fail. -/
  failures : Nat
  /-- What they fail with. -/
  failure : StorageError
  setups : Nat
  ready : Bool
  /-- What was stored, the oldest first. -/
  stored : List String

/-- Set a flaky storage up. -/
def Flaky.setUp (f : Flaky) : Except StorageError Unit × Flaky :=
  let f := { f with setups := f.setups + 1 }
  if f.setups ≤ f.failures then (.error f.failure, f) else (.ok (), { f with ready := true })

/-- A sandbox with a flaky storage, perhaps. -/
structure FactorySandbox where
  box : Sandbox RecordingCluster
  ctx : StorageContext
  flaky : Option Flaky

namespace FactorySandbox

/-- Run an activity of the storages. -/
def run (s : FactorySandbox) (x : Activity StorageI α) : Option (α × FactorySandbox) :=
  (s.box.run RecordingCluster.client x).map fun (a, box) => (a, { s with box })

/-- The flaky storage, if it is the one of a kind. -/
def flaky? (s : FactorySandbox) (kind : StorageKind) : Option Flaky :=
  s.flaky.filter fun f => f.kind = kind

/-- Answer what is asked about storages. -/
def answer : (q : FactoryAsk) → StateT FactorySandbox Option q.Reply
  | .isReady kind => fun s =>
    match s.flaky? kind with
    | some f => some (f.ready, s)
    | none => s.run (s.ctx.answer (.isReady kind))
  | .setUp kind => fun s =>
    match s.flaky? kind with
    | some f =>
      let (r, f) := f.setUp
      some (r, { s with flaky := some f })
    | none => s.run (s.ctx.answer (.setUp kind))
  | .store kind data config => fun s =>
    match s.flaky? kind with
    | some f => some (.ok (), { s with flaky := some { f with stored := f.stored ++ [data] } })
    | none => s.run (s.ctx.answer (.store kind data config))
  | .acquire => fun s => some ((), s)
  | .release => fun s => some ((), s)

end FactorySandbox

end Sidecar
