import Sidecar.Http
import Sidecar.Probe.Extract
import Sidecar.Storage.Backoff
import Sidecar.Storage.Sandbox

/-!
# Probing an endpoint

`Probe.attempt` requests an endpoint once, checks the answer, extracts the value and stores it;
each stage has its own way to fail, and nothing is stored unless all before it went well.
`Probe.attempts` repeats that within the limits of a backoff, whatever the failure.

`Probe.run` runs a probe to its end in a sandbox for storages, with a network beside it.
-/

namespace Sidecar.Probe

/-- The questions of a probe. -/
inductive Ask where
  /-- Send a request and wait for the answer up to a time limit. -/
  | fetch (request : Http.Request) (limit : Span)
  /-- Store a value. -/
  | store (config : StorageConfig) (v : Value)
  /-- Wait. -/
  | wait (span : Span)
  /-- Break off. -/
  | breakOff

/-- The answers to them. -/
def Ask.Reply : Ask → Type
  | .fetch .. => Http.Exchange
  | .store .. => Except StorageError Unit
  | .wait _ => Unit
  | .breakOff => Empty

/-- What a probe asks. -/
abbrev ProbeI : Interface := ⟨Ask, Ask.Reply⟩

instance : Patient ProbeI where
  wait s := Activity.query (I := ProbeI) (.wait s)
  breakOff := Activity.query (I := ProbeI) .breakOff >>= fun e => nomatch (e : Empty)

/-- The request to an endpoint. -/
def EndpointConfig.request? (e : EndpointConfig) : Option Http.Request :=
  Http.Request.build? e.effectiveMethod e.url e.headers

/-- The time limit of a request. -/
def EndpointConfig.limit (e : EndpointConfig) : Span := .ofSeconds e.effectiveTimeout

/-- The value that an exchange with an endpoint leads to. -/
def EndpointConfig.outcome (e : EndpointConfig) : Http.Exchange → Except ProbeError Value
  | .undelivered => .error .request
  | .late => .error (.timeout e.limit)
  | .brokenOff => .error .brokenOff
  | .answered status body =>
    if status = e.effectiveStatus then (extract body e.path).mapError .extract
    else .error (.unexpectedStatus status e.effectiveStatus (Utf8.lenient body))

/-- Probe an endpoint once. -/
def attempt (e : EndpointConfig) : Activity ProbeI (Except ProbeError Unit) :=
  match e.request? with
  | none => return .error .invalidRequest
  | some request => do
    let x ← Activity.query (I := ProbeI) (.fetch request e.limit)
    match e.outcome x with
    | .error why => return .error why
    | .ok v =>
      let stored ← Activity.query (I := ProbeI) (.store e.storage v)
      return Except.mapError ProbeError.store stored

/-- The backoff between attempts. -/
def backoff : Backoff :=
  { steps := 4, initial := .ofMillis 10, factor := .ofNat 5, cap := .ofSeconds 1 }

/-- Probe an endpoint until that succeeds, within the limits of a backoff. -/
def attempts (b : Backoff) (e : EndpointConfig) : Activity ProbeI (Except ProbeError Unit) :=
  b.attempt (fun _ => true) (fun _ why => why) (attempt e)

/-! ### In a sandbox -/

variable {σ : Type}

/-- Run a probe to its end, the clock jumping over its waits.  There is no result when the probe
breaks off. -/
def run (network : Http.Network) (ctx : StorageContext) (client : ClusterClient σ) :
    Sandbox σ → Activity ProbeI α → Option (α × Sandbox σ)
  | s, .done a => some (a, s)
  | s, .ask (.fetch request _) next => run network ctx client s (next (network.exchange request))
  | s, .ask (.store config v) next =>
    match s.run client (ctx.storeValue config v) with
    | some (r, s) => run network ctx client s (next r)
    | none => none
  | s, .ask (.wait w) next => run network ctx client (s.sleep w) (next ())
  | _, .ask .breakOff _ => none

end Sidecar.Probe
