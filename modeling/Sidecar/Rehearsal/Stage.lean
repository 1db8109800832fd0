import Sidecar.Rehearsal.Ask
import Sidecar.Storage.Sandbox

/-!
# The stage

A `Stage` is a whole running program: the records of the host, the actors, what the storages work
in, and the tasks that have not ended, each with what remains of its activity.

* `Stage.answer?` answers a question, or has no answer yet;
* `Stage.runAhead` goes on with an activity as far as it can without waiting;
* `Stage.pass` gives every task one turn, in the order in which they were started, and
  `Stage.rest` does so until nothing moves any more;
* `Stage.play` plays one activity to its end: the others take their turns while it waits, and when
  all wait the clock jumps to the next timer.
-/

namespace Sidecar.Rehearsal

/-- A task on the stage. -/
inductive Task where
  /-- A task that the host has started. -/
  | host (task : HostTask)
  /-- A worker of an actor, which has entered or not. -/
  | worker (plugin : PluginId) (worker : Nat) (scope : Scope) (entered : Bool)
  /-- A run of the host in the background. -/
  | run (number : Nat)
  deriving DecidableEq, Repr

/-- Whether it is a task that the shutdown of the host waits for. -/
def Task.isAwaited : Task → Bool
  | .host (.heed _) => false
  | .host _ => true
  | _ => false

/-- Whether it is a worker in a scope. -/
def Task.isWorkerIn (scope : Scope) : Task → Bool
  | .worker _ _ s _ => s = scope
  | _ => false

/-- What a task does, and as what it goes on if it does. -/
def Task.activity (ctx : StorageContext) (settings : HostSettings) :
    Task → Playing (Option Task)
  | .host task => do return (← perform ctx task.activity).map Task.host
  | .worker plugin n scope entered => do
    let more ← withActor ctx plugin fun a => a.work n scope entered
    return if more then some (.worker plugin n scope true) else none
  | .run number => do
    let result ← perform ctx (Host.run settings)
    Playing.ask (.finish number result)
    return none

/-- A task that has not ended. -/
structure Running where
  id : Nat
  task : Task
  /-- What remains of its activity. -/
  remaining : Playing (Option Task)

/-- A whole running program. -/
structure Stage where
  config : Config
  ctx : StorageContext
  network : Http.Network
  /-- What the storages work in, and the clock. -/
  box : Sandbox RecordingCluster
  host : Host
  /-- The actors by their numbers. -/
  actors : List Actor
  /-- The tasks that have not ended, the oldest first. -/
  tasks : List Running
  /-- The number of the next task. -/
  nextTask : Nat
  /-- The runs of the host in the background, the oldest first, each with its result if it has
  ended. -/
  runs : List (Nat × Option (Except HostError Unit))
  /-- Whether the program was asked to end. -/
  interrupted : Bool

namespace Stage

/-- A program at the time zero that has done nothing yet. -/
def new (config : Config) (ctx : StorageContext) (cluster : RecordingCluster)
    (taken : List Address) : Stage :=
  { config, ctx, network := .isolated, host := .empty, actors := [], tasks := [], nextTask := 0
    box := { now := 0, memory := .empty, cluster, taken }
    runs := [], interrupted := false }

/-- The time in nanoseconds. -/
def now (s : Stage) : Nat := s.box.now

/-- Add an actor; the result is its number. -/
def cast (s : Stage) (a : Actor) : PluginId × Stage :=
  (s.actors.length, { s with actors := s.actors ++ [a] })

/-- Start a task. -/
def start (s : Stage) (task : Task) : Stage :=
  { s with
    tasks := s.tasks ++ [{
      id := s.nextTask, task, remaining := task.activity s.ctx s.config.host }]
    nextTask := s.nextTask + 1 }

/-- Run the host in the background. -/
def startRun (s : Stage) : Stage :=
  let number := s.nextTask
  { s with runs := s.runs ++ [(number, none)] }.start (.run number)

/-- Whether the liveness endpoint is served at an address. -/
def isServed (s : Stage) (a : Address) : Bool :=
  a.port != 0 && s.tasks.any fun t => t.task = .host (.serve a)

/-- Whether a signal has come. -/
def hasCome (s : Stage) : Signal → Bool
  | .due time => time ≤ s.now
  | .cancelled scope => s.host.isCancelled scope
  | .failure => !s.host.failures.waiting.isEmpty
  | .settled => !s.tasks.any fun t => t.task.isAwaited
  | .idle scope => !s.tasks.any fun t => t.task.isWorkerIn scope
  | .interrupt => s.interrupted

/-- Change the actor of a number. -/
def updateActor (s : Stage) (plugin : PluginId) (f : Actor → Actor) : Option Actor × Stage :=
  match s.actors[plugin]? with
  | none => (none, s)
  | some a => (some (f a), { s with actors := s.actors.set plugin (f a) })

/-- Initialize the actor of a number. -/
def initActor (s : Stage) (plugin : PluginId) (config : Value) :
    Option (Except PluginError Unit × Stage) :=
  match s.actors[plugin]? with
  | none => none
  | some a =>
    match a.init config with
    | .ok a => some (.ok (), { s with actors := s.actors.set plugin a })
    | .error why => some (.error why, s)

/-- Set the result of a run in the background. -/
def finish (s : Stage) (number : Nat) (result : Except HostError Unit) : Stage :=
  { s with runs := s.runs.map fun r => if r.1 = number then (r.1, some result) else r }

/-- Answer a question, unless it has to be waited for. -/
def answer? (s : Stage) : (q : Ask) → Option (q.Reply × Stage)
  | .records q =>
    match s.host.answer? q with
    | some (r, host) => some (r, { s with host })
    | none => none
  | .storage q =>
    match s.box.answer? RecordingCluster.client q with
    | some (r, box) => some (r, { s with box })
    | none => none
  | .bind plugin config => s.actors[plugin]?.map fun a => (a.bind config, s)
  | .init plugin config => s.initActor plugin config
  | .update plugin f => some (s.updateActor plugin f)
  | .timer span => some (Clock.deadline s.now span, s)
  | .await signals =>
    match signals.find? s.hasCome with
    | some signal => some (signal, s)
    | none => none
  | .child parent =>
    let (scope, registry) := s.host.registry.child parent
    some (scope, { s with host := { s.host with registry } })
  | .cancel scope => some ((), { s with host := s.host.withRegistry (·.cancel scope) })
  | .spawn task => some ((), s.start (.host task))
  | .employ plugin worker scope => some ((), s.start (.worker plugin worker scope false))
  | .listen a => some (s.box.canServe a && !s.isServed a, s)
  | .exchange request => some (s.network.exchange request, s)
  | .finish number result => some ((), s.finish number result)
  | .breakOff => none

/-- Go on with an activity as far as possible without waiting; the last result is whether there
was anything to do. -/
def runAhead (s : Stage) (moved : Bool) : Playing α → Stage × Playing α × Bool
  | .done a => (s, .done a, moved)
  | Activity.ask q next =>
    match s.answer? q with
    | some (r, s) => runAhead s true (next r)
    | none => (s, Activity.ask (I := RehearsalI) q next, moved)

/-- The signals that an activity waits for. -/
def awaited : Playing α → List Signal
  | Activity.ask (.await signals) _ => signals
  | _ => []

/-- Whether an activity has broken off. -/
def isBrokenOff : Playing α → Bool
  | Activity.ask .breakOff _ => true
  | _ => false

/-- End a task. -/
def endTask (s : Stage) (id : Nat) : Stage :=
  { s with tasks := s.tasks.filter fun t => t.id ≠ id }

/-- Change a task. -/
def replaceTask (s : Stage) (new : Running) : Stage :=
  { s with tasks := s.tasks.map fun t => if t.id = new.id then new else t }

/-- Give a task its turn; the second result is whether it moved. -/
def turn (s : Stage) (id : Nat) : Stage × Bool :=
  match s.tasks.find? fun t => t.id = id with
  | none => (s, false)
  | some t =>
    match s.runAhead false t.remaining with
    | (s, .done none, _) => (s.endTask id, true)
    | (s, .done (some task), _) =>
      (s.replaceTask { id, task, remaining := task.activity s.ctx s.config.host }, true)
    | (s, remaining, moved) =>
      if isBrokenOff remaining then (s.endTask id, true)
      else (s.replaceTask { t with remaining }, moved)

/-- Give every task one turn; the second result is whether any moved. -/
def pass (s : Stage) : Stage × Bool :=
  (s.tasks.map Running.id).foldl
    (fun (s, moved) id =>
      let (s, more) := s.turn id
      (s, moved || more))
    (s, false)

/-- How many steps a rehearsal may take at most. -/
def patience : Nat := 1000000000

/-- Give turns until nothing moves any more. -/
def restFrom : (fuel : Nat) → Stage → Stage
  | 0, s => s
  | fuel + 1, s =>
    let (s, moved) := s.pass
    if moved then restFrom fuel s else s

/-- Give turns until nothing moves any more. -/
def rest (s : Stage) : Stage := s.restFrom patience

/-- The time of a signal that comes with the clock. -/
def timeOf? : Signal → Option Nat
  | .due time => some time
  | _ => none

/-- The next of the timers that are waited for. -/
def nextTimer? (s : Stage) (signals : List Signal) : Option Nat :=
  ((signals ++ s.tasks.flatMap fun t => awaited t.remaining).filterMap timeOf?).min?

/-- Set the clock. -/
def setClock (s : Stage) (time : Nat) : Stage := { s with box := { s.box with now := time } }

/-- Play an activity to its end.  There is no result when it waits for what never comes. -/
def playFrom : (fuel : Nat) → Stage → Playing α → Option (α × Stage)
  | 0, _, _ => none
  | fuel + 1, s, x =>
    match s.runAhead false x with
    | (s, .done a, _) => some (a, s)
    | (s, x, moved) =>
      let (s, others) := s.pass
      if moved || others then playFrom fuel s x
      else
        match s.nextTimer? (awaited x) with
        | some time => playFrom fuel (s.setClock (Clock.fires time)) x
        | none => none

/-- Play an activity to its end, and then let the others go on as far as they can at that time. -/
def play (s : Stage) (x : Playing α) : Option (α × Stage) :=
  (s.playFrom patience x).map fun (a, s) => (a, s.rest)

/-- Play an operation of the host. -/
def operate (s : Stage) (x : Hosting α) : Option (α × Stage) := s.play (perform s.ctx x)

end Stage

end Sidecar.Rehearsal
