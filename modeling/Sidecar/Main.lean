import Sidecar.Cli.Outcome

/-!
# The program

Reads the arguments, the variables and files, and writes what the commands say.  A serving program
follows the clock of the machine: it goes on with its stage whenever a timer is due.
-/

namespace Sidecar.Program

open Rehearsal

/-- The bytes of a file, if it can be read. -/
def readFile (path : String) : IO (Option ByteArray) := do
  try return some (← IO.FS.readBinFile path)
  catch _ => return none

/-- The variables of some names. -/
def environmentOf (names : List String) : IO Environment := do
  let pairs ← names.mapM fun n => do return (← IO.getEnv n).map fun v => (n, v)
  return .ofList (pairs.filterMap id)

/-- The names of the variables that a text mentions. -/
def mentioned (text : String) : List String :=
  (Environment.pieces text).filterMap fun piece =>
    match piece with
    | .mention name _ => some name
    | .char _ => none

/-- The variables that the program and its configuration look at. -/
def environmentFor (bytes : Option ByteArray) : IO Environment :=
  environmentOf ("POD_NAME" :: "POD_NAMESPACE" ::
    mentioned ((bytes.bind String.fromUTF8?).getD ""))

/-- The milliseconds from now to a time on the clock of a stage that began at `start`. -/
def millisTo (start time : Nat) : IO UInt32 := do
  let now ← IO.monoNanosNow
  return ((Clock.fires time - (now - start)) / Span.perMilli).toUInt32

/-- Play an activity to its end as time goes by. -/
partial def follow (start : Nat) (s : Stage) (x : Playing α) : IO α := do
  match s.runAhead false x with
  | (_, .done a, _) => return a
  | (s, x, moved) =>
    let (s, others) := s.pass
    if moved || others then follow start s x
    else
      match s.nextTimer? (Stage.awaited x) with
      | some time =>
        IO.sleep (← millisTo start time)
        follow start (s.setClock (Clock.fires time)) x
      | none =>
        IO.sleep 1000
        follow start s x

/-- Serve as a configuration file says. -/
def serve (path : String) : IO UInt32 := do
  let bytes ← readFile path
  let env ← environmentFor bytes
  match Config.load path bytes env with
  | .error e =>
    IO.eprintln ("Error: failed to load " ++ path ++ ": " ++ e.message)
    return 1
  | .ok config =>
    let (probe, stage) := Command.stage config env []
    let service := perform stage.ctx (Command.service config probe)
    let result ← follow (← IO.monoNanosNow) stage service
    match result with
    | .ok () => return 0
    | .error e =>
      IO.eprintln ("Error: " ++ e.message)
      return 1

/-- Do what a command says. -/
def execute (command : Command) : IO UInt32 := do
  match command with
  | .serve path _ _ => serve path
  | .validate path =>
    let bytes ← readFile path
    let outcome := command.outcome (fun _ => bytes) (← environmentFor bytes)
    IO.println outcome.output
    return outcome.exit.toUInt32
  | _ =>
    IO.println (command.outcome (fun _ => none) .empty).output
    return 0

end Sidecar.Program

/-- Do what the arguments say. -/
def main (args : List String) : IO UInt32 := do
  let env ← Sidecar.Program.environmentOf [Sidecar.Command.configVariable]
  match Sidecar.Command.ofArguments env args with
  | some command => Sidecar.Program.execute command
  | none =>
    IO.eprintln "error: wrong arguments; for more information, try '--help'"
    return 2
