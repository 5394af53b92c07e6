import Std.Time.DateTime.Timestamp
import Teardown.CommandLine
import Teardown.Store.Repository

/-!
# The program

This module is the only one that acts on the outside: it reads the variables of the environment
and the file `.env`, the clocks and the random source of the system, and writes the log. The
tables are held by the process and start empty, and there is no network, so that every message
to the remote service fails in transport. A process that serves reads one request a line, a
method and a target, and writes the status and the body of its reply.
-/

namespace Teardown.Program

/-- The state of the process: the queue and the tables. -/
abbrev Process := StateT Queue (StateT Store IO)

/-- The present moment in universal time. -/
def moment : IO Stamp := do
  let micros := (← Std.Time.Timestamp.now).toNanosecondsSinceUnixEpoch.val / 1000
  return (Stamp.ofMicros? micros).getD ⟨1970, 1, 1, 0, 0, 0, 0, none⟩

/-- The reading of the clock that never goes back, in seconds. -/
def reading : IO Seconds := do
  return .decimal (Float.ofNat (← IO.monoNanosNow) / 1000000000.0)

/-- Waits for a span of time. -/
def pause (span : Seconds) : IO Unit :=
  IO.sleep (span.toFloat * 1000.0).toUInt32

/-- A random task id in the usual five groups of hexadecimal digits. -/
def newId : IO String := do
  let bytes ← IO.getRandomBytes 16
  let digits := bytes.toList.zipIdx.flatMap fun (b, i) =>
    Text.hexDigits 2 (if i = 6 then 64 + b.toNat % 16 else if i = 8 then 128 + b.toNat % 64
      else b.toNat)
  return String.ofList (digits.zipIdx.flatMap fun (d, i) =>
    if [8, 12, 16, 20].contains i then ['-', d] else [d])

/-- Writes an entry of the log to the error stream. -/
def write (e : Log.Entry) : IO Unit := do
  IO.eprintln ((← moment).stored ++ " " ++ e.level.name ++ " [" ++ e.source ++ "] " ++ e.message)

/-- The host that the process provides. -/
def host : Host Process where
  repository := Store.repository (Stamp.stored <$> moment)
  databaseAnswers := return true
  clock := ⟨reading, fun span => pause span⟩
  send _ := return .error .transport
  close := return ()
  newId := newId
  write e := write e
  horizon := 1000000000

/-- The variables of the environment that name settings, in capital or in small letters. -/
def environment : IO (List (String × String)) := do
  let names := Settings.names.flatMap fun name => [name, Text.capitalize name]
  let found ← names.mapM fun name => do
    return (← IO.getEnv name).map fun text => (name, text)
  return found.filterMap id

/-- The text of the file of variables, if there is one. -/
def variablesFile : IO (Option String) := do
  try
    return some (← IO.FS.readFile ".env")
  catch _ =>
    return none

/-- Replies to the requests of the standard input until it ends. -/
partial def serve (service : Api.Service Process) : Process Unit := do
  let line ← (← IO.getStdin).getLine
  if line.isEmpty then return
  match line.trimAscii.toString.splitOn " " with
  | [method, target] =>
    let reply ← service.serve (.ofTarget method target)
    let body := match reply.body with
      | .json v => v.compact
      | .text t => t
    IO.println (toString reply.status ++ " " ++ body)
  | _ => IO.println "400"
  serve service

/-- Reports a failure that ends the program. -/
def abort (f : Failure) : IO UInt32 := do
  IO.eprintln f.line
  return 1

/-- Runs a part of the worker on an empty queue and empty tables. -/
def start {α : Type} (p : Process α) : IO α :=
  (p.run' { history := Queue.defaultHistory.toNat }).run' .empty

/-- Runs a command line and returns its exit code. -/
def run (texts : List String) : IO UInt32 := do
  match CommandLine.Plan.ofTexts texts (← environment) (← variablesFile) with
  | .error (.usage cause) =>
    IO.eprintln cause.line
    return 2
  | .error (.failed cause) => abort cause
  | .ok .help =>
    IO.println ("usage: " ++ CommandLine.UsageError.program ++ " [COMMAND] [FLAG VALUE]...")
    return 0
  | .ok (.serve log wiring) =>
    start (serve (wiring.worker (host.filtered log)).service)
    return 0
  | .ok (.stop log wiring order) =>
    match ← start (CommandLine.stop (wiring.worker (host.filtered log)) order) with
    | .code code => return code.toUInt32
    | .raised cause => abort cause
    | .unfinished => return 1

end Teardown.Program

/-- The entry point. -/
def main (texts : List String) : IO UInt32 :=
  Teardown.Program.run texts
