import Quiesce.Http.Document
import Quiesce.Services
import Std.Time.DateTime.Timestamp

/-!
# The command line

Drains the runner that the environment names. The process does not talk to the network itself: it
writes each request on standard output, one document a line, and takes the reply from standard
input; where no reply comes, the connection counts as broken. Notes go to standard error. A panic
ends the process with the exit code 101.
-/

namespace Quiesce.CommandLine

open Http (Network Reply Request)

def variableNames : List String :=
  ["REGISTRY_URL", "REGISTRY_TOKEN", "CLUSTER_API_URL", "CLUSTER_TOKEN", "RUNNER_ENTERPRISE",
    "RUNNER_ORGANIZATION", "RUNNER_REPOSITORY", "RUNNER_NAME", "POD_NAMESPACE", "POD_NAME",
    "UNREGISTRATION_TIMEOUT", "UNREGISTRATION_RETRY_DELAY"]

def environment : IO Environment := do
  let values ← variableNames.mapM fun name => do return (name, ← IO.getEnv name)
  return fun name => ((values.find? (·.1 = name)).bind (·.2)).map (·.toUTF8)

def present : IO Instant := do
  let n := (← Std.Time.Timestamp.now).toNanosecondsSinceUnixEpoch.val
  match Instant.ofUnix? (n / 1000000000) (n % 1000000000).toNat with
  | some t => return t
  | none => throw (IO.userError "the clock is out of range")

/-- Hands a request over and waits for its reply. -/
def carry (r : Request) : IO Reply := do
  let output ← IO.getStdout
  output.putStrLn r.toJson.render
  output.flush
  let line ← (← IO.getStdin).getLine
  return ((Json.read line).bind Reply.ofJson?).getD .lost

/-- Answers a call: hands over the requests that it makes, one after the other, until every one of
them has its reply or there is a panic over one. -/
partial def answer (services : Services) (call : Call) (clock : Instant) (replies : List Reply) :
    IO (Except Panic call.Answer) := do
  let (result, after) := services.answer call (.running (.scripted replies) clock)
  match after.panic, after.network.sent.drop replies.length with
  | some panic, _ => return .error panic
  | none, [] => return .ok result
  | none, request :: _ => answer services call clock (replies ++ [← carry request])

/-- Runs a program as far as the first panic. -/
def perform {α : Type} (services : Services) : Program α → IO (Except Panic α)
  | .done a => return .ok a
  | .call c next => do
    match ← answer services c (← present) [] with
    | .ok result => perform services (next result)
    | .error panic => return .error panic

def report (notes : List Drain.Note) : IO Unit := do
  let errors ← IO.getStderr
  for note in notes do
    errors.putStrLn note.line

/-- The longest time that is slept at once, in milliseconds. -/
def longestSleep : Nat := 86400000

/-- Sleeps for a number of milliseconds. -/
partial def sleep (milliseconds : Nat) : IO Unit := do
  IO.sleep (UInt32.ofNat (min milliseconds longestSleep))
  if milliseconds > longestSleep then sleep (milliseconds - longestSleep)

/-- Makes passes until one is the last. -/
partial def passes (services : Services) (plan : Drain.Plan) (attempt : Nat) :
    IO (Except Panic Unit) := do
  match ← perform services (Drain.pass plan attempt) with
  | .error panic => return .error panic
  | .ok pass => do
    report pass.notes
    match pass.next with
    | none => return .ok ()
    | some wait => do
      sleep (wait.milliseconds + if wait.nanoseconds % 1000000 = 0 then 0 else 1)
      passes services plan (attempt + 1)

/-- Drains a runner as its plan says. -/
def drain (services : Services) (plan : Drain.Plan) : IO (Except Panic Unit) := do
  match ← perform services (Drain.recordRegistration plan) with
  | .error panic => return .error panic
  | .ok notes => do
    report notes
    passes services plan 1

/-- Drains the runner that the environment names. -/
def run : IO UInt32 := do
  match Config.start (← environment) with
  | .error e =>
    (← IO.getStderr).putStr e.report
    return 1
  | .ok config => do
    match ← drain (.ofConfig config) config.plan with
    | .ok () => return 0
    | .error panic =>
      (← IO.getStderr).putStrLn panic.message
      return 101

end Quiesce.CommandLine

def main : IO UInt32 :=
  Quiesce.CommandLine.run
