import Quiesce.Stop.Registration
import Quiesce.Stop.Tick

/-!
# Draining a runner

A drain repeats the steps of stopping one runner until its pod has been deleted. It starts by
recording the registration of the runner; after that each pass fetches the pod, makes one step on it
and deletes it if it may be deleted. Whatever fails is tried again in a later pass.

* `Drain.recordRegistration` is the start and `Drain.pass` a pass, each a program of its own.
* `Drain.run` makes as many passes as it takes, on a `Drain.Host`.
-/

namespace Quiesce.Drain

/-- What is drained, and how patiently. -/
structure Plan where
  target : Target
  podNamespace : String
  podName : String
  /-- How long a runner that does not register may hold up the deletion of its pod. -/
  timeout : Duration
  /-- The wait between two passes, unless there is a reason for another. -/
  retryDelay : Duration
deriving DecidableEq, Repr

/-! ### Notes -/

/-- How much attention a note deserves. -/
inductive Severity where
  | info
  | warning
  | error
deriving DecidableEq, Repr

/-- What a drain reports on its way. The attempts are counted without an upper bound here. The
process that drains counts them in 32 bits, so its reports agree with these for the first 2³² - 1
passes. -/
inductive Note where
  | unreadableAtStart (e : PodStoreError)
  | registered (runner id : String)
  | notRegistered (runner : String)
  | notRecorded (e : StopError)
  | unreadable (attempt : Nat) (e : PodStoreError) (wait : Duration)
  | stopped (runner : String)
  | undeletable (attempt : Nat) (e : PodStoreError)
  | noPod (runner : String)
  | postponed (e : StopError)
  | failed (e : StopError)
deriving DecidableEq, Repr

def Note.severity : Note → Severity
  | .registered _ _ => .info
  | .notRegistered _ => .info
  | .stopped _ => .info
  | .noPod _ => .info
  | .failed _ => .error
  | _ => .warning

def Severity.word : Severity → String
  | .info => "INFO"
  | .warning => "WARN"
  | .error => "ERROR"

def Note.message : Note → String
  | .unreadableAtStart e => "Could not fetch runner pod to record registration: " ++ e.message
  | .registered runner id => "Runner " ++ runner ++ " is registered with id " ++ id
  | .notRegistered runner => "Runner " ++ runner ++ " is not registered yet"
  | .notRecorded e => "Could not record runner registration: " ++ e.message
  | .unreadable attempt e wait =>
    "Failed to fetch runner pod (attempt " ++ Text.natText attempt ++ "): " ++ e.message
      ++ ". Retrying in " ++ wait.describe
  | .stopped runner => "Runner " ++ runner ++ " stopped gracefully"
  | .undeletable attempt e =>
    "Failed to delete runner pod (attempt " ++ Text.natText attempt ++ "): " ++ e.message
  | .noPod runner => "Runner " ++ runner ++ " has no pod; nothing to delete"
  | .postponed e => "Graceful stop postponed: " ++ e.message
  | .failed e => "Graceful stop tick failed: " ++ e.fullMessage

def Note.line (n : Note) : String :=
  n.severity.word ++ " " ++ n.message

/-! ### The start -/

/-- The notes on an attempt to record the registration. -/
def registrationNotes (runner : String) : RegistrationOutcome → List Note
  | .registered pod =>
    match pod.annotation? Pod.runnerIdKey with
    | some id => [.registered runner id]
    | none => []
  | .requeue _ (some e) => [.notRecorded e]
  | .requeue _ none => [.notRegistered runner]

/-- Records the number of the runner on its pod if it is known already. Since a runner can also be
looked up by its name, nothing here holds up the drain. -/
def recordRegistration (plan : Plan) : Program (List Note) :=
  .call (.get plan.podNamespace plan.podName) fun
    | .ok (some pod) => do
      let outcome ← ensureRegistered plan.target pod
      pure (registrationNotes plan.target.name outcome)
    | .ok none => pure []
    | .error e => pure [.unreadableAtStart e]

/-! ### Passes -/

/-- What came of a pass: its notes, and the wait before the next one, none if it was the last. -/
structure Pass where
  notes : List Note
  next : Option Duration
deriving DecidableEq, Repr

/-- The end of a pass that found its pod deletable. A pod that is gone already counts as deleted. -/
def deletePod (plan : Plan) (attempt : Nat) (pod : Pod) : Program Pass :=
  .call (.delete pod) fun
    | .ok () => pure ⟨[.stopped plan.target.name], none⟩
    | .error e =>
      -- Somebody else has deleted the pod, which is all that was wanted.
      if e.isNotFound then pure ⟨[.stopped plan.target.name], none⟩
      else pure ⟨[.undeletable attempt e], some plan.retryDelay⟩

/-- The end of a pass, after its step. -/
def conclude (plan : Plan) (attempt : Nat) : TickOutcome → Program Pass
  | .deletable (some pod) => deletePod plan attempt pod
  | .deletable none => pure ⟨[.noPod plan.target.name], none⟩
  | .requeue after cause => pure ⟨cause.toList.map .postponed, some after⟩
  | .failed e => pure ⟨[.failed e], some plan.retryDelay⟩

/-- One pass, `attempt` being its number, which no call and no wait depends on: it is only ever
reported, in the notes on a failure. -/
def pass (plan : Plan) (attempt : Nat) : Program Pass :=
  .call (.get plan.podNamespace plan.podName) fun
    | .ok pod => do
      let outcome ← tick plan.target plan.timeout plan.retryDelay pod
      conclude plan attempt outcome
    | .error e => pure ⟨[.unreadable attempt e plan.retryDelay], some plan.retryDelay⟩

/-! ### The whole drain -/

/-- What a drain runs on: answers to its calls, and a way to let time pass. -/
structure Host (σ : Type) where
  answer : Handler σ
  /-- The time that has passed since the drain began. -/
  elapsed : σ → Duration
  /-- Lets time pass; `false` if the drain was stopped meanwhile. -/
  sleep : Duration → σ → Bool × σ

structure Report (σ : Type) where
  /-- Whether the drain came to its end. -/
  finished : Bool
  notes : List Note
  /-- The calls in order, each with the time that had passed. -/
  calls : List (Duration × Call)
  state : σ

/-- A report with what came before it. -/
def Report.after {σ : Type} (notes : List Note) (calls : List (Duration × Call))
    (r : Report σ) : Report σ :=
  { r with notes := notes ++ r.notes, calls := calls ++ r.calls }

/-- The calls of a program, each with the time that had passed when it began. -/
def stamped {σ α : Type} (host : Host σ) (start : σ) (outcome : Outcome σ α) :
    List (Duration × Call) :=
  outcome.calls.map fun c => (host.elapsed start, c)

/-- Makes passes until one is the last, at most the given number of them. The first has the number
`attempt`, and the numbers go up from there without a bound, as `Note` says. -/
def runPasses {σ : Type} (host : Host σ) (plan : Plan) : (passes attempt : Nat) → σ → Report σ
  | 0, _, s => ⟨false, [], [], s⟩
  | passes + 1, attempt, s =>
    let outcome := (pass plan attempt).run host.answer s
    let rest : Report σ :=
      match outcome.value.next with
      | none => ⟨true, [], [], outcome.state⟩
      | some wait =>
        match host.sleep wait outcome.state with
        | (false, s) => ⟨false, [], [], s⟩
        | (true, s) => runPasses host plan passes (attempt + 1) s
    rest.after outcome.value.notes (stamped host s outcome)

/-- Drains a runner in at most the given number of passes. -/
def run {σ : Type} (host : Host σ) (plan : Plan) (passes : Nat) (s : σ) : Report σ :=
  let start := (recordRegistration plan).run host.answer s
  (runPasses host plan passes 1 start.state).after start.value (stamped host s start)

end Quiesce.Drain
