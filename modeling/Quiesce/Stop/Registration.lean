import Quiesce.Stop.Decision

/-!
# Recording a registration

The number that the registry gives a runner is recorded on the pod once it is known, so that the
runner can later be removed by it.

* `ensureRegistered` makes one attempt.
-/

namespace Quiesce

/-- What came of one attempt. -/
inductive RegistrationOutcome where
  /-- Nothing is left to be recorded. -/
  | registered (pod : Pod)
  /-- The runner does not show up yet, or could not be looked up or recorded: try again after a
  while. -/
  | requeue (after : Duration) (cause : Option StopError)
deriving DecidableEq, Repr

/-- The wait between two look-ups of a runner that is yet to register. -/
def registrationPollDelay : Duration := .ofSeconds 10

/-- The text of a runner's number in the annotation that records it. -/
def runnerIdText (id : Int64) : String :=
  Text.intText id.toInt

/-- Records the number of the runner on its pod once the runner has registered. A runner that has
stopped, and a pod that has a number already, are left as they are. -/
def ensureRegistered (target : Target) (pod : Pod) : Program RegistrationOutcome :=
  if pod.isStopped || pod.hasAnnotation Pod.runnerIdKey then pure (.registered pod)
  else do
    match ← findRunner target with
    | .error e => pure (.requeue registrationPollDelay (some (.registry e)))
    | .ok found =>
      match found.bind (·.id) with
      | none => pure (.requeue registrationPollDelay none)
      | some id =>
        match ← annotateOnce pod Pod.runnerIdKey (runnerIdText id) with
        | .ok pod => pure (.registered pod)
        | .error e => pure (.requeue registrationPollDelay (some (.podStore e)))

end Quiesce
