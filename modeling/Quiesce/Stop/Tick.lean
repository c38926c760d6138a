import Quiesce.Stop.Decision

/-!
# One step of stopping a runner

A step records on the pod that unregistration has begun, decides whether the pod may be deleted, and
if so records that unregistration is complete. Each part may be repeated, so a step that is broken
off anywhere is made good by the next one. A step never waits: it says how long to wait before the
next.

* `tick` is the step.
-/

namespace Quiesce

/-- What came of one step. -/
inductive TickOutcome where
  /-- The runner can no longer be given a job, and its pod may be deleted; there is none if there
  was none to begin with. -/
  | deletable (pod : Option Pod)
  /-- Not yet: make the next step after a while; `cause` is worth reporting. -/
  | requeue (after : Duration) (cause : Option StopError)
  /-- The step failed; the caller chooses when to make the next one. -/
  | failed (error : StopError)
deriving DecidableEq, Repr

namespace TickOutcome

def isDeletable : TickOutcome → Bool
  | .deletable _ => true
  | _ => false

def requeueAfter? : TickOutcome → Option Duration
  | .requeue after _ => some after
  | _ => none

/-- What held the step up. -/
def error? : TickOutcome → Option StopError
  | .requeue _ cause => cause
  | .failed e => some e
  | .deletable _ => none

/-- The outcome of a step that could not write on the pod. A pod that has changed is read again
later; any other failure is unexpected. -/
def ofPatchError (retryDelay : Duration) (e : PodStoreError) : TickOutcome :=
  if e.isConflict then .requeue retryDelay (some (.podStore e)) else .failed (.podStore e)

end TickOutcome

/-- Writes a mark on the pod, if there is one. -/
def markPod (key : String) : Option Pod → Program (Except PodStoreError (Option Pod))
  | none => pure (.ok none)
  | some pod => do
    let answer ← mark pod key
    pure (Except.map some answer)

/-- One step of stopping a runner, on the pod as it was last read. -/
def tick (target : Target) (timeout retryDelay : Duration) (pod : Option Pod) :
    Program TickOutcome := do
  match ← markPod Pod.startKey pod with
  | .error e => pure (.ofPatchError retryDelay e)
  | .ok pod =>
    match ← ensureUnregistered target timeout retryDelay pod with
    | .requeue after cause => pure (.requeue after cause)
    | .failed e => pure (.failed e)
    | .deletable =>
      match ← markPod Pod.completeKey pod with
      | .error e => pure (.ofPatchError retryDelay e)
      | .ok pod => pure (.deletable pod)

end Quiesce
