import Quiesce.Stop.Annotate
import Quiesce.Stop.Error

/-!
# Deciding whether a pod may be deleted

A runner is removed from the registry, and what the registry answers decides, together with the
marks on the pod, whether the pod may be deleted.

The registry cannot tell a runner that was removed before from one that will never register or has
not registered yet: none of them is found. The marks tell them apart: the complete mark says that
the runner was removed, and the start mark bounds the wait for a runner that may still show up.

* `findRunner` looks a runner up by its name.
* `unregister` removes a runner and says what came of it.
* `ensureUnregistered` is the whole decision.
-/

namespace Quiesce

structure Target where
  scope : Scope
  /-- The name under which the registry knows the runner. -/
  name : String
deriving DecidableEq, Repr

/-- Whether the pod of a runner may be deleted. -/
inductive Decision where
  /-- The runner can no longer be given a job. -/
  | deletable
  /-- Not yet: decide again after a while; `cause` is worth reporting. -/
  | requeue (after : Duration) (cause : Option StopError)
  /-- Something unexpected happened; the caller chooses when to try again. -/
  | failed (error : StopError)
deriving DecidableEq, Repr

/-- The wait after the registry has slowed its caller down. -/
def rateLimitDelay : Duration := .ofSeconds 60

/-! ### Looking up and removing -/

def firstNamed (name : String) (runners : List Runner) : Option Runner :=
  runners.find? fun r => r.name = name

/-- Looks a runner up by its name among all runners of its scope. -/
def findRunner (target : Target) : Program (Except RegistryError (Option Runner)) :=
  .call (.list target.scope) fun answer => .done (Except.map (firstNamed target.name) answer)

/-- What came of removing a runner. -/
inductive Removal where
  | removed
  /-- The registry does not know the runner: it was removed before, will never register, or has not
  registered yet. -/
  | notFound
  | failed (error : RegistryError)
deriving DecidableEq, Repr

/-- What the answer to a removal says. -/
def Removal.ofAnswer : Except RegistryError Unit → Removal
  | .ok () => .removed
  | .error e => if e.isNotFound then .notFound else .failed e

def removeById (scope : Scope) (id : Int64) : Program Removal :=
  .call (.remove scope id) fun answer => .done (.ofAnswer answer)

/-- Removes a runner from the registry by its number, which is looked up if it is not known. Whether
the runner is at work is left to the registry, which refuses to remove one that is. -/
def unregister (target : Target) : Option Int64 → Program Removal
  | some id => removeById target.scope id
  | none => do
    match ← findRunner target with
    | .error e => pure (.failed e)
    | .ok found =>
      match found.bind (·.id) with
      | some id => removeById target.scope id
      | none => pure .notFound

/-! ### Deciding -/

/-- The decision on a runner that is still within its time or past it, `started` being the text of
the start mark. A start that is yet to come counts as just now. -/
def decideByStart (timeout retryDelay : Duration) (started : String) : Program Decision :=
  match Timestamp.read started with
  | .error reason => pure (.failed (.invalidTimestamp Pod.startKey started reason))
  | .ok start =>
    .call .now fun now =>
      if Instant.elapsed now start < timeout then .done (.requeue retryDelay none)
      else .done .deletable

/-- The decision on a runner that the registry does not know. -/
def decideNotFound (timeout retryDelay : Duration) : Option Pod → Program Decision
  | none => pure .deletable
  | some pod =>
    if pod.isStopped then pure .deletable
    else
      match pod.mark? Pod.startKey with
      | some started => decideByStart timeout retryDelay started
      | none => pure (.requeue retryDelay none)

/-- The decision after a failure of the registry. A runner whose removal is refused for its state
although its container has terminated cannot come back, so its pod may go; the look-up is made for
the record only. -/
def decideFailure (target : Target) (pod : Option Pod) (e : RegistryError) : Program Decision :=
  if e.isRateLimited then pure (.requeue rateLimitDelay (some (.registry e)))
  else if e.isStillRegistering && (pod.bind (·.exitCode?)).isSome then do
    let _ ← findRunner target
    pure .deletable
  else pure (.failed (.registry e))

/-- The number that the pod records for the runner, if it records one. -/
def recordedId (pod : Option Pod) : Except StopError (Option Int64) :=
  match pod.bind (·.annotation? Pod.runnerIdKey) with
  | none => .ok none
  | some text =>
    match Text.readInt64 text with
    | .ok id => .ok (some id)
    | .error reason => .error (.invalidRunnerId text reason)

/-- Removes the runner from the registry, if that is still to be done, and decides whether its pod
may be deleted. There is no pod if it was never created. -/
def ensureUnregistered (target : Target) (timeout retryDelay : Duration) (pod : Option Pod) :
    Program Decision :=
  if pod.any (·.isMarked Pod.completeKey) then pure .deletable
  else
    match recordedId pod with
    | .error e => pure (.failed e)
    | .ok id => do
      match ← unregister target id with
      | .removed => pure .deletable
      | .notFound => decideNotFound timeout retryDelay pod
      | .failed e => decideFailure target pod e

end Quiesce
