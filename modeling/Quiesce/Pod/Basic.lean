import Quiesce.Pod.Annotations
import Quiesce.Time.Instant

/-!
# Pods

The pod that backs a runner, and what the stopping of the runner reads off it.

* `Pod.exitCode?` is the exit code of the runner's own container.
* `Pod.isStopped` says whether the runner can no longer be at work.
-/

namespace Quiesce

/-- Where a pod is in its life. -/
inductive Pod.Phase where
  | pending
  | running
  | succeeded
  | failed
  | unknown
deriving DecidableEq, Repr

inductive Pod.ContainerState where
  | waiting
  | running
  | terminated (exitCode : Int32)
deriving DecidableEq, Repr

structure Pod.Container where
  name : String
  state : Pod.ContainerState
deriving DecidableEq, Repr

/-- One condition of a pod, such as being ready. -/
structure Pod.Condition where
  kind : String
  /-- Whether the condition holds: `True`, `False` or `Unknown`. -/
  status : String
  lastTransition : Option Instant
deriving DecidableEq, Repr

/-- A pod that backs one runner. -/
structure Pod where
  namespaceName : String
  name : String
  /-- The version of the stored pod that this one was read from. -/
  version : Option String
  annotations : Annotations
  phase : Pod.Phase
  containers : List Pod.Container
  conditions : List Pod.Condition
deriving DecidableEq, Repr

namespace Pod

/-! ### Marks -/

/-- The annotation with the number that the registry has given the runner. -/
def runnerIdKey : String := "actions-runner/id"

/-- The annotation with the instant at which unregistration began. -/
def startKey : String := "actions-runner/unregistration-start-timestamp"

/-- The annotation with the instant at which the runner was known to be unregistered. -/
def completeKey : String := "actions-runner/unregistration-complete-timestamp"

/-- The name of the container that the runner's agent runs in. -/
def runnerContainer : String := "runner"

def qualifiedName (p : Pod) : String :=
  p.namespaceName ++ "/" ++ p.name

def annotation? (p : Pod) (key : String) : Option String :=
  p.annotations.get? key

/-- Whether the pod has an annotation, be it empty. -/
def hasAnnotation (p : Pod) (key : String) : Bool :=
  p.annotations.contains key

/-- The text of an annotation that is there and not empty. -/
def mark? (p : Pod) (key : String) : Option String :=
  (p.annotation? key).filter fun s => !s.isEmpty

/-- Whether an annotation is there and not empty. -/
def isMarked (p : Pod) (key : String) : Bool :=
  (p.mark? key).isSome

def annotate (p : Pod) (more : Annotations) : Pod :=
  { p with annotations := p.annotations.merge more }

/-! ### Progress of the runner -/

/-- The exit code of a container that has terminated. -/
def ContainerState.exitCode? : ContainerState → Option Int32
  | .terminated code => some code
  | _ => none

/-- The exit code of the runner's container: of the containers of that name, the first that has
terminated. -/
def exitCode? (p : Pod) : Option Int32 :=
  (p.containers.filter fun c => c.name = runnerContainer).findSome? fun c => c.state.exitCode?

/-- Whether the pod or the runner in it has stopped: the pod is at the end of its life, or it is
running and the runner's container has left with exit code 0. -/
def isStopped (p : Pod) : Bool :=
  match p.phase with
  | .succeeded => true
  | .failed => true
  | .running => p.exitCode? = some 0
  | .pending => false
  | .unknown => false

/-- When the condition of that kind and status last changed. -/
def transitionTime? (p : Pod) (kind status : String) : Option Instant :=
  (p.conditions.find? fun c => c.kind = kind ∧ c.status = status).bind (·.lastTransition)

def Phase.word : Phase → String
  | .pending => "Pending"
  | .running => "Running"
  | .succeeded => "Succeeded"
  | .failed => "Failed"
  | .unknown => "Unknown"

def Phase.ofWord? (s : String) : Option Phase :=
  if s = "Pending" then some .pending
  else if s = "Running" then some .running
  else if s = "Succeeded" then some .succeeded
  else if s = "Failed" then some .failed
  else if s = "Unknown" then some .unknown
  else none

@[simp] theorem Phase.ofWord?_word (p : Phase) : Phase.ofWord? p.word = some p := by
  cases p <;> rfl

end Pod

end Quiesce
