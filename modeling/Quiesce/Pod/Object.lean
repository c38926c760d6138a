import Quiesce.Json.Kept
import Quiesce.Json.Record
import Quiesce.Pod.Document

/-!
# Pods as objects of the cluster

The cluster describes a pod by an object with its metadata and its status. Only what a `Pod` holds
is read; all else is skipped.

* `Pod.ofObject?` reads such an object.
* `Pod.annotationPatch` is the merge patch that adds annotations to one.
-/

namespace Quiesce.Pod

/-- The phase that the status of an object names; a pod without one is pending, and any other word
is an unknown phase. -/
def Phase.ofStatus : Option String → Phase
  | none => .pending
  | some word => (Phase.ofWord? word).getD .unknown

/-- The number of arrays and objects around the state of a container inside an object. -/
def stateDepth : Nat := 5

/-- The state of a container: a termination counts before anything said about its running. -/
def ContainerState.ofObject? (j : Json) : Option ContainerState := do
  let [start, finish] ← j.members? ["running", "terminated"] | none
  let start ← start.optional? fun v =>
    if v.isKept (Json.nestingLimit - stateDepth) then some v else none
  let finish ← finish.optional? fun t => do
    let [exitCode] ← t.members? ["exitCode"] | none
    exitCode.required? Json.int32?
  return match finish, start with
    | some code, _ => .terminated code
    | none, some _ => .running
    | none, none => .waiting

def Container.ofObject? (j : Json) : Option Container := do
  let [name, state] ← j.members? ["name", "state"] | none
  return {
    name := ← name.required? Json.text?
    state := ← state.defaulted? .waiting ContainerState.ofObject? }

def Condition.ofObject? (j : Json) : Option Condition := do
  let [kind, status, lastTransition] ←
    j.members? ["type", "status", "lastTransitionTime"] | none
  return {
    kind := ← kind.required? Json.text?
    status := ← status.required? Json.text?
    lastTransition := ← lastTransition.optional? instantOfJson? }

/-- Who a pod is: the part of an object that the pod's owner may change. -/
structure Metadata where
  name : String
  namespaceName : String
  version : Option String
  annotations : Annotations

/-- How a pod is: the part of an object that the cluster reports. -/
structure Status where
  phase : Option String
  containers : List Container
  conditions : List Condition

def Status.empty : Status := ⟨none, [], []⟩

def Metadata.ofObject? (j : Json) : Option Metadata := do
  let [name, namespaceName, version, annotations] ←
    j.members? ["name", "namespace", "resourceVersion", "annotations"] | none
  return {
    name := ← name.required? Json.text?
    namespaceName := ← namespaceName.defaulted? "" Json.text?
    version := ← version.optional? Json.text?
    annotations := ← annotations.defaulted? .empty annotationsOfJson? }

def Status.ofObject? (j : Json) : Option Status := do
  let [phase, containers, conditions] ←
    j.members? ["phase", "containerStatuses", "conditions"] | none
  return {
    phase := ← phase.optional? Json.text?
    containers := ← containers.defaulted? [] (Json.arrayOf? Container.ofObject?)
    conditions := ← conditions.defaulted? [] (Json.arrayOf? Condition.ofObject?) }

def ofParts (m : Metadata) (s : Status) : Pod where
  namespaceName := m.namespaceName
  name := m.name
  version := m.version
  annotations := m.annotations
  phase := Phase.ofStatus s.phase
  containers := s.containers
  conditions := s.conditions

/-- The pod that an object of the cluster describes. -/
def ofObject? (j : Json) : Option Pod := do
  let [metadata, status] ← j.members? ["metadata", "status"] | none
  return ofParts (← metadata.required? Metadata.ofObject?)
    (← status.defaulted? .empty Status.ofObject?)

/-- The merge patch that adds annotations to the pod, and that the cluster refuses if the pod is no
longer the version that was read. -/
def annotationPatch (p : Pod) (more : Annotations) : Json :=
  .ofFields [("metadata", .ofFields (
    ("annotations", annotationsToJson more) ::
      match p.version with
      | some version => [("resourceVersion", .ofText version)]
      | none => []))]

end Quiesce.Pod
