import Quiesce.Json.Record
import Quiesce.Pod.Basic
import Quiesce.Time.Lenient

/-!
# Pods as documents

The document form of a pod, with a field for each part of it.

* `Pod.toJson` writes a pod and `Pod.ofJson?` reads one.
-/

namespace Quiesce.Pod

/-! ### Writing -/

def annotationsToJson (a : Annotations) : Json :=
  .ofFields (a.entries.map fun e => (e.1, .ofText e.2))

/-- The state of a container: a word, or the word `Terminated` with the exit code. -/
def ContainerState.toJson : ContainerState → Json
  | .waiting => .ofText "Waiting"
  | .running => .ofText "Running"
  | .terminated code => .ofFields [("Terminated", .ofFields [("exit_code", .ofInt code.toInt)])]

def Container.toJson (c : Container) : Json :=
  .ofFields [("name", .ofText c.name), ("state", c.state.toJson)]

/-- The instant as a document: a timestamp with all of its digits. -/
def instantToJson (t : Instant) : Json :=
  .ofText (Timestamp.write t .exact)

def Condition.toJson (c : Condition) : Json :=
  .ofFields [
    ("condition_type", .ofText c.kind),
    ("status", .ofText c.status),
    ("last_transition_time", .ofOption instantToJson c.lastTransition)]

def toJson (p : Pod) : Json :=
  .ofFields [
    ("namespace", .ofText p.namespaceName),
    ("name", .ofText p.name),
    ("resource_version", .ofOption .ofText p.version),
    ("annotations", annotationsToJson p.annotations),
    ("phase", .ofText p.phase.word),
    ("container_statuses", .array (p.containers.map Container.toJson)),
    ("conditions", .array (p.conditions.map Condition.toJson))]

/-! ### Reading -/

/-- The texts under names that an object holds; of a repeated name the last counts. -/
def annotationsOfJson? : Json → Option Annotations
  | .object fields => do
    let entries ← fields.mapM fun f => do return (← f.1, ← f.2.text?)
    return .ofList entries
  | _ => none

def instantOfJson? (j : Json) : Option Instant :=
  j.text?.bind Timestamp.readLenient

def ContainerState.ofJson? (j : Json) : Option ContainerState :=
  match j.bareAlternative? with
  | some word =>
    if word = "Waiting" then some .waiting
    else if word = "Running" then some .running
    else none
  | none => do
    let (word, content) ← j.alternative?
    guard (word = "Terminated")
    let [exitCode] ← content.members? ["exit_code"] | none
    return .terminated (← exitCode.required? Json.int32?)

def Container.ofJson? (j : Json) : Option Container := do
  let [name, state] ← j.members? ["name", "state"] | none
  return {
    name := ← name.required? Json.text?
    state := ← state.required? ContainerState.ofJson? }

def Condition.ofJson? (j : Json) : Option Condition := do
  let [kind, status, lastTransition] ←
    j.members? ["condition_type", "status", "last_transition_time"] | none
  return {
    kind := ← kind.required? Json.text?
    status := ← status.required? Json.text?
    lastTransition := ← lastTransition.optional? instantOfJson? }

def ofJson? (j : Json) : Option Pod := do
  let [namespaceName, name, version, annotations, phase, containers, conditions] ←
    j.members? ["namespace", "name", "resource_version", "annotations", "phase",
      "container_statuses", "conditions"] | none
  return {
    namespaceName := ← namespaceName.required? Json.text?
    name := ← name.required? Json.text?
    version := ← version.optional? Json.text?
    annotations := ← annotations.required? annotationsOfJson?
    phase := ← phase.required? fun w => w.bareAlternative?.bind Phase.ofWord?
    containers := ← containers.required? (Json.arrayOf? Container.ofJson?)
    conditions := ← conditions.required? (Json.arrayOf? Condition.ofJson?) }

end Quiesce.Pod
