import Quiesce.Json.Record

/-!
# Runners

The entries of the registry, and their documents.

* `Runner.toJson` and `Runner.ofJson?` write and read an entry.
-/

namespace Quiesce

/-- Whether the agent of a runner is connected. -/
inductive Runner.Status where
  | online
  | offline
deriving DecidableEq, Repr

structure Runner.Label where
  id : Option Int64
  name : String
deriving DecidableEq, Repr

/-- An entry of the registry. -/
structure Runner where
  /-- The number the registry has given the runner, once it is registered. -/
  id : Option Int64
  name : String
  os : String
  status : Runner.Status
  /-- Whether the runner is at work on a job. -/
  busy : Bool
  labels : List Runner.Label
deriving DecidableEq, Repr

namespace Runner

def Status.word : Status → String
  | .online => "online"
  | .offline => "offline"

def Status.ofWord? (s : String) : Option Status :=
  if s = "online" then some .online
  else if s = "offline" then some .offline
  else none

/-- An integer of 64 bits as a document. -/
def idToJson (id : Int64) : Json := .ofInt id.toInt

def Label.toJson (l : Label) : Json :=
  .ofFields [("id", .ofOption idToJson l.id), ("name", .ofText l.name)]

def Label.ofJson? (j : Json) : Option Label := do
  let [id, name] ← j.members? ["id", "name"] | none
  return {
    id := ← id.defaulted? none (Json.nullable? Json.int64?)
    name := ← name.required? Json.text? }

def toJson (r : Runner) : Json :=
  .ofFields [
    ("id", .ofOption idToJson r.id),
    ("name", .ofText r.name),
    ("os", .ofText r.os),
    ("status", .ofText r.status.word),
    ("busy", .bool r.busy),
    ("labels", .array (r.labels.map Label.toJson))]

def ofJson? (j : Json) : Option Runner := do
  let [id, name, os, status, busy, labels] ←
    j.members? ["id", "name", "os", "status", "busy", "labels"] | none
  return {
    id := ← id.optional? Json.int64?
    name := ← name.required? Json.text?
    os := ← os.defaulted? "" Json.text?
    status := ← status.required? fun s => s.bareAlternative?.bind Status.ofWord?
    busy := ← busy.defaulted? false Json.bool?
    labels := ← labels.defaulted? [] (Json.arrayOf? Label.ofJson?) }

end Runner

end Quiesce
