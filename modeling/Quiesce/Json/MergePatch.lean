import Quiesce.Json.Basic

/-!
# Merge patches

The JSON merge patch of RFC 7396: a patch that is an object replaces, field by field, what it names,
`null` removes a field, and any other patch replaces the whole value.

* `Json.merge` applies a patch.
-/

namespace Quiesce.Json

/-- Gives a field a value: in its place if the object has it, else at the end. -/
def setField (name : Option String) (value : Json) : Fields → Fields
  | [] => [(name, value)]
  | f :: fs => if f.1 = name then (name, value) :: fs else f :: setField name value fs

def removeField (name : Option String) (fs : Fields) : Fields :=
  fs.filter fun f => f.1 ≠ name

mutual

/-- The target after the patch. -/
def merge : (patch target : Json) → Json
  | .object changes, target => .object (mergeFields changes target.fields)
  | patch, _ => patch

/-- The fields of an object after the fields of a patch, one after the other. -/
def mergeFields : List (Option String × Json) → Fields → Fields
  | [], fs => fs
  | (name, change) :: changes, fs =>
    mergeFields changes
      (if change.isNull then removeField name fs
       else setField name (merge change ((field? name fs).getD .null)) fs)

end

end Quiesce.Json
