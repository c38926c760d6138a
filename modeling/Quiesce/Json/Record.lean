import Quiesce.Json.Basic

/-!
# Records in documents

A record is written as an object with a field for each of its members, or as an array of them in
their order. Names that the record does not have are skipped together with their values; a name that
it has may stand only once.

* `Json.members?` lines the members up in their order.
* `Member.required?`, `Member.optional?` and `Member.defaulted?` read one member.
-/

namespace Quiesce.Json

/-- What a document says about one member of a record. -/
inductive Member where
  | value (j : Json)
  /-- The object has no field of that name. -/
  | missing
  /-- The array ends before the member. -/
  | cut
deriving Repr, Inhabited

namespace Member

/-- A member that has to be there. -/
def required? {α : Type} (decode : Json → Option α) : Member → Option α
  | .value j => decode j
  | _ => none

/-- A member that may be `null`, and in an object may be missing. -/
def optional? {α : Type} (decode : Json → Option α) : Member → Option (Option α)
  | .value j => nullable? decode j
  | .missing => some none
  | .cut => none

/-- A member with a default for where it is left out. -/
def defaulted? {α : Type} (default : α) (decode : Json → Option α) : Member → Option α
  | .value j => decode j
  | _ => some default

end Member

/-- The member of that name among the fields of an object, unless the name is repeated. -/
def member? (fields : Fields) (name : String) : Option Member :=
  match fields.filter (fun f => f.1 = some name) with
  | [] => some .missing
  | [f] => some (.value f.2)
  | _ => none

/-- The members of an array, for as many names. -/
def positional? : (names : List String) → List Json → Option (List Member)
  | [], [] => some []
  | [], _ :: _ => none
  | _ :: names, [] => (positional? names []).map (.cut :: ·)
  | _ :: names, item :: items => (positional? names items).map (.value item :: ·)

/-- The members of a record with these names, in their order. -/
def members? (names : List String) : Json → Option (List Member)
  | .object fields =>
    if fields.all (fun f => f.1.isSome) then names.mapM (member? fields) else none
  | .array items => positional? names items
  | _ => none

/-- The name and the content of a value that is one of several alternatives: an object with the one
field of that name. -/
def alternative? : Json → Option (String × Json)
  | .object [(some name, content)] => some (name, content)
  | _ => none

/-- The name of an alternative without content: a string, or an object with `null` for content. -/
def bareAlternative? (j : Json) : Option String :=
  match j with
  | .string s => s
  | _ =>
    match alternative? j with
    | some (name, .null) => some name
    | _ => none

end Quiesce.Json
