/-!
# JSON values

The values of a JSON document, close enough to the text that a reader may later ask how a number was
written or whether a string denotes a text at all.

* `Number` keeps sign, whole part, fraction and exponent apart; `Number.toInt?` is its value where
  it was written as an integer.
* `Json` keeps the fields of an object in the order of the document, repeated names included.
-/

namespace Quiesce

/-- A number as it is written in a document. -/
structure Json.Number where
  negative : Bool
  whole : Nat
  /-- The digits after the decimal point, none if there is no point. -/
  fraction : List Char
  exponent : Option Int
deriving DecidableEq, Repr

/-- A JSON value. A string, or the name of a field, is `none` where an escape stands for half of a
surrogate pair whose other half is missing: such a literal denotes no text. -/
inductive Json where
  | null
  | bool (b : Bool)
  | number (n : Json.Number)
  | string (text : Option String)
  | array (items : List Json)
  | object (fields : List (Option String × Json))
deriving Repr, Inhabited

namespace Json

/-- The fields of an object, in order. -/
abbrev Fields := List (Option String × Json)

/-- The number that an integer is written as. -/
def Number.ofInt (i : Int) : Number :=
  ⟨i < 0, i.natAbs, [], none⟩

/-- The integer, if the number is written as one; a zero with a minus sign is not. -/
def Number.toInt? (n : Number) : Option Int :=
  if n.fraction = [] ∧ n.exponent = none ∧ ¬(n.negative ∧ n.whole = 0) then
    some (if n.negative then -(n.whole : Int) else n.whole)
  else none

def ofInt (i : Int) : Json := .number (.ofInt i)

def ofText (s : String) : Json := .string (some s)

def ofFields (fields : List (String × Json)) : Json :=
  .object (fields.map fun f => (some f.1, f.2))

/-- A value that may be absent, `null` standing for its absence. -/
def ofOption {α : Type} (encode : α → Json) : Option α → Json
  | none => .null
  | some a => encode a

/-- The fields of an object, none for any other value. -/
def fields : Json → Fields
  | .object fs => fs
  | _ => []

/-- The value of the first field of that name. -/
def field? (name : Option String) (fs : Fields) : Option Json :=
  (fs.find? fun f => f.1 = name).map (·.2)

def isNull : Json → Bool
  | .null => true
  | _ => false

def text? : Json → Option String
  | .string s => s
  | _ => none

def bool? : Json → Option Bool
  | .bool b => some b
  | _ => none

def int? : Json → Option Int
  | .number n => n.toInt?
  | _ => none

/-- The items of an array, each decoded. -/
def arrayOf? {α : Type} (decode : Json → Option α) : Json → Option (List α)
  | .array items => items.mapM decode
  | _ => none

/-- A value that may be absent: `null`, or something to decode. -/
def nullable? {α : Type} (decode : Json → Option α) (j : Json) : Option (Option α) :=
  if j.isNull then some none else (decode j).map some

def intBetween? (lo hi : Int) (j : Json) : Option Int :=
  j.int?.filter fun i => lo ≤ i ∧ i ≤ hi

def int64? (j : Json) : Option Int64 :=
  (j.intBetween? (-0x8000000000000000) 0x7fffffffffffffff).map Int64.ofInt

def int32? (j : Json) : Option Int32 :=
  (j.intBetween? (-0x80000000) 0x7fffffff).map Int32.ofInt

def word64? (j : Json) : Option UInt64 :=
  (j.intBetween? 0 0xffffffffffffffff).map fun i => UInt64.ofNat i.toNat

/-- An integer that is put into a document is the integer that is found there. -/
theorem toInt?_ofInt (i : Int) : (Number.ofInt i).toInt? = some i := by
  have hpos : ¬(decide (i < 0) = true ∧ i.natAbs = 0) := by
    rw [decide_eq_true_eq]
    omega
  have hval : (if decide (i < 0) = true then -(i.natAbs : Int) else i.natAbs) = i := by
    by_cases h : i < 0
    · rw [decide_eq_true h, if_pos rfl]
      omega
    · rw [decide_eq_false h, if_neg (by decide)]
      omega
  unfold Number.toInt? Number.ofInt
  rw [if_pos ⟨rfl, rfl, hpos⟩, hval]

@[simp] theorem int?_ofInt (i : Int) : (ofInt i).int? = some i := toInt?_ofInt i

@[simp] theorem text?_ofText (s : String) : (ofText s).text? = some s := rfl

end Json

end Quiesce
