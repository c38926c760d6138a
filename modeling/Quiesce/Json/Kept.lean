import Quiesce.Json.Basic

/-!
# Values that can be kept

A value that a reader keeps without knowing its shape has to fit into memory as one: its strings
denote texts, its numbers are finite as floating point numbers of 64 bits, and it is not nested too
deeply. A value that is skipped need not.

* `Json.isKept` is the condition, with the room for nesting that is left.
-/

namespace Quiesce.Json

/-! ### The range of numbers -/

/-- The leading digits that together stay below 2^64, as a number, and the digits after them. -/
def leadingWord : (acc : Nat) → List Char → Nat × List Char
  | acc, [] => (acc, [])
  | acc, c :: cs =>
    if acc * 10 + (c.toNat - '0'.toNat) ≤ 0xffffffffffffffff then
      leadingWord (acc * 10 + (c.toNat - '0'.toNat)) cs
    else (acc, c :: cs)

/-- The significand of a number, of at most 64 bits, and the power of ten that goes with it. Digits
of the whole part that do not fit count in the exponent; those of the fraction are dropped. -/
def Number.significand (n : Number) : Nat × Int :=
  let (whole, beyond) := leadingWord 0 (Nat.toDigits 10 n.whole)
  let (all, dropped) := leadingWord whole n.fraction
  (all, (beyond.length : Int) - (n.fraction.length - dropped.length : Nat))

/-- The number rounded to 53 significant bits, a tie going to the even neighbour. -/
def roundToDouble (n : Nat) : Nat :=
  if n < 0x20000000000000 then n
  else
    let shift := n.log2 - 52
    let kept := n / Nat.pow 2 shift
    let cut := n % Nat.pow 2 shift
    let half := Nat.pow 2 (shift - 1)
    (if half < cut ∨ (cut = half ∧ kept % 2 = 1) then kept + 1 else kept)
      * Nat.pow 2 shift

/-- The least number that rounds to infinity. -/
def infinityBound : Nat := Nat.pow 2 1024 - Nat.pow 2 970

/-- The largest power of ten below infinity. -/
def largestPower : Int := 308

/-- The largest exponent that a number may be written with, apart from its sign. -/
def largestExponent : Nat := 0x7fffffff

/-- Whether the number is finite as a floating point number of 64 bits: the product of the rounded
significand and the rounded power of ten stays below infinity. -/
def Number.isFinite (n : Number) : Bool :=
  let (significand, power) := n.significand
  let written := n.exponent.getD 0
  if written.natAbs > largestExponent then written < 0 || significand = 0
  else
    let power := power + written
    if power > largestPower then significand = 0
    else if power < 0 then true
    else roundToDouble significand * roundToDouble (Nat.pow 10 power.toNat) < infinityBound

/-! ### The condition -/

mutual

/-- Whether a value can be kept where `room` more arrays and objects may be opened. -/
def isKept (room : Nat) : Json → Bool
  | .null => true
  | .bool _ => true
  | .number n => n.isFinite
  | .string s => s.isSome
  | .array items => room != 0 && areKept (room - 1) items
  | .object fields => room != 0 && fieldsAreKept (room - 1) fields

def areKept (room : Nat) : List Json → Bool
  | [] => true
  | item :: items => isKept room item && areKept room items

/-- Whether each of the fields can be kept, its name included. -/
def fieldsAreKept (room : Nat) : List (Option String × Json) → Bool
  | [] => true
  | (name, value) :: fields => name.isSome && isKept room value && fieldsAreKept room fields

end

/-- How many arrays and objects may stand inside each other in a document with kept values. -/
def nestingLimit : Nat := 127

end Quiesce.Json
