/-!
# Integers as text

Whole numbers written in decimal: an optional sign, then ASCII digits and nothing else. Reading
stops at the first fault from the left, so that a number which leaves its range before a foreign
character comes is out of range.

* `readInt64` reads a signed 64-bit integer.
* `readWord64` reads an unsigned 64-bit integer, whose only sign is a plus.
* `natText` and `intText` write numbers, without padding.
-/

namespace Quiesce.Text

/-- Why a text is not an integer of the wanted range. -/
inductive IntegerError where
  | empty
  | invalidDigit
  | tooLarge
  | tooSmall
deriving DecidableEq, Repr

def IntegerError.message : IntegerError → String
  | .empty => "cannot parse integer from empty string"
  | .invalidDigit => "invalid digit found in string"
  | .tooLarge => "number too large to fit in target type"
  | .tooSmall => "number too small to fit in target type"

def digitValue (c : Char) : Nat :=
  c.toNat - '0'.toNat

/-- Continues the number `acc` with the digits that follow, up to `limit`; a number beyond it fails
with `beyond`. -/
def readDigits (limit : Nat) (beyond : IntegerError) : Nat → List Char → Except IntegerError Nat
  | acc, [] => .ok acc
  | acc, c :: cs =>
    if c.isDigit then
      if acc * 10 + digitValue c ≤ limit then readDigits limit beyond (acc * 10 + digitValue c) cs
      else .error beyond
    else .error .invalidDigit

/-- Reads a signed integer of 64 bits. -/
def readInt64 (s : String) : Except IntegerError Int64 :=
  match s.toList with
  | [] => .error .empty
  | ['+'] => .error .invalidDigit
  | ['-'] => .error .invalidDigit
  | '-' :: cs => do
    let n ← readDigits 0x8000000000000000 .tooSmall 0 cs
    return Int64.ofInt (-(n : Int))
  | '+' :: cs => do
    let n ← readDigits 0x7fffffffffffffff .tooLarge 0 cs
    return Int64.ofInt n
  | cs => do
    let n ← readDigits 0x7fffffffffffffff .tooLarge 0 cs
    return Int64.ofInt n

/-- Reads an unsigned integer of 64 bits. -/
def readWord64 (s : String) : Except IntegerError Nat :=
  match s.toList with
  | [] => .error .empty
  | ['+'] => .error .invalidDigit
  | '+' :: cs => readDigits 0xffffffffffffffff .tooLarge 0 cs
  | cs => readDigits 0xffffffffffffffff .tooLarge 0 cs

def natText (n : Nat) : String :=
  String.ofList (Nat.toDigits 10 n)

/-- An integer in decimal, with a minus sign if it is negative. -/
def intText (i : Int) : String :=
  String.ofList ((if i < 0 then ['-'] else []) ++ Nat.toDigits 10 i.natAbs)

end Quiesce.Text
