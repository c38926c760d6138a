/-!
# Durations

A length of time in whole nanoseconds.

* `Duration.describe` is the shortest exact text with a unit: `10s`, `250ms`, `1.5s`.
-/

namespace Quiesce

/-- A length of time, never negative. -/
structure Duration where
  nanoseconds : Nat
deriving DecidableEq, Repr

namespace Duration

def zero : Duration := ⟨0⟩

def ofSeconds (s : Nat) : Duration := ⟨s * 1000000000⟩

/-- Seconds and nanoseconds together. -/
def ofParts (s ns : Nat) : Duration := ⟨s * 1000000000 + ns⟩

def seconds (d : Duration) : Nat := d.nanoseconds / 1000000000

/-- The nanoseconds past the last whole second. -/
def subsecond (d : Duration) : Nat := d.nanoseconds % 1000000000

def milliseconds (d : Duration) : Nat := d.nanoseconds / 1000000

def isZero (d : Duration) : Bool := d.nanoseconds == 0

instance : Add Duration := ⟨fun a b => ⟨a.nanoseconds + b.nanoseconds⟩⟩
instance : LT Duration := ⟨fun a b => a.nanoseconds < b.nanoseconds⟩
instance : LE Duration := ⟨fun a b => a.nanoseconds ≤ b.nanoseconds⟩
instance (a b : Duration) : Decidable (a < b) :=
  inferInstanceAs (Decidable (a.nanoseconds < b.nanoseconds))
instance (a b : Duration) : Decidable (a ≤ b) :=
  inferInstanceAs (Decidable (a.nanoseconds ≤ b.nanoseconds))

/-- The last `width` decimal digits of a number, with leading zeros. -/
def paddedDigits : Nat → Nat → List Char
  | 0, _ => []
  | width + 1, n => paddedDigits width (n / 10) ++ [Nat.digitChar (n % 10)]

/-- The digits after the decimal point of `n / 10 ^ width`, without the zeros at their end. -/
def fractionDigits (width n : Nat) : List Char :=
  ((paddedDigits width n).reverse.dropWhile (· = '0')).reverse

/-- The number `n / 10 ^ width` in decimal, exactly, with as few digits as it takes. -/
def decimal (width n : Nat) : List Char :=
  let whole := Nat.toDigits 10 (n / Nat.pow 10 width)
  match fractionDigits width n with
  | [] => whole
  | digits => whole ++ '.' :: digits

/-- The duration in the largest unit, of second, millisecond, microsecond and nanosecond, that it
holds at least once. -/
def describe (d : Duration) : String :=
  let n := d.nanoseconds
  if n ≥ 1000000000 then String.ofList (decimal 9 n) ++ "s"
  else if n ≥ 1000000 then String.ofList (decimal 6 n) ++ "ms"
  else if n ≥ 1000 then String.ofList (decimal 3 n) ++ "µs"
  else String.ofList (decimal 0 n) ++ "ns"

example : (ofParts 1 500000000).describe = "1.5s" := by decide
example : (ofParts 0 250000000).describe = "250ms" := by decide

end Duration

end Quiesce
