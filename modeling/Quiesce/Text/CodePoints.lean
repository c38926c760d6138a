import Quiesce.Text.Segments

/-!
# Sets and tables of code points

Properties of characters are given by ranges of code points, and mappings by rows that say what the
code points of a range stand for. Short sets are lists of ranges; long tables are written as text,
in hexadecimal: a row is a code point or a range `first-last`, and for a mapping `>` and code points
joined by `+`.

* `inRanges` is membership in a list of ranges.
* `readRows` reads a table, and `Row.image` is what a row makes of one of its code points.
-/

namespace Quiesce.Text

/-- Whether a code point lies in one of the ranges, both ends included. -/
def inRanges (ranges : List (Nat × Nat)) (c : Char) : Bool :=
  ranges.any fun r => r.1 ≤ c.toNat && c.toNat ≤ r.2

def hexDigit? (c : Char) : Option Nat :=
  if c.isDigit then some (c.toNat - '0'.toNat)
  else if 'a' ≤ c ∧ c ≤ 'f' then some (c.toNat - 'a'.toNat + 10)
  else if 'A' ≤ c ∧ c ≤ 'F' then some (c.toNat - 'A'.toNat + 10)
  else none

/-- The number that digits to a base denote, if all of them are digits of that base. -/
def numberIn? (base : Nat) (cs : List Char) : Option Nat :=
  cs.foldlM (fun n c => do
    let d ← hexDigit? c
    guard (d < base)
    return n * base + d) 0

/-- A row of a table: code points from the first to the last, and what the first stands for. -/
structure Row where
  first : Nat
  last : Nat
  value : List Nat
deriving DecidableEq, Repr

def Row.contains (r : Row) (c : Char) : Bool :=
  r.first ≤ c.toNat && c.toNat ≤ r.last

/-- What a code point of the row stands for: as far from the value as it is from the first, if the
value is a single code point. -/
def Row.image (r : Row) (c : Char) : List Char :=
  match r.value with
  | [n] => [Char.ofNat (n + (c.toNat - r.first))]
  | ns => ns.map Char.ofNat

/-- Reads a code point or a range of them. -/
def readSpan? (cs : List Char) : Option (Nat × Nat) :=
  match segments (· = '-') cs with
  | [a] => (numberIn? 16 a).map fun n => (n, n)
  | [a, b] => do return (← numberIn? 16 a, ← numberIn? 16 b)
  | _ => none

def readRow? (cs : List Char) : Option Row :=
  match segments (· = '>') cs with
  | [span] => (readSpan? span).map fun s => ⟨s.1, s.2, []⟩
  | [span, value] => do
    let s ← readSpan? span
    return ⟨s.1, s.2, ← (segments (· = '+') value).mapM (numberIn? 16)⟩
  | _ => none

/-- Reads the lines of a table, whose rows are blanks apart. -/
def readRows (lines : List String) : List Row :=
  lines.flatMap fun line => (segments (· = ' ') line.toList).filterMap readRow?

/-- The row of a code point. -/
def rowOf? (rows : List Row) (c : Char) : Option Row :=
  rows.find? (·.contains c)

def inRows (rows : List Row) (c : Char) : Bool :=
  rows.any (·.contains c)

example : readRows ["41-5a>61 df>73+73"] = [⟨0x41, 0x5a, [0x61]⟩, ⟨0xdf, 0xdf, [0x73, 0x73]⟩] := by
  decide +kernel

end Quiesce.Text
