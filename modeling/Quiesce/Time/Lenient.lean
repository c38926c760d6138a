import Quiesce.Text.Blank
import Quiesce.Time.Timestamp

/-!
# Timestamps, read leniently

The reading of timestamps in documents: white space may surround the parts, fields other than the
year may have one digit, a year may have a sign and with it any number of digits, the offset may
lack its colon, and `UTC` stands for `Z`.

* `Timestamp.readLenient` reads such a text; what `Timestamp.write` writes is among them.
-/

namespace Quiesce.Timestamp

open Text (trimStart isBlank)

/-- Reads as many digits as there are, at least one and at most `width`. -/
def readUpTo (width : Nat) (cs : List Char) : Option (Nat × List Char) :=
  match (cs.take width).takeWhile Char.isDigit with
  | [] => none
  | digits =>
    some ((digits.filterMap digit?).foldl (fun n d => n * 10 + d) 0, cs.drop digits.length)

/-- Reads a number of one or two digits after white space. -/
def readField (cs : List Char) : Option (Nat × List Char) :=
  readUpTo 2 (trimStart cs)

/-- Reads a separator after white space. -/
def readSeparator (separator : Char) (cs : List Char) : Option (List Char) :=
  match trimStart cs with
  | c :: rest => if c = separator then some rest else none
  | [] => none

/-- Reads a year after white space: up to four digits, or a sign and any number of them. -/
def readYear (cs : List Char) : Option (Int × List Char) :=
  match trimStart cs with
  | '-' :: rest => (readUpTo rest.length rest).map fun r => (-(r.1 : Int), r.2)
  | '+' :: rest => (readUpTo rest.length rest).map fun r => ((r.1 : Int), r.2)
  | rest => (readUpTo 4 rest).map fun r => ((r.1 : Int), r.2)

/-- Takes away colons and white space, in any order and number. -/
def skipColons (cs : List Char) : Except ReadError (List Char) :=
  .ok (cs.dropWhile fun c => c = ':' || isBlank c)

/-- Reads an offset after white space, `UTC` in either case included. -/
def readLooseOffset (cs : List Char) : Option (Int × List Char) :=
  match trimStart cs with
  | a :: b :: c :: rest =>
    if [a, b, c].map Char.toUpper = ['U', 'T', 'C'] then some (0, rest)
    else (readOffset skipColons (a :: b :: c :: rest)).toOption
  | rest => (readOffset skipColons rest).toOption

/-- Reads the characters of a timestamp leniently. -/
def readLenientChars (cs : List Char) : Option Instant := do
  let (year, cs) ← readYear cs
  let cs ← readSeparator '-' cs
  let (month, cs) ← readField cs
  let cs ← readSeparator '-' cs
  let (day, cs) ← readField cs
  let cs ← (readOneOf (fun c => c = 'T' || c = 't' || c = ' ') cs).toOption
  let (hour, cs) ← readField cs
  let cs ← readSeparator ':' cs
  let (minute, cs) ← readField cs
  let cs ← readSeparator ':' cs
  let (second, cs) ← readField cs
  let (fraction, cs) ← (readOptionalFraction cs).toOption
  let (offset, cs) ← readLooseOffset cs
  guard (trimStart cs).isEmpty
  let date : Date := ⟨year, month, day⟩
  guard date.isValid
  guard (Instant.firstYear ≤ year ∧ year ≤ Instant.lastYear)
  let (seconds, nanosecond) ← timeOfDay? hour minute second fraction
  guard (offsetInRange offset)
  let moment ← Instant.ofParts? date.dayNumber seconds nanosecond
  guard (moment.ofLocal offset).inCalendar
  return moment.ofLocal offset

def readLenient (s : String) : Option Instant :=
  readLenientChars s.toList

end Quiesce.Timestamp
