import Quiesce.Time.Instant

/-!
# Timestamps

Instants as text in the form of RFC 3339, in universal time: `2026-10-18T12:00:00Z`.

* `Timestamp.write` writes an instant, with the precision asked for.
* `Timestamp.read` reads one, with every field at its full width, and says why it cannot.

A leap second is written and read as second 60.
-/

namespace Quiesce.Timestamp

open Duration (paddedDigits)

/-! ### Writing -/

/-- How much of an instant is written. -/
inductive Precision where
  /-- Whole seconds; what is past the last one is dropped. -/
  | seconds
  /-- As many thousandths, millionths or thousand millionths of a second as it takes. -/
  | exact
deriving DecidableEq, Repr

/-- A year in four digits, or with its sign and at least four digits outside 0 to 9999. -/
def writeYear (y : Int) : List Char :=
  let digits := if y.natAbs < 10000 then paddedDigits 4 y.natAbs else Nat.toDigits 10 y.natAbs
  if 0 ≤ y ∧ y ≤ 9999 then digits else (if y < 0 then '-' else '+') :: digits

/-- The fraction of a second: nothing if it is zero, else three, six or nine digits. -/
def writeFraction (n : Nat) : List Char :=
  if n = 0 then []
  else if n % 1000000 = 0 then '.' :: paddedDigits 3 (n / 1000000)
  else if n % 1000 = 0 then '.' :: paddedDigits 6 (n / 1000)
  else '.' :: paddedDigits 9 n

/-- The second within the minute, 60 in a leap second. -/
def shownSecond (t : Instant) : Nat :=
  t.second % 60 + t.nanosecond / 1000000000

def writeChars (t : Instant) (precision : Precision) : List Char :=
  writeYear t.date.year ++ '-' :: paddedDigits 2 t.date.month ++ '-' :: paddedDigits 2 t.date.day
    ++ 'T' :: paddedDigits 2 (t.second / 3600) ++ ':' :: paddedDigits 2 (t.second / 60 % 60)
    ++ ':' :: paddedDigits 2 (shownSecond t)
    ++ (match precision with
        | .seconds => []
        | .exact => writeFraction (t.nanosecond % 1000000000))
    ++ ['Z']

def write (t : Instant) (precision : Precision) : String :=
  String.ofList (writeChars t precision)

/-! ### Reading -/

/-- Why a text is not a timestamp. -/
inductive ReadError where
  | tooShort
  | invalid
  | outOfRange
  | trailing
deriving DecidableEq, Repr

def ReadError.message : ReadError → String
  | .tooShort => "premature end of input"
  | .invalid => "input contains invalid characters"
  | .outOfRange => "input is out of range"
  | .trailing => "trailing input"

def digit? (c : Char) : Option Nat :=
  if c.isDigit then some (c.toNat - '0'.toNat) else none

/-- Reads exactly `width` digits, continuing the number `acc`. -/
def readFixed : (width acc : Nat) → List Char → Except ReadError (Nat × List Char)
  | 0, acc, cs => .ok (acc, cs)
  | _ + 1, _, [] => .error .invalid
  | width + 1, acc, c :: cs =>
    match digit? c with
    | some d => readFixed width (acc * 10 + d) cs
    | none => .error .invalid

def readOneOf (allowed : Char → Bool) : List Char → Except ReadError (List Char)
  | [] => .error .invalid
  | c :: cs => if allowed c then .ok cs else .error .invalid

/-- The number of bytes that the characters take in UTF-8. -/
def byteCount (cs : List Char) : Nat :=
  cs.foldr (fun c n => c.utf8Size + n) 0

/-- The value of the first nine of these digits as a fraction of a second, in nanoseconds. -/
def fractionValue (digits : List Nat) : Nat :=
  let kept := digits.take 9
  kept.foldl (fun n d => n * 10 + d) 0 * Nat.pow 10 (9 - kept.length)

/-- Reads the digits after a decimal point, at least one; those after the ninth are dropped. -/
def readFraction (cs : List Char) : Except ReadError (Nat × List Char) :=
  match cs with
  | [] => .error .tooShort
  | c :: _ =>
    if c.isDigit then
      .ok (fractionValue ((cs.takeWhile Char.isDigit).filterMap digit?), cs.dropWhile Char.isDigit)
    else .error .invalid

/-- The two digits of the minutes of an offset. -/
def readOffsetMinutes (cs : List Char) : Except ReadError (Nat × List Char) :=
  if byteCount cs < 2 then .error .tooShort
  else
    match cs with
    | a :: b :: rest =>
      match digit? a, digit? b with
      | some m, some n => if m < 6 then .ok (m * 10 + n, rest) else .error .outOfRange
      | _, _ => .error .invalid
    | _ => .error .invalid

/-- The two digits of the hours of an offset. -/
def readOffsetHours (cs : List Char) : Except ReadError (Nat × List Char) :=
  if byteCount cs < 2 then .error .tooShort
  else readFixed 2 0 cs

/-- Reads an offset from universal time in minutes: `Z`, or a sign, hours, what `separator` takes
away, and minutes. The sign of a negative offset is a hyphen or U+2212. -/
def readOffset (separator : List Char → Except ReadError (List Char)) (cs : List Char) :
    Except ReadError (Int × List Char) :=
  match cs with
  | [] => .error .tooShort
  | c :: rest =>
    if c = 'Z' ∨ c = 'z' then .ok (0, rest)
    else if c = '+' ∨ c = '-' ∨ c = '\u2212' then do
      let (hours, rest) ← readOffsetHours rest
      let rest ← separator rest
      let (minutes, rest) ← readOffsetMinutes rest
      let magnitude : Int := hours * 60 + minutes
      return (if c = '+' then magnitude else -magnitude, rest)
    else .error .invalid

/-- The colon between the hours and the minutes of an offset. -/
def readColon : List Char → Except ReadError (List Char)
  | [] => .error .tooShort
  | c :: cs => if c = ':' then .ok cs else .error .invalid

/-- The time of day in seconds and nanoseconds, if hour, minute and second are in range; second 60
prolongs second 59. -/
def timeOfDay? (hour minute second nanosecond : Nat) : Option (Nat × Nat) :=
  if hour < 24 ∧ minute < 60 ∧ second ≤ 60 then
    if second = 60 then some (hour * 3600 + minute * 60 + 59, nanosecond + 1000000000)
    else some (hour * 3600 + minute * 60 + second, nanosecond)
  else none

/-- Hours of a day: an offset is less than a day long. -/
def offsetInRange (minutes : Int) : Bool :=
  -1440 < minutes && minutes < 1440

/-- A fraction of a second if there is one. -/
def readOptionalFraction (cs : List Char) : Except ReadError (Nat × List Char) :=
  match cs with
  | '.' :: rest => readFraction rest
  | _ => .ok (0, cs)

/-- Reads the fields of a timestamp that has room for all of them. -/
def readFields (cs : List Char) : Except ReadError Instant := do
  let (year, cs) ← readFixed 4 0 cs
  let cs ← readOneOf (· = '-') cs
  let (month, cs) ← readFixed 2 0 cs
  let cs ← readOneOf (· = '-') cs
  let (day, cs) ← readFixed 2 0 cs
  let date : Date := ⟨year, month, day⟩
  -- A day that does not exist is reported before anything behind it is read.
  if !date.isValid then throw .outOfRange
  let cs ← readOneOf (fun c => c = 'T' || c = 't' || c = ' ') cs
  let (hour, cs) ← readFixed 2 0 cs
  let cs ← readOneOf (· = ':') cs
  let (minute, cs) ← readFixed 2 0 cs
  let cs ← readOneOf (· = ':') cs
  let (second, cs) ← readFixed 2 0 cs
  let (fraction, cs) ← readOptionalFraction cs
  let some (seconds, nanosecond) := timeOfDay? hour minute second fraction | throw .outOfRange
  let (offset, cs) ← readOffset readColon cs
  -- What follows the offset is reported before an offset of a day or more.
  if !cs.isEmpty then throw .trailing
  if !offsetInRange offset then throw .outOfRange
  let some moment := Instant.ofParts? date.dayNumber seconds nanosecond | throw .outOfRange
  return moment.ofLocal offset

/-- The fewest bytes that hold a date, a time of day and the separators between them. -/
def leastBytes : Nat := 19

def read (s : String) : Except ReadError Instant :=
  if byteCount s.toList < leastBytes then .error .tooShort
  else readFields s.toList

end Quiesce.Timestamp
