import Quiesce.Json.Basic
import Quiesce.Text.CodePoints

/-!
# Reading JSON

The grammar of JSON documents, without any bound on their depth. Anything after the document but
blanks makes it unreadable.

* `Json.read` reads a document.

Each reader takes the characters that are left and answers with a value and what is left after it.
-/

namespace Quiesce.Json

open Text (hexDigit?)

/-- The characters from the first that is no blank of the grammar. -/
def skipBlanks (cs : List Char) : List Char :=
  cs.dropWhile fun c => c = ' ' || c = '\n' || c = '\t' || c = '\r'

/-! ### Strings -/

def codeUnit? (a b c d : Char) : Option Nat := do
  let a ← hexDigit? a
  let b ← hexDigit? b
  let c ← hexDigit? c
  let d ← hexDigit? d
  return ((a * 16 + b) * 16 + c) * 16 + d

/-- The character that an escape of one letter stands for. -/
def escaped? (c : Char) : Option Nat :=
  match c with
  | '"' => some 0x22
  | '\\' => some 0x5c
  | '/' => some 0x2f
  | 'b' => some 0x08
  | 'f' => some 0x0c
  | 'n' => some 0x0a
  | 'r' => some 0x0d
  | 't' => some 0x09
  | _ => none

/-- Reads a string after its opening quote: the code points of the characters that stand for
themselves and the code units of the escapes. -/
def readCodes : List Char → Option (List Nat × List Char)
  | [] => none
  | '"' :: rest => some ([], rest)
  | '\\' :: 'u' :: a :: b :: c :: d :: rest => do
    let unit ← codeUnit? a b c d
    let (codes, rest) ← readCodes rest
    return (unit :: codes, rest)
  | '\\' :: c :: rest => do
    let code ← escaped? c
    let (codes, rest) ← readCodes rest
    return (code :: codes, rest)
  | c :: rest => do
    guard (0x20 ≤ c.toNat)
    let (codes, rest) ← readCodes rest
    return (c.toNat :: codes, rest)

/-- Whether a code is the first half of a surrogate pair. -/
def isHighSurrogate (u : Nat) : Bool := 0xd800 ≤ u && u < 0xdc00

/-- Whether a code is the second half of a surrogate pair. -/
def isLowSurrogate (u : Nat) : Bool := 0xdc00 ≤ u && u < 0xe000

/-- The characters of a string whose surrogate halves all stand in pairs. -/
def joinSurrogates : List Nat → Option (List Char)
  | [] => some []
  | u :: rest =>
    if isHighSurrogate u then
      match rest with
      | v :: rest =>
        if isLowSurrogate v then
          (joinSurrogates rest).map
            (Char.ofNat (0x10000 + (u - 0xd800) * 0x400 + (v - 0xdc00)) :: ·)
        else none
      | [] => none
    else if isLowSurrogate u then none
    else (joinSurrogates rest).map (Char.ofNat u :: ·)

def readString (cs : List Char) : Option (Option String × List Char) :=
  (readCodes cs).map fun r => ((joinSurrogates r.1).map String.ofList, r.2)

/-! ### Numbers -/

def digitsValue (ds : List Char) : Nat :=
  ds.foldl (fun n c => n * 10 + (c.toNat - '0'.toNat)) 0

/-- Reads digits, at least one. -/
def readDigits1 (cs : List Char) : Option (List Char × List Char) :=
  match cs.takeWhile Char.isDigit with
  | [] => none
  | digits => some (digits, cs.dropWhile Char.isDigit)

/-- Reads a whole part: a zero, or digits that do not begin with one. -/
def readWhole (cs : List Char) : Option (Nat × List Char) := do
  let (digits, rest) ← readDigits1 cs
  guard (digits.head? ≠ some '0' ∨ digits.length = 1)
  return (digitsValue digits, rest)

/-- Reads the digits after a decimal point, if there is a point. -/
def readFractionPart (cs : List Char) : Option (List Char × List Char) :=
  match cs with
  | '.' :: rest => readDigits1 rest
  | _ => some ([], cs)

/-- Reads an exponent, if there is one. -/
def readExponentPart (cs : List Char) : Option (Option Int × List Char) :=
  match cs with
  | c :: rest =>
    if c = 'e' ∨ c = 'E' then
      match rest with
      | '-' :: rest => (readDigits1 rest).map fun r => (some (-(digitsValue r.1 : Int)), r.2)
      | '+' :: rest => (readDigits1 rest).map fun r => (some (digitsValue r.1 : Int), r.2)
      | rest => (readDigits1 rest).map fun r => (some (digitsValue r.1 : Int), r.2)
    else some (none, c :: rest)
  | [] => some (none, [])

/-- Reads a number after its sign. -/
def readUnsigned (negative : Bool) (cs : List Char) : Option (Number × List Char) := do
  let (whole, cs) ← readWhole cs
  let (fraction, cs) ← readFractionPart cs
  let (exponent, cs) ← readExponentPart cs
  return (⟨negative, whole, fraction, exponent⟩, cs)

def readNumber (cs : List Char) : Option (Number × List Char) :=
  match cs with
  | '-' :: rest => readUnsigned true rest
  | _ => readUnsigned false cs

/-! ### Values -/

mutual

/-- Reads a value. The first argument bounds the number of nested readers; twice the length of the
text is always enough, since of two nested readers one takes a character. -/
def readValue : Nat → List Char → Option (Json × List Char)
  | 0, _ => none
  | fuel + 1, cs =>
    match skipBlanks cs with
    | 'n' :: 'u' :: 'l' :: 'l' :: rest => some (.null, rest)
    | 't' :: 'r' :: 'u' :: 'e' :: rest => some (.bool true, rest)
    | 'f' :: 'a' :: 'l' :: 's' :: 'e' :: rest => some (.bool false, rest)
    | '"' :: rest => (readString rest).map fun r => (.string r.1, r.2)
    | '[' :: rest =>
      match skipBlanks rest with
      | ']' :: rest => some (.array [], rest)
      | rest => (readItems fuel rest).map fun r => (.array r.1, r.2)
    | '\x7b' :: rest =>
      match skipBlanks rest with
      | '\x7d' :: rest => some (.object [], rest)
      | rest => (readFields fuel rest).map fun r => (.object r.1, r.2)
    | rest => (readNumber rest).map fun r => (.number r.1, r.2)

/-- Reads the items of an array, at least one, and its closing bracket. -/
def readItems : Nat → List Char → Option (List Json × List Char)
  | 0, _ => none
  | fuel + 1, cs => do
    let (item, cs) ← readValue fuel cs
    match skipBlanks cs with
    | ',' :: cs =>
      let (items, cs) ← readItems fuel cs
      return (item :: items, cs)
    | ']' :: cs => return ([item], cs)
    | _ => none

/-- Reads the fields of an object, at least one, and its closing brace. -/
def readFields : Nat → List Char → Option (List (Option String × Json) × List Char)
  | 0, _ => none
  | fuel + 1, cs => do
    let '"' :: cs := skipBlanks cs | none
    let (name, cs) ← readString cs
    let ':' :: cs := skipBlanks cs | none
    let (value, cs) ← readValue fuel cs
    match skipBlanks cs with
    | ',' :: cs =>
      let (fields, cs) ← readFields fuel cs
      return ((name, value) :: fields, cs)
    | '\x7d' :: cs => return ([(name, value)], cs)
    | _ => none

end

/-- The bound on nested readers for a text of this many characters. -/
def readerDepth (length : Nat) : Nat := 2 * length + 2

def readChars (cs : List Char) : Option Json := do
  let (value, rest) ← readValue (readerDepth cs.length) cs
  guard (skipBlanks rest).isEmpty
  return value

def read (s : String) : Option Json :=
  readChars s.toList

end Quiesce.Json
