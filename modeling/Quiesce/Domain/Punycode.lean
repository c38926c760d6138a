/-!
# Punycode

Labels with characters outside ASCII, written in letters, digits and hyphens (RFC 3492): first the
characters of ASCII, then, behind a hyphen, where and what to insert between them, each insertion as
the distance from the one before in a number of variable length.

* `Punycode.encode` writes a label.
* `Punycode.decode?` reads one.
-/

namespace Quiesce.Domain.Punycode

/-! ### Numbers of variable length -/

def digitChar (d : Nat) : Char :=
  if d < 26 then Char.ofNat ('a'.toNat + d) else Char.ofNat ('0'.toNat + d - 26)

def digitValue? (c : Char) : Option Nat :=
  if c.isLower then some (c.toNat - 'a'.toNat)
  else if c.isUpper then some (c.toNat - 'A'.toNat)
  else if c.isDigit then some (c.toNat - '0'.toNat + 26)
  else none

/-- The digit at a place that is below this threshold is the last one of its number. -/
def threshold (place bias : Nat) : Nat :=
  if place ≤ bias then 1 else if bias + 26 ≤ place then 26 else place - bias

/-- Writes a distance, in at most `bound` digits. -/
def distanceDigits : (bound place bias distance : Nat) → List Char
  | 0, _, _, _ => []
  | bound + 1, place, bias, distance =>
    let t := threshold place bias
    if distance < t then [digitChar distance]
    else
      digitChar (t + (distance - t) % (36 - t)) ::
        distanceDigits bound (place + 36) bias ((distance - t) / (36 - t))

/-- Divides a distance until it is small, counting the divisions in steps of 36. -/
def scale : (bound steps distance : Nat) → Nat × Nat
  | 0, steps, distance => (steps, distance)
  | bound + 1, steps, distance =>
    if distance > 455 then scale bound (steps + 36) (distance / 35) else (steps, distance)

/-- The bias after a distance, `count` characters being in place by then. -/
def adapt (distance count : Nat) (isFirst : Bool) : Nat :=
  let halved := if isFirst then distance / 700 else distance / 2
  let spread := halved + halved / count
  let (steps, rest) := scale spread 0 spread
  steps + 36 * rest / (rest + 38)

def firstBias : Nat := 72

/-- The first code point outside ASCII. -/
def firstCode : Nat := 0x80

/-- The place of the last digit but for the others, which follow in steps of the same size. -/
def firstPlace : Nat := 36

/-! ### Writing -/

/-- What the encoder knows between two characters. -/
structure Encoder where
  distance : Nat
  bias : Nat
  handled : Nat
  output : List Char

/-- Writes every occurrence of one code point, all smaller ones having been written. -/
def encodeOccurrences (code basic : Nat) (e : Encoder) : List Nat → Encoder
  | [] => e
  | c :: cs =>
    if c < code then encodeOccurrences code basic { e with distance := e.distance + 1 } cs
    else if c = code then
      encodeOccurrences code basic
        { distance := 0
          bias := adapt e.distance (e.handled + 1) (e.handled = basic)
          handled := e.handled + 1
          output := e.output ++ distanceDigits (e.distance + 1) firstPlace e.bias e.distance } cs
    else encodeOccurrences code basic e cs

/-- Writes the code points outside ASCII in ascending order. -/
def encodeAll (codes : List Nat) (basic : Nat) : (next : Nat) → List Nat → Encoder → List Char
  | _, [], e => e.output
  | next, code :: rest, e =>
    let e := { e with distance := e.distance + (code - next) * (e.handled + 1) }
    let e := encodeOccurrences code basic e codes
    encodeAll codes basic (code + 1) rest { e with distance := e.distance + 1 }

/-- A label with characters outside ASCII in letters, digits and hyphens. -/
def encode (label : List Char) : List Char :=
  let codes := label.map Char.toNat
  let plain := label.filter (·.toNat < firstCode)
  let foreign := (codes.filter (firstCode ≤ ·)).mergeSort.eraseDups
  let start := if plain.isEmpty then [] else plain ++ ['-']
  encodeAll codes plain.length firstCode foreign ⟨0, firstBias, plain.length, start⟩

/-! ### Reading -/

/-- What the decoder knows between two digits. -/
structure Decoder where
  /-- The code point of the last insertion. -/
  code : Nat
  /-- Where the last insertion ended. -/
  start : Nat
  /-- The start, and the part of the distance that has been read. -/
  position : Nat
  bias : Nat
  place : Nat
  /-- What the next digit counts. -/
  weight : Nat
  output : List Char

/-- The greatest number that a distance may reach. -/
def greatest : Nat := 0xffffffff

def isCharacter (code : Nat) : Bool :=
  code < 0xd800 || (0xdfff < code && code < 0x110000)

/-- Makes the insertion whose distance is complete. -/
def Decoder.insert? (d : Decoder) (position : Nat) : Option Decoder := do
  let count := d.output.length + 1
  let code := d.code + position / count
  guard (isCharacter code)
  return {
    code
    start := position % count + 1
    position := position % count + 1
    bias := adapt (position - d.start) count (d.start = 0)
    place := firstPlace
    weight := 1
    output := d.output.insertIdx (position % count) (Char.ofNat code) }

def Decoder.step? (d : Decoder) (c : Char) : Option Decoder := do
  let digit ← digitValue? c
  let position := d.position + digit * d.weight
  guard (position ≤ greatest)
  let t := threshold d.place d.bias
  if digit < t then d.insert? position
  else
    guard (d.weight * (36 - t) ≤ greatest)
    return { d with position, place := d.place + 36, weight := d.weight * (36 - t) }

/-- The characters of ASCII before the last hyphen, if there are any, and the digits. -/
def parts (cs : List Char) : List Char × List Char :=
  match cs.reverse.span (· ≠ '-') with
  | (_, []) => ([], cs)
  | (_, [_]) => ([], cs)
  | (digits, _ :: plain) => (plain.reverse, digits.reverse)

/-- The label that is written so. -/
def decode? (cs : List Char) : Option (List Char) := do
  let (plain, digits) := parts cs
  let d ← digits.foldlM Decoder.step? ⟨firstCode, 0, 0, firstBias, firstPlace, 1, plain⟩
  guard (d.place = firstPlace)
  return d.output

example : String.ofList (encode "bücher".toList) = "bcher-kva" := by decide +kernel
example : decode? "bcher-kva".toList = some "bücher".toList := by decide +kernel

end Quiesce.Domain.Punycode
