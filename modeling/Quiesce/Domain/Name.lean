import Quiesce.Domain.Direction
import Quiesce.Domain.Joining
import Quiesce.Domain.Mapping
import Quiesce.Domain.Punycode

/-!
# Domain names

The one form in which a domain name is sent: ASCII throughout, in lower case, every label with other
characters in Punycode behind `xn--`.

* `Label` is a label as it is read and as it is sent.
* `toAscii?` finds the form of a name, if the name has one.
-/

namespace Quiesce.Domain

open Text (segments joinSegments)

def isAscii (cs : List Char) : Bool :=
  cs.all (·.toNat < 0x80)

/-- A label as it is read, and as it is sent. -/
structure Label where
  text : List Char
  ascii : List Char

namespace Label

/-- The greatest number of characters that are encoded. -/
def longestText : Nat := 1000

/-- The greatest number of characters that are decoded. -/
def longestCode : Nat := 2000

/-- The label that Punycode stands for. A label has one encoding only, so what it stands for is
mapped to itself, and Punycode is not used for ASCII. -/
def ofPunycode? (code : List Char) : Option (List Char) := do
  guard (isAscii code && code.getLast?.any (· ≠ '-') && code.length ≤ longestCode)
  let text ← Punycode.decode? code
  guard (mapName text = some text)
  return text

/-- The label that stands in a mapped name. -/
def ofMapped? (cs : List Char) : Option Label :=
  match cs with
  | 'x' :: 'n' :: '-' :: '-' :: code => (ofPunycode? code).map fun text => ⟨text, cs⟩
  | _ =>
    if isAscii cs then some ⟨cs, cs⟩
    else some ⟨cs, ['x', 'n', '-', '-'] ++ Punycode.encode cs⟩

/-- Whether the label can be part of a name: it does not begin with a mark, its joiners are where
they may be, and it is not too long to be encoded. -/
def isSound (l : Label) : Bool :=
  !l.text.head?.any Text.isMark && joinersFit l.text
    && (isAscii l.text || l.text.length ≤ longestText)

end Label

/-- What a name may not hold once it is ASCII. -/
def isDenied (c : Char) : Bool :=
  c.toNat ≤ 0x20 || c.toNat = 0x7f || c = '#' || c = '/' || c = ':' || c = '<' || c = '>' ||
    c = '?' || c = '@' || c = '[' || c = '\\' || c = ']' || c = '^' || c = '|' || c = '%'

/-- The name with its characters mapped; in ASCII that is lower case. -/
def mapped? (cs : List Char) : Option (List Char) :=
  if isAscii cs then some (cs.map Char.toLower) else mapName cs

def toAscii? (cs : List Char) : Option (List Char) := do
  let labels ← (segments (· = '.') (← mapped? cs)).mapM Label.ofMapped?
  guard (labels.all Label.isSound)
  guard (!labels.any (holdsRightToLeft ·.text) || labels.all (directionsFit ·.text))
  let ascii := joinSegments '.' (labels.map Label.ascii)
  guard (!ascii.any isDenied)
  return ascii

end Quiesce.Domain
