import Quiesce.Text.CodePoints

/-!
# Percent-encoding

Characters that a part of a URL may not hold are written as the bytes of their UTF-8 form, each as a
percent sign and two hexadecimal digits.

* `percentEncode` encodes what a class asks for, and every character outside ASCII.
* `percentDecode` decodes every well-formed triple and leaves the rest as it is.
-/

namespace Quiesce.Http

open Text (hexDigit?)

def upperHexDigit (n : Nat) : Char :=
  (Nat.digitChar n).toUpper

/-- A byte as a percent sign and two digits. -/
def encodeByte (b : UInt8) : List Char :=
  ['%', upperHexDigit (b.toNat / 16), upperHexDigit (b.toNat % 16)]

/-- A character as the encoded bytes of its UTF-8 form. -/
def encodeChar (c : Char) : List Char :=
  (String.utf8EncodeChar c).flatMap encodeByte

/-- The characters with those of the class, and those outside ASCII, encoded. -/
def percentEncode (unfit : Char → Bool) (cs : List Char) : List Char :=
  cs.flatMap fun c => if 0x80 ≤ c.toNat || unfit c then encodeChar c else [c]

def isControl (c : Char) : Bool :=
  c.toNat < 0x20 || c.toNat = 0x7f

def unfitInFragment (c : Char) : Bool :=
  isControl c || c = ' ' || c = '"' || c = '<' || c = '>' || c.toNat = 0x60

def unfitInPath (c : Char) : Bool :=
  unfitInFragment c || c = '#' || c = '?' || c = '\x7b' || c = '\x7d'

def unfitInQuery (c : Char) : Bool :=
  isControl c || c = ' ' || c = '"' || c = '#' || c = '<' || c = '>'

def unfitInUser (c : Char) : Bool :=
  unfitInPath c || c = '/' || c = ':' || c = ';' || c = '=' || c = '@' || c = '[' || c = '\\' ||
    c = ']' || c = '^' || c = '|'

/-- The bytes that the characters stand for. -/
def percentBytes : List Char → List UInt8
  | [] => []
  | '%' :: a :: b :: rest =>
    match hexDigit? a, hexDigit? b with
    | some m, some n => UInt8.ofNat (m * 16 + n) :: percentBytes rest
    | _, _ => String.utf8EncodeChar '%' ++ percentBytes (a :: b :: rest)
  | c :: rest => String.utf8EncodeChar c ++ percentBytes rest

/-- The text that the characters stand for, if its bytes are UTF-8. -/
def percentDecode (cs : List Char) : Option String :=
  String.fromUTF8? (percentBytes cs).toByteArray

end Quiesce.Http
