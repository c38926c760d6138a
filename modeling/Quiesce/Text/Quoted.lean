import Quiesce.Text.Printable

/-!
# Quoted text

A text between double quotes, written so that a reader of a message sees every character of it:
quotes, backslashes and the common controls have short escapes, and any other character that is not
shown as it is stands as its code point in hexadecimal.

* `quote` is the written form.
-/

namespace Quiesce.Text

/-- The digits of a number in lower case hexadecimal, without padding. -/
def hexDigits (n : Nat) : List Char :=
  Nat.toDigits 16 n

/-- The written form of one character inside double quotes. -/
def escapeChar (c : Char) : List Char :=
  if c = '"' then ['\\', '"']
  else if c = '\\' then ['\\', '\\']
  else if c = '\n' then ['\\', 'n']
  else if c = '\r' then ['\\', 'r']
  else if c = '\t' then ['\\', 't']
  else if c.toNat = 0 then ['\\', '0']
  else if isShown c then [c]
  else ['\\', 'u', '\x7b'] ++ hexDigits c.toNat ++ ['\x7d']

/-- The text between double quotes, with what cannot be shown escaped. -/
def quote (s : String) : String :=
  String.ofList ('"' :: s.toList.flatMap escapeChar ++ ['"'])

end Quiesce.Text
