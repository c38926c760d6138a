/-!
# Base64

Bytes as text: three bytes are written as four digits to the base 64, and equals signs fill the last
four.

* `base64` writes bytes.
-/

namespace Quiesce.Text

def base64Digits : List Char :=
  "ABCDEFGHIJKLMNOPQRSTUVWXYZabcdefghijklmnopqrstuvwxyz0123456789+/".toList

/-- The digit of a number at a place counted from the right. -/
def base64Digit (n place : Nat) : Char :=
  base64Digits.getD (n / Nat.pow 64 place % 64) '='

/-- The bytes in digits to the base 64. -/
def base64 : List UInt8 → List Char
  | [] => []
  | [a] => ([3, 2].map (base64Digit (a.toNat * 65536))) ++ ['=', '=']
  | [a, b] => ([3, 2, 1].map (base64Digit (a.toNat * 65536 + b.toNat * 256))) ++ ['=']
  | a :: b :: c :: rest =>
    [3, 2, 1, 0].map (base64Digit (a.toNat * 65536 + b.toNat * 256 + c.toNat)) ++ base64 rest

example : base64 [0x75, 0x3a, 0x70] = "dTpw".toList := by decide

end Quiesce.Text
