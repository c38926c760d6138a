import Quiesce.Text.CodePoints

/-!
# White space

The Unicode property White_Space, and texts freed of it at their ends.

* `isBlank` is membership in the table `blankRanges`.
* `trim` drops the blanks at both ends of a text and nothing else.
-/

namespace Quiesce.Text

/-- The code points with the Unicode property White_Space, in ascending order. -/
def blankRanges : List (Nat × Nat) :=
  [(0x09, 0x0d), (0x20, 0x20), (0x85, 0x85), (0xa0, 0xa0), (0x1680, 0x1680), (0x2000, 0x200a),
   (0x2028, 0x2029), (0x202f, 0x202f), (0x205f, 0x205f), (0x3000, 0x3000)]

/-- Whether the character is white space. -/
def isBlank (c : Char) : Bool :=
  inRanges blankRanges c

/-- The characters from the first that is not white space. -/
def trimStart (cs : List Char) : List Char :=
  cs.dropWhile isBlank

/-- The characters up to the last that is not white space. -/
def trimEnd (cs : List Char) : List Char :=
  (trimStart cs.reverse).reverse

/-- The text without the white space at its two ends. -/
def trim (s : String) : String :=
  String.ofList (trimEnd (trimStart s.toList))

/-- Whether the text holds nothing but white space; the empty text does. -/
def isAllBlank (s : String) : Bool :=
  s.toList.all isBlank

end Quiesce.Text
