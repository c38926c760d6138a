import Quiesce.Text.Decomposition

/-!
# Composed form

Texts that look the same can be written in several ways; the composed form is one way for each of
them. Characters are decomposed, marks are put in the order of their classes, and what composes is
composed again.

* `orderMarks` sorts each run of marks by class and leaves everything else in place.
* `compose` composes a text from the left.
* `normalize` is the composed form.
-/

namespace Quiesce.Text

/-! ### Order of marks -/

/-- Puts a character in front of a text whose marks are in order, behind the marks of smaller class
that begin it. -/
def insertMark (c : Char) : List Char → List Char
  | [] => [c]
  | d :: ds =>
    if 0 < combiningClass d ∧ combiningClass d < combiningClass c then d :: insertMark c ds
    else c :: d :: ds

/-- The text with the marks of each run in the order of their classes; marks of one class keep
their order. -/
def orderMarks (cs : List Char) : List Char :=
  cs.foldr insertMark []

/-! ### Composition -/

/-- The composite of two letters of a Korean syllable, or of a syllable and a trailing consonant. -/
def composeSyllable? (a b : Char) : Option Char :=
  if leadBase ≤ a.toNat ∧ a.toNat < leadBase + leadCount ∧
      vowelBase ≤ b.toNat ∧ b.toNat < vowelBase + vowelCount then
    some (Char.ofNat (syllableBase
      + ((a.toNat - leadBase) * vowelCount + (b.toNat - vowelBase)) * trailCount))
  else if isSyllable a ∧ (a.toNat - syllableBase) % trailCount = 0 ∧
      trailBase < b.toNat ∧ b.toNat < trailBase + trailCount then
    some (Char.ofNat (a.toNat + (b.toNat - trailBase)))
  else none

/-- The composite of two characters: the one that decomposes as the first does, and then into the
second. -/
def composite? (a b : Char) : Option Char :=
  match composeSyllable? a b with
  | some c => some c
  | none =>
    let pieces := (decompose a ++ [b]).map Char.toNat
    (compositeRows.find? (·.value = pieces)).map fun row => Char.ofNat row.first

/-- Composes what follows a starter. `passed` are the marks between the starter and the rest that
did not compose with it, the nearest to the rest first; a character composes with the starter only
if none of them is of its class or of a greater one. -/
def composeAfter : (starter : Char) → (passed rest : List Char) → List Char
  | starter, passed, [] => starter :: passed.reverse
  | starter, passed, c :: rest =>
    let reaches := match passed with
      | [] => true
      | m :: _ => combiningClass m < combiningClass c
    match (if reaches then composite? starter c else none) with
    | some p => composeAfter p passed rest
    | none =>
      if combiningClass c = 0 then starter :: passed.reverse ++ composeAfter c [] rest
      else composeAfter starter (c :: passed) rest

/-- Composes a decomposed text from the left. Marks in front of the first starter stay. -/
def compose : List Char → List Char
  | [] => []
  | c :: cs => if combiningClass c = 0 then composeAfter c [] cs else c :: compose cs

/-- The composed form of a text. -/
def normalize (cs : List Char) : List Char :=
  compose (orderMarks (cs.flatMap decompose))

end Quiesce.Text
