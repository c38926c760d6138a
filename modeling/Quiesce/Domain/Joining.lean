import Quiesce.Text.Marks

/-!
# Joiners

A name may hold the zero-width joiner and non-joiner only where they change how it looks: after the
sign that a vowel is missing, and the non-joiner also between two letters that would join.

* `joinersFit` tells whether every joiner of a label stands in such a place.
-/

namespace Quiesce.Domain

open Text (Row readRows inRows)

/-- Letters that join on both sides, or only with the next one. -/
def joinsNextTable : List String :=
  ["620 626 628 62a-62e 633-63f 641-647 649-64a 66e-66f 679-687 69a-6bf 6c1-6c2 6cc 6ce 6d0-6d1",
   "6fa-6fc 6ff 712-714 71a-71d 71f-727 729 72b 72d-72e 74e-758 75c-76a 76d-770 772 775-777",
   "77a-77f 7ca-7ea 841-845 848 84a-853 855 860 862-865 868 886 889-88d 88f 8a0-8a9 8af-8b0",
   "8b3-8b8 8ba-8c8 1807 1820-1878 1887-18a8 18aa a840-a872 10ac0-10ac4 10acd 10ad3-10adc",
   "10ade-10ae0 10aeb-10aee 10b80 10b82 10b86-10b88 10b8a-10b8b 10b8d 10b90 10bad-10bae",
   "10d00-10d21 10d23 10ec3-10ec4 10ec6-10ec7 10f30-10f32 10f34-10f44 10f51-10f53 10f70-10f73",
   "10f76-10f81 10fb0 10fb2-10fb3 10fb8 10fbb-10fbc 10fbe-10fbf 10fc1 10fc4 10fca-10fcb",
   "1e922-1e943"]

/-- Letters that join on both sides, or only with the previous one. -/
def joinsPreviousTable : List String :=
  ["620 622-63f 641-64a 66e-66f 671-673 679-6d3 6d5 6ee-6ef 6fa-6fc 6ff 710 712-72f 74d-77f",
   "7ca-7ea 840-858 860 862-865 867-86a 870-882 886 889-88f 8a0-8ac 8ae-8c8 1807 1820-1878",
   "1887-18a8 18aa a840-a871 10ac0-10ac5 10ac7 10ac9-10aca 10ace-10ad6 10ad8-10ae1 10ae4",
   "10aeb-10aef 10b80-10b91 10ba9-10bae 10d01-10d23 10ec2-10ec4 10ec6-10ec7 10f30-10f44",
   "10f51-10f54 10f70-10f81 10fb0 10fb2-10fb6 10fb8-10fbf 10fc1-10fc4 10fc9-10fca 1e922-1e943"]

def joinsNextRows : List Row := readRows joinsNextTable

def joinsPreviousRows : List Row := readRows joinsPreviousTable

/-- Whether letters join across the character: marks without a width, and one letter that stands
like a mark. -/
def isTransparent (c : Char) : Bool :=
  Text.isNonspacing c || c.toNat = 0x1e94b

/-- The combining class of the signs that a vowel is missing. -/
def vowelKillerClass : Nat := 9

/-- Whether the character is a sign that a vowel is missing. -/
def killsVowel (c : Char) : Bool :=
  Text.combiningClass c = vowelKillerClass

def nonJoiner : Char := '\u200c'

def joiner : Char := '\u200d'

/-- Whether the first character that is not transparent is one of the letters. -/
def nextIsOneOf (rows : List Row) (cs : List Char) : Bool :=
  match cs.dropWhile isTransparent with
  | c :: _ => inRows rows c
  | [] => false

/-- Whether the joiners fit, `before` being the characters that come before, the nearest first. -/
def joinersFitAfter : (before rest : List Char) → Bool
  | _, [] => true
  | before, c :: rest =>
    (if c = joiner ∨ c = nonJoiner then
      match before with
      | [] => false
      | previous :: _ =>
        killsVowel previous ||
          (c = nonJoiner && nextIsOneOf joinsNextRows before && nextIsOneOf joinsPreviousRows rest)
    else true) && joinersFitAfter (c :: before) rest

/-- Whether every joiner of the label stands where it may. -/
def joinersFit (label : List Char) : Bool :=
  joinersFitAfter [] label

end Quiesce.Domain
