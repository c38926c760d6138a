/-!
# Segments

A text cut at separators.

* `segments` are the pieces between the separators, and `segments_append` takes them apart at one.
* `joinSegments` puts pieces together again.
-/

namespace Quiesce.Text

/-- The pieces between the separators, empty ones included. -/
def segments (isSeparator : Char → Bool) : List Char → List (List Char)
  | [] => [[]]
  | c :: cs =>
    if isSeparator c then [] :: segments isSeparator cs
    else
      match segments isSeparator cs with
      | [] => [[c]]
      | s :: ss => (c :: s) :: ss

/-- The pieces with a separator between each two. -/
def joinSegments (separator : Char) : List (List Char) → List Char
  | [] => []
  | [s] => s
  | s :: ss => s ++ separator :: joinSegments separator ss

theorem segments_ne_nil (p : Char → Bool) (cs : List Char) : segments p cs ≠ [] := by
  cases cs with
  | nil => simp [segments]
  | cons c cs =>
    rw [segments]
    by_cases hsep : p c = true
    · simp [hsep]
    · rw [if_neg hsep]
      cases segments p cs with
      | nil => simp
      | cons s ss => simp

/-- A text is cut at a separator as the parts on its two sides are. -/
theorem segments_append {p : Char → Bool} {c : Char} (hc : p c = true) (a b : List Char) :
    segments p (a ++ c :: b) = segments p a ++ segments p b := by
  induction a with
  | nil => simp [segments, hc]
  | cons d a ih =>
    rw [List.cons_append, segments, segments, ih]
    by_cases hsep : p d = true
    · rw [if_pos hsep, if_pos hsep]
      rfl
    · rw [if_neg hsep, if_neg hsep]
      cases hs : segments p a with
      | nil => exact absurd hs (segments_ne_nil p a)
      | cons s ss => rfl

/-- A text without separators is one piece. -/
theorem segments_eq_singleton {p : Char → Bool} {cs : List Char} (h : ∀ c ∈ cs, p c = false) :
    segments p cs = [cs] := by
  induction cs with
  | nil => rfl
  | cons c cs ih =>
    obtain ⟨hc, hcs⟩ := List.forall_mem_cons.1 h
    rw [segments, hc, if_neg Bool.false_ne_true, ih hcs]

end Quiesce.Text
