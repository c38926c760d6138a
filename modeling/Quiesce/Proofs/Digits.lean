import Quiesce.Text.Integer
import Quiesce.Time.Duration

/-!
# Runs of digits

Numbers stand in texts as runs of digits, and a reader takes a run as far as it goes. So a run is
read back if what follows it begins with something else.

* `takeWhile_digits` and `dropWhile_digits` take a run off a text.
* `ofDigitChars_paddedDigits` is the value of a padded number.
* `head?_toDigits` says that no number is written with zeros in front, and `natText_injective` that
  no two numbers are written alike.
-/

namespace Quiesce.Text

open Duration (paddedDigits)

/-- What follows a run of digits: nothing, or something that begins with another character. -/
def EndsDigits (rest : List Char) : Prop :=
  ∀ c ∈ rest.head?, c.isDigit = false

theorem endsDigits_cons {c : Char} (h : c.isDigit = false) (rest : List Char) :
    EndsDigits (c :: rest) := by
  intro d hd
  cases hd
  exact h

section Runs

variable {digits rest : List Char}

/-- Digits are told from what follows them, unless that goes on with a digit. -/
theorem takeWhile_digits (hdigits : ∀ c ∈ digits, c.isDigit = true) (hrest : EndsDigits rest) :
    (digits ++ rest).takeWhile Char.isDigit = digits := by
  have hnone : rest.takeWhile Char.isDigit = [] := by
    cases rest with
    | nil => rfl
    | cons c rest => rw [List.takeWhile_cons, hrest c rfl, if_neg Bool.false_ne_true]
  rw [List.takeWhile_append_of_pos hdigits, hnone, List.append_nil]

theorem dropWhile_digits (hdigits : ∀ c ∈ digits, c.isDigit = true) (hrest : EndsDigits rest) :
    (digits ++ rest).dropWhile Char.isDigit = rest := by
  rw [List.dropWhile_append_of_pos hdigits]
  cases rest with
  | nil => rfl
  | cons c rest => rw [List.dropWhile_cons, hrest c rfl, if_neg Bool.false_ne_true]

/-- What begins with a digit begins with nothing else. -/
theorem digits_append_ne (hdigits : ∀ c ∈ digits, c.isDigit = true) (hne : digits ≠ []) {c : Char}
    (hc : c.isDigit = false) (cs : List Char) : digits ++ rest ≠ c :: cs := by
  intro heq
  cases digits with
  | nil => exact hne rfl
  | cons d digits =>
    have hd := hdigits d List.mem_cons_self
    cases heq
    rw [hc] at hd
    cases hd

end Runs

/-! ## Digits of numbers -/

theorem isDigit_of_mem_toDigits {n : Nat} : ∀ c ∈ Nat.toDigits 10 n, c.isDigit = true :=
  fun _ hc => Nat.isDigit_of_mem_toDigits (by decide) (by decide) hc

theorem exists_toDigits (n : Nat) : ∃ d ds, Nat.toDigits 10 n = d :: ds ∧ d.isDigit = true := by
  cases hwritten : Nat.toDigits 10 n with
  | nil => exact absurd hwritten Nat.toDigits_ne_nil
  | cons d ds => exact ⟨d, ds, rfl, isDigit_of_mem_toDigits d (hwritten ▸ List.mem_cons_self)⟩

/-- A written number does not begin with a sign, nor with anything else but a digit. -/
theorem toDigits_append_ne {c : Char} (hc : c.isDigit = false) (n : Nat) (rest cs : List Char) :
    Nat.toDigits 10 n ++ rest ≠ c :: cs :=
  digits_append_ne isDigit_of_mem_toDigits Nat.toDigits_ne_nil hc cs

theorem isDigit_of_mem_paddedDigits {width n : Nat} :
    ∀ c ∈ paddedDigits width n, c.isDigit = true := by
  induction width generalizing n with
  | zero => exact fun c hc => absurd hc List.not_mem_nil
  | succ width ih =>
    intro c hc
    rw [paddedDigits, List.mem_append, List.mem_singleton] at hc
    rcases hc with hc | rfl
    · exact ih c hc
    · rw [Nat.isDigit_digitChar]
      exact decide_eq_true (Nat.mod_lt n (by decide))

/-- The digits that are kept are those of the remainder. -/
theorem ofDigitChars_paddedDigits (width n : Nat) :
    Nat.ofDigitChars 10 (paddedDigits width n) 0 = n % Nat.pow 10 width := by
  induction width generalizing n with
  | zero => exact (Nat.mod_one n).symm
  | succ width ih =>
    have hdigit : n % 10 < 10 := Nat.mod_lt n (by decide)
    have hpow : Nat.pow 10 (width + 1) = 10 * Nat.pow 10 width := Nat.mul_comm _ _
    have hmod : n % (10 * Nat.pow 10 width) = n % 10 + 10 * (n / 10 % Nat.pow 10 width) :=
      Nat.mod_mul
    rw [paddedDigits, Nat.ofDigitChars_append, ih, Nat.ofDigitChars_cons_digitChar_of_lt_ten hdigit,
      Nat.ofDigitChars_nil, hpow, hmod]
    omega

/-- A number but zero is not written with a zero in front. Induction on the number: it has the
first digit of a tenth of it. -/
theorem head?_toDigits {n : Nat} (h : 0 < n) : (Nat.toDigits 10 n).head? ≠ some '0' := by
  induction n using Nat.strongRecOn with
  | ind n ih =>
    rw [Nat.toDigits_eq_if (by decide)]
    by_cases hsmall : n < 10
    · rw [if_pos hsmall]
      have hall : ∀ d < 10, 0 < d → [Nat.digitChar d].head? ≠ some '0' := by decide
      exact hall n hsmall h
    · rw [if_neg hsmall]
      have htenth := ih (n / 10) (by omega) (by omega)
      cases hdigits : Nat.toDigits 10 (n / 10) with
      | nil => exact absurd hdigits Nat.toDigits_ne_nil
      | cons d ds =>
        rw [hdigits] at htenth
        exact htenth

/-- Two numbers that are written alike are the same. -/
theorem natText_injective {m n : Nat} (h : natText m = natText n) : m = n := by
  have hdigits : Nat.toDigits 10 m = Nat.toDigits 10 n := String.ofList_injective h
  rw [← Nat.ofDigitChars_ten_toDigits (n := m), hdigits, Nat.ofDigitChars_ten_toDigits]

end Quiesce.Text
