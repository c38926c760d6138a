import Quiesce.Proofs.RunnerIds

/-!
# Which texts are integers

An integer is written in decimal: a sign, if any, and ASCII digits, of which the first ones may be
zeros. This module says which texts are integers of 64 bits without saying how they are read, and
shows that the readers accept just those, each as the number that it writes.

* `Text.IsWord64` and `Text.IsInt64` are the texts, without and with negative numbers.
* `Text.readDigits_ok` is what a run of digits that was read must have been, and
  `Text.readWord64_eq_ok_iff` and `Text.readInt64_eq_ok_iff` are the main statements.
-/

namespace Quiesce.Text

/-- The digits write the number in decimal, with any number of zeros in front. -/
structure Writes (digits : List Char) (n : Nat) : Prop where
  ne_nil : digits ≠ []
  isDigit : ∀ c ∈ digits, c.isDigit = true
  value : Nat.ofDigitChars 10 digits 0 = n

/-- The text is that unsigned integer of 64 bits: digits behind a plus sign or none. -/
def IsWord64 (s : String) (n : Nat) : Prop :=
  n < 0x10000000000000000 ∧ ∃ digits, Writes digits n ∧
    (s.toList = digits ∨ s.toList = '+' :: digits)

/-- The text is that signed integer of 64 bits: digits behind a sign or none. -/
def IsInt64 (s : String) (i : Int) : Prop :=
  -0x8000000000000000 ≤ i ∧ i < 0x8000000000000000 ∧ ∃ digits n, Writes digits n ∧
    ((s.toList = digits ∨ s.toList = '+' :: digits) ∧ i = n ∨ s.toList = '-' :: digits ∧ i = -n)

/-! ## Runs of digits -/

/-- What was read is a run of digits. Induction on the characters: the number so far is within the
limit after each of them. -/
theorem readDigits_ok {limit acc n : Nat} {beyond : IntegerError} {cs : List Char}
    (h : readDigits limit beyond acc cs = .ok n) :
    (∀ c ∈ cs, c.isDigit = true) ∧ Nat.ofDigitChars 10 cs acc = n ∧ (acc ≤ limit → n ≤ limit) := by
  induction cs generalizing acc with
  | nil =>
    cases h
    exact ⟨nofun, Nat.ofDigitChars_nil, id⟩
  | cons c cs ih =>
    rw [readDigits] at h
    by_cases hdigit : c.isDigit = true
    · rw [if_pos hdigit] at h
      by_cases hwithin : acc * 10 + digitValue c ≤ limit
      · rw [if_pos hwithin] at h
        obtain ⟨hdigits, hvalue, hlimit⟩ := ih h
        refine ⟨List.forall_mem_cons.2 ⟨hdigit, hdigits⟩, ?_, fun _ => hlimit hwithin⟩
        rw [Nat.ofDigitChars_cons, ← hvalue, Nat.mul_comm 10 acc]
        rfl
      · rw [if_neg hwithin] at h
        cases h
    · rw [if_neg hdigit] at h
      cases h

/-- **A run of digits is read exactly if it writes a number within the limit.** -/
theorem readDigits_eq_ok_iff {limit n : Nat} {beyond : IntegerError} {cs : List Char}
    (hne : cs ≠ []) : readDigits limit beyond 0 cs = .ok n ↔ Writes cs n ∧ n ≤ limit := by
  constructor
  · intro h
    obtain ⟨hdigits, hvalue, hlimit⟩ := readDigits_ok h
    exact ⟨⟨hne, hdigits, hvalue⟩, hlimit (Nat.zero_le limit)⟩
  · rintro ⟨⟨-, hdigits, hvalue⟩, hlimit⟩
    subst hvalue
    exact readDigits_eq beyond hdigits hlimit

/-- The same for what is made of the number. -/
theorem readDigits_bind_eq_ok_iff {α : Type} {limit : Nat} {beyond : IntegerError} {cs : List Char}
    (hne : cs ≠ []) (f : Nat → α) (a : α) :
    (readDigits limit beyond 0 cs >>= fun n => pure (f n)) = .ok a ↔
      ∃ n, Writes cs n ∧ n ≤ limit ∧ f n = a := by
  constructor
  · intro h
    cases hread : readDigits limit beyond 0 cs with
    | error e =>
      rw [hread] at h
      cases h
    | ok n =>
      rw [hread] at h
      cases h
      obtain ⟨hwrites, hlimit⟩ := (readDigits_eq_ok_iff hne).1 hread
      exact ⟨n, hwrites, hlimit, rfl⟩
  · rintro ⟨n, hwrites, hlimit, rfl⟩
    rw [(readDigits_eq_ok_iff hne).2 ⟨hwrites, hlimit⟩]
    rfl

/-- Digits do not begin with a sign. -/
theorem Writes.ne_cons {digits cs : List Char} {n : Nat} {c : Char} (h : Writes digits n)
    (hc : c.isDigit = false) : digits ≠ c :: cs := by
  rintro rfl
  have hdigit := h.isDigit c List.mem_cons_self
  rw [hc] at hdigit
  cases hdigit

section Texts

variable {s : String} {digits : List Char} {n : Nat}

/-! ## Unsigned integers -/

/-- Bare digits are read up to the largest number of 64 bits. -/
theorem readWord64_of_digits (h : Writes digits n) (hs : s.toList = digits) :
    readWord64 s = readDigits 0xffffffffffffffff .tooLarge 0 digits := by
  unfold readWord64
  rw [hs]
  split
  case h_1 => exact absurd rfl h.ne_nil
  case h_2 => exact absurd rfl (h.ne_cons (by decide))
  case h_3 => exact absurd rfl (h.ne_cons (by decide))
  case h_4 => rfl

theorem readWord64_of_plus (h : Writes digits n) (hs : s.toList = '+' :: digits) :
    readWord64 s = readDigits 0xffffffffffffffff .tooLarge 0 digits := by
  unfold readWord64
  rw [hs]
  cases digits with
  | nil => exact absurd rfl h.ne_nil
  | cons d ds => rfl

/-- **A text is read as an unsigned integer exactly if it is that integer.** -/
theorem readWord64_eq_ok_iff : readWord64 s = .ok n ↔ IsWord64 s n := by
  constructor
  · intro h
    unfold readWord64 at h
    split at h
    case h_1 => cases h
    case h_2 => cases h
    case h_3 cs hbare hs =>
      obtain ⟨hwrites, hlimit⟩ := (readDigits_eq_ok_iff fun hnil => hbare hnil).1 h
      exact ⟨by omega, cs, hwrites, Or.inr hs⟩
    case h_4 hnil _ _ =>
      obtain ⟨hwrites, hlimit⟩ := (readDigits_eq_ok_iff fun h' => hnil h').1 h
      exact ⟨by omega, s.toList, hwrites, Or.inl rfl⟩
  · rintro ⟨hn, digits, hwrites, hs⟩
    have hread : readDigits 0xffffffffffffffff .tooLarge 0 digits = .ok n :=
      (readDigits_eq_ok_iff hwrites.ne_nil).2 ⟨hwrites, by omega⟩
    rcases hs with hs | hs
    · rw [readWord64_of_digits hwrites hs, hread]
    · rw [readWord64_of_plus hwrites hs, hread]

/-- A text is one number only. -/
theorem IsWord64.unique {m : Nat} (hm : IsWord64 s m) (hn : IsWord64 s n) : m = n := by
  have hread := readWord64_eq_ok_iff.2 hm
  rw [readWord64_eq_ok_iff.2 hn] at hread
  exact (Except.ok.inj hread).symm

/-! ## Signed integers

Behind a minus sign the digits may write a number one greater than else. -/

theorem readInt64_of_digits (h : Writes digits n) (hs : s.toList = digits) :
    readInt64 s = readDigits 0x7fffffffffffffff .tooLarge 0 digits >>= fun n =>
      pure (Int64.ofInt n) := by
  unfold readInt64
  rw [hs]
  split
  case h_1 => exact absurd rfl h.ne_nil
  -- no sign stands in front of the digits
  case h_2 => exact absurd rfl (h.ne_cons (by decide))
  case h_3 => exact absurd rfl (h.ne_cons (by decide))
  case h_4 => exact absurd rfl (h.ne_cons (by decide))
  case h_5 => exact absurd rfl (h.ne_cons (by decide))
  case h_6 => rfl

theorem readInt64_of_plus (h : Writes digits n) (hs : s.toList = '+' :: digits) :
    readInt64 s = readDigits 0x7fffffffffffffff .tooLarge 0 digits >>= fun n =>
      pure (Int64.ofInt n) := by
  unfold readInt64
  rw [hs]
  cases digits with
  | nil => exact absurd rfl h.ne_nil
  | cons d ds => rfl

/-- Behind a minus sign the digits may go one further. -/
theorem readInt64_of_minus (h : Writes digits n) (hs : s.toList = '-' :: digits) :
    readInt64 s = readDigits 0x8000000000000000 .tooSmall 0 digits >>= fun n =>
      pure (Int64.ofInt (-(n : Int))) := by
  unfold readInt64
  rw [hs]
  cases digits with
  | nil => exact absurd rfl h.ne_nil
  | cons d ds => rfl

/-- **A text is read as a signed integer exactly if it is that integer.** -/
theorem readInt64_eq_ok_iff {i : Int64} : readInt64 s = .ok i ↔ IsInt64 s i.toInt := by
  constructor
  · intro h
    unfold readInt64 at h
    split at h
    case h_1 => cases h
    case h_2 => cases h
    case h_3 => cases h
    case h_4 cs hbare hs =>
      -- a minus sign in front
      obtain ⟨n, hwrites, hlimit, rfl⟩ :=
        (readDigits_bind_eq_ok_iff (fun hnil => hbare hnil) _ i).1 h
      rw [Int64.toInt_ofInt_of_le (by omega) (by omega)]
      exact ⟨by omega, by omega, cs, n, hwrites, Or.inr ⟨hs, rfl⟩⟩
    case h_5 cs hbare hs =>
      -- a plus sign in front
      obtain ⟨n, hwrites, hlimit, rfl⟩ :=
        (readDigits_bind_eq_ok_iff (fun hnil => hbare hnil) _ i).1 h
      rw [Int64.toInt_ofInt_of_le (by omega) (by omega)]
      exact ⟨by omega, by omega, cs, n, hwrites, Or.inl ⟨Or.inr hs, rfl⟩⟩
    case h_6 hnil _ _ _ _ =>
      -- no sign
      obtain ⟨n, hwrites, hlimit, rfl⟩ :=
        (readDigits_bind_eq_ok_iff (fun h' => hnil h') _ i).1 h
      rw [Int64.toInt_ofInt_of_le (by omega) (by omega)]
      exact ⟨by omega, by omega, s.toList, n, hwrites, Or.inl ⟨Or.inl rfl, rfl⟩⟩
  · rintro ⟨hlow, hhigh, digits, n, hwrites, ⟨hs, hi⟩ | ⟨hs, hi⟩⟩
    · have hread : (readDigits 0x7fffffffffffffff .tooLarge 0 digits >>= fun n =>
          pure (Int64.ofInt n)) = .ok i :=
        (readDigits_bind_eq_ok_iff hwrites.ne_nil _ i).2
          ⟨n, hwrites, by omega, by rw [← hi, Int64.ofInt_toInt]⟩
      rcases hs with hs | hs
      · rw [readInt64_of_digits hwrites hs, hread]
      · rw [readInt64_of_plus hwrites hs, hread]
    · rw [readInt64_of_minus hwrites hs]
      exact (readDigits_bind_eq_ok_iff hwrites.ne_nil _ i).2
        ⟨n, hwrites, by omega, by rw [← hi, Int64.ofInt_toInt]⟩

end Texts
end Quiesce.Text
