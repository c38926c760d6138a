import Quiesce.Stop.Registration

/-!
# The number of a runner, written and read

The number that is recorded on a pod is read back as it was written.

* `Text.readDigits_eq` is the value that a run of digits is read as.
* `readInt64_runnerIdText` reads the text of any number.
-/

namespace Quiesce

namespace Text

/-- Digits are read as the number they write, unless that number is beyond the limit. -/
theorem readDigits_eq {limit acc : Nat} {cs : List Char} (beyond : IntegerError)
    (hdigits : ∀ c ∈ cs, c.isDigit) (hlimit : Nat.ofDigitChars 10 cs acc ≤ limit) :
    readDigits limit beyond acc cs = .ok (Nat.ofDigitChars 10 cs acc) := by
  induction cs generalizing acc with
  | nil => rw [readDigits, Nat.ofDigitChars_nil]
  | cons c cs ih =>
    have hstep : acc * 10 + digitValue c = 10 * acc + (c.toNat - '0'.toNat) := by
      unfold digitValue
      omega
    rw [Nat.ofDigitChars_cons] at hlimit ⊢
    rw [readDigits, if_pos (hdigits c List.mem_cons_self), hstep]
    -- the number only grows, so that it is within the limit after this digit as well
    have hgrows : 10 * acc + (c.toNat - '0'.toNat) ≤
        Nat.ofDigitChars 10 cs (10 * acc + (c.toNat - '0'.toNat)) := by
      rw [Nat.ofDigitChars_eq_ofDigitChars_zero]
      have := Nat.le_mul_of_pos_left (10 * acc + (c.toNat - '0'.toNat))
        (Nat.pow_pos (n := cs.length) (show 0 < 10 by decide))
      omega
    rw [if_pos (Nat.le_trans hgrows hlimit)]
    exact ih (fun d hd => hdigits d (List.mem_cons_of_mem _ hd)) hlimit

/-- A number is read back from its digits, if it is within the limit. -/
theorem readDigits_toDigits {limit n : Nat} (beyond : IntegerError) (h : n ≤ limit) :
    readDigits limit beyond 0 (Nat.toDigits 10 n) = .ok n := by
  have hdigits : ∀ c ∈ Nat.toDigits 10 n, c.isDigit := fun c hc =>
    Nat.isDigit_of_mem_toDigits (by decide) (by decide) hc
  rw [readDigits_eq beyond hdigits (by rwa [Nat.ofDigitChars_ten_toDigits]),
    Nat.ofDigitChars_ten_toDigits]

/-- A number without a sign is read by its digits. -/
theorem readInt64_digits {n : Nat} (h : n ≤ 0x7fffffffffffffff) :
    readInt64 (String.ofList (Nat.toDigits 10 n)) = .ok (Int64.ofInt n) := by
  have hread := readDigits_toDigits .tooLarge h
  have hdigit : ∀ c ∈ Nat.toDigits 10 n, c.isDigit := fun c hc =>
    Nat.isDigit_of_mem_toDigits (b := 10) (by decide) (by decide) hc
  have hne : Nat.toDigits 10 n ≠ [] := Nat.toDigits_ne_nil
  unfold readInt64
  rw [String.toList_ofList]
  generalize Nat.toDigits 10 n = cs at hread hdigit hne
  split
  case h_1 => exact absurd rfl hne
  -- no sign stands in front of the digits
  case h_2 => exact absurd (hdigit '+' List.mem_cons_self) (by decide)
  case h_3 => exact absurd (hdigit '-' List.mem_cons_self) (by decide)
  case h_4 => exact absurd (hdigit '-' List.mem_cons_self) (by decide)
  case h_5 => exact absurd (hdigit '+' List.mem_cons_self) (by decide)
  case h_6 =>
    rw [hread]
    rfl

/-- A number behind a minus sign is read by its digits. -/
theorem readInt64_minus {n : Nat} (h : n ≤ 0x8000000000000000) :
    readInt64 (String.ofList ('-' :: Nat.toDigits 10 n)) = .ok (Int64.ofInt (-(n : Int))) := by
  have hread := readDigits_toDigits .tooSmall h
  unfold readInt64
  rw [String.toList_ofList]
  cases hdigits : Nat.toDigits 10 n with
  | nil => exact absurd hdigits Nat.toDigits_ne_nil
  | cons c cs =>
    rw [hdigits] at hread
    show (do
      let n ← readDigits 0x8000000000000000 .tooSmall 0 (c :: cs)
      return Int64.ofInt (-(n : Int))) = _
    rw [hread]
    rfl

end Text

/-- **The number of a runner is read back as it was written.** -/
theorem readInt64_runnerIdText (id : Int64) : Text.readInt64 (runnerIdText id) = .ok id := by
  have hlower := id.le_toInt
  have hupper := id.toInt_lt
  unfold runnerIdText Text.intText
  by_cases hneg : id.toInt < 0
  · have habs : -(id.toInt.natAbs : Int) = id.toInt := by omega
    rw [if_pos hneg]
    show Text.readInt64 (String.ofList ('-' :: Nat.toDigits 10 id.toInt.natAbs)) = _
    rw [Text.readInt64_minus (by omega), habs, Int64.ofInt_toInt]
  · have habs : (id.toInt.natAbs : Int) = id.toInt := by omega
    rw [if_neg hneg]
    show Text.readInt64 (String.ofList (Nat.toDigits 10 id.toInt.natAbs)) = _
    rw [Text.readInt64_digits (by omega), habs, Int64.ofInt_toInt]

end Quiesce
