import Quiesce.Stop.Annotate

/-!
# The text of a mark, read back

A mark holds an instant in whole seconds. Within the years that have four digits it is read back as
the instant that was written, without what was past the second.

* `Timestamp.readFixed_paddedDigits` reads a padded number back, which is all there is to a field.
* `Timestamp.readFields_writeChars` reads the fields one after the other.
* `read_markText` reads the text of a mark; a leap second stays one. In other years the text of a
  mark cannot be read, so that it never stands for another instant: `wholeSecond_of_read_markText`.
-/

namespace Quiesce

/-- The instant at which its second began, the leap second being a second of its own. -/
def Instant.wholeSecond (t : Instant) : Instant where
  day := t.day
  second := t.second
  nanosecond := t.nanosecond / 1000000000 * 1000000000
  second_lt := t.second_lt
  nanosecond_lt := by have := t.nanosecond_lt; omega
  minute_end_of_leap h := t.minute_end_of_leap (by omega)

namespace Timestamp

open Duration (paddedDigits)

/-! ## Fields -/

theorem digit?_digitChar {n : Nat} (h : n < 10) : digit? n.digitChar = some n := by
  unfold digit?
  rw [if_pos (by rw [Nat.isDigit_digitChar]; exact decide_eq_true h)]
  exact congrArg some (Nat.toNat_digitChar_sub_48_of_lt_ten h)

/-- A padded number is as wide as it is asked to be. -/
theorem length_paddedDigits (width n : Nat) : (paddedDigits width n).length = width := by
  induction width generalizing n with
  | zero => rfl
  | succ width ih => rw [paddedDigits, List.length_append, ih]; rfl

/-- The last digit of a field can be read apart from the others. -/
theorem readFixed_succ (width acc : Nat) (cs : List Char) :
    readFixed (width + 1) acc cs = (readFixed width acc cs >>= fun r => readFixed 1 r.1 r.2) := by
  induction width generalizing acc cs with
  | zero => rfl
  | succ width ih =>
    cases cs with
    | nil => rfl
    | cons c cs =>
      rw [readFixed, readFixed]
      cases digit? c with
      | none => rfl
      | some d => exact ih (acc * 10 + d) cs

/-- Digits in a fixed number are read back, as long as there are enough of them. -/
theorem readFixed_padded (width acc n : Nat) (rest : List Char) :
    readFixed width acc (paddedDigits width n ++ rest) =
      .ok (acc * Nat.pow 10 width + n % Nat.pow 10 width, rest) := by
  induction width generalizing n rest with
  | zero => simp [readFixed, paddedDigits, Nat.mod_one]
  | succ width ih =>
    have hdigit : n % 10 < 10 := Nat.mod_lt n (by decide)
    rw [readFixed_succ, paddedDigits, List.append_assoc, ih]
    show readFixed 1 _ ((n % 10).digitChar :: rest) = _
    rw [readFixed, digit?_digitChar hdigit]
    show Except.ok (_, rest) = _
    -- the digits in front of the last are those of a tenth of the number
    have hpow : Nat.pow 10 (width + 1) = 10 * Nat.pow 10 width := Nat.mul_comm _ _
    have hmod : n % (10 * Nat.pow 10 width) = n % 10 + 10 * (n / 10 % Nat.pow 10 width) :=
      Nat.mod_mul
    have hacc : acc * (10 * Nat.pow 10 width) = 10 * (acc * Nat.pow 10 width) :=
      Nat.mul_left_comm acc 10 _
    rw [hpow, hmod, hacc]
    congr 2
    omega

/-- **A padded number is read back**, and what follows it is left. -/
theorem readFixed_paddedDigits {width n : Nat} (h : n < Nat.pow 10 width) (rest : List Char) :
    readFixed width 0 (paddedDigits width n ++ rest) = .ok (n, rest) := by
  rw [readFixed_padded, Nat.zero_mul, Nat.zero_add, Nat.mod_eq_of_lt h]

theorem length_le_byteCount (cs : List Char) : cs.length ≤ byteCount cs := by
  induction cs with
  | nil => exact Nat.le_refl 0
  | cons c cs ih =>
    have hc := c.utf8Size_pos
    show cs.length + 1 ≤ c.utf8Size + byteCount cs
    omega

end Timestamp

/-! ## The date -/

theorem Date.monthLengths_le (y : Int) (k : Nat) : (monthLengths y).getD k 0 ≤ 31 := by
  have hall : ∀ n ∈ monthLengths y, n ≤ 31 := by
    unfold monthLengths
    cases isLeapYear y <;> decide
  rw [List.getD_eq_getElem?_getD]
  cases hlength : (monthLengths y)[k]? with
  | none => exact Nat.zero_le 31
  | some n => exact hall n (List.mem_of_getElem? hlength)

/-- The month and the day of a date that exists have two digits. -/
theorem Date.fields_lt {d : Date} (h : d.isValid = true) :
    d.month < Nat.pow 10 2 ∧ d.day < Nat.pow 10 2 := by
  have hday := Date.monthLengths_le d.year (d.month - 1)
  simp only [isValid, Bool.and_eq_true, decide_eq_true_eq] at h
  show d.month < 100 ∧ d.day < 100
  omega

namespace Timestamp

open Duration (paddedDigits)

/-- Whether the year of the instant is written in four digits. -/
def HasShortYear (t : Instant) : Prop :=
  0 ≤ t.date.year ∧ t.date.year ≤ 9999

instance (t : Instant) : Decidable (HasShortYear t) :=
  inferInstanceAs (Decidable (_ ∧ _))

/-- A year that needs no sign is written in four digits. -/
theorem writeYear_short {y : Int} (h : 0 ≤ y) (h' : y ≤ 9999) :
    writeYear y = paddedDigits 4 y.natAbs := by
  unfold writeYear
  rw [if_pos ⟨h, h'⟩, if_pos (by omega)]

/-- The time of day in the text of a mark, the last second of a minute and the leap second after it
included. -/
theorem timeOfDay?_shown (t : Instant) :
    timeOfDay? (t.second / 3600) (t.second / 60 % 60) (shownSecond t) 0 =
      some (t.second, t.wholeSecond.nanosecond) := by
  have hsecond := t.second_lt
  have hnano := t.nanosecond_lt
  have hleap := t.minute_end_of_leap
  show timeOfDay? _ _ _ 0 = some (t.second, t.nanosecond / 1000000000 * 1000000000)
  unfold timeOfDay? shownSecond
  rw [if_pos (by omega)]
  by_cases h : 1000000000 ≤ t.nanosecond
  · have hend := hleap h
    rw [if_pos (by omega)]
    congr 2 <;> omega
  · rw [if_neg (by omega)]
    congr 2 <;> omega

theorem ofLocal_zero (t : Instant) : t.ofLocal 0 = t := by
  have hsecond := t.second_lt
  obtain ⟨day, second, nanosecond, _, _, _⟩ := t
  unfold Instant.ofLocal
  dsimp only at hsecond ⊢
  congr 1 <;> omega

/-- An instant is put together again from its parts. -/
theorem ofParts?_self (t : Instant) : Instant.ofParts? t.day t.second t.nanosecond = some t := by
  unfold Instant.ofParts?
  rw [dif_pos ⟨t.second_lt, t.nanosecond_lt, t.minute_end_of_leap⟩]

/-- Field by field, a mark is read back as its second. -/
theorem readFields_writeChars {t : Instant} (hyear : HasShortYear t) :
    readFields (writeChars t .seconds) = .ok t.wholeSecond := by
  obtain ⟨hyear, hyear'⟩ := hyear
  have hvalid : t.date.isValid = true := Date.isValid_ofDayNumber t.day
  obtain ⟨hmonth, hday⟩ := Date.fields_lt hvalid
  have hsecond := t.second_lt
  have hnano := t.nanosecond_lt
  have hyears : t.date.year.natAbs < Nat.pow 10 4 := show _ < 10000 by omega
  have hhours : t.second / 3600 < Nat.pow 10 2 := show _ < 100 by omega
  have hminutes : t.second / 60 % 60 < Nat.pow 10 2 := show _ < 100 by omega
  have hseconds : shownSecond t < Nat.pow 10 2 := by
    show t.second % 60 + t.nanosecond / 1000000000 < 100
    omega
  have hdate : (⟨(t.date.year.natAbs : Int), t.date.month, t.date.day⟩ : Date) = t.date := by
    rw [Int.natAbs_of_nonneg hyear]
  have hmoment : Instant.ofParts? t.date.dayNumber t.second t.wholeSecond.nanosecond =
      some t.wholeSecond := by
    rw [show t.date.dayNumber = t.day from Date.dayNumber_ofDayNumber t.day]
    exact ofParts?_self t.wholeSecond
  have hfraction : readOptionalFraction ['Z'] = .ok (0, ['Z']) := rfl
  have hoffset : readOffset readColon ['Z'] = .ok (0, []) := rfl
  have hrange : offsetInRange 0 = true := rfl
  unfold writeChars
  rw [writeYear_short hyear hyear']
  simp only [List.append_assoc, List.cons_append, List.nil_append]
  unfold readFields
  -- one field after the other, each leaving the characters of the next
  simp only [bind, Except.bind, readOneOf, readFixed_paddedDigits hyears,
    readFixed_paddedDigits hmonth, hdate, hvalid, Bool.not_true, Bool.false_eq_true, if_false,
    readFixed_paddedDigits hday, decide_true, if_true, Bool.true_or,
    readFixed_paddedDigits hhours, readFixed_paddedDigits hminutes,
    readFixed_paddedDigits hseconds, hfraction, timeOfDay?_shown, hoffset, List.isEmpty_nil,
    hrange, hmoment, ofLocal_zero]
  rfl

end Timestamp

/-- **The text of a mark is read back** as the instant without what was past its second. -/
theorem read_markText {t : Instant} (hyear : Timestamp.HasShortYear t) :
    Timestamp.read (markText t) = .ok t.wholeSecond := by
  have hlength : Timestamp.leastBytes ≤ (Timestamp.writeChars t .seconds).length := by
    unfold Timestamp.writeChars
    rw [Timestamp.writeYear_short hyear.1 hyear.2]
    simp only [List.length_append, List.length_cons, Timestamp.length_paddedDigits, List.length_nil]
    decide
  have hbytes := Nat.le_trans hlength (Timestamp.length_le_byteCount _)
  unfold markText Timestamp.write Timestamp.read
  rw [String.toList_ofList, if_neg (Nat.not_lt.2 hbytes)]
  exact Timestamp.readFields_writeChars hyear

/-- A year outside those is written with its sign, which no year that is read begins with. -/
theorem Timestamp.readFields_longYear {t : Instant} (hyear : ¬HasShortYear t) :
    readFields (writeChars t .seconds) = .error .invalid := by
  have hsign : ∃ sign rest, digit? sign = none ∧ writeChars t .seconds = sign :: rest := by
    have hlong : ¬(0 ≤ t.date.year ∧ t.date.year ≤ 9999) := hyear
    unfold writeChars writeYear
    dsimp only
    rw [if_neg hlong]
    by_cases hneg : t.date.year < 0
    · rw [if_pos hneg]
      exact ⟨'-', _, rfl, rfl⟩
    · rw [if_neg hneg]
      exact ⟨'+', _, rfl, rfl⟩
  obtain ⟨sign, rest, hdigit, hchars⟩ := hsign
  have hfixed : readFixed 4 0 (sign :: rest) = .error .invalid := by
    rw [readFixed, hdigit]
  rw [hchars]
  unfold readFields
  rw [hfixed]
  rfl

/-- Whatever the text of a mark is read back as can only be that instant. -/
theorem wholeSecond_of_read_markText {t start : Instant}
    (h : Timestamp.read (markText t) = .ok start) : start = t.wholeSecond := by
  by_cases hyear : Timestamp.HasShortYear t
  · rw [read_markText hyear] at h
    cases h
    rfl
  · unfold markText Timestamp.write Timestamp.read at h
    rw [String.toList_ofList, Timestamp.readFields_longYear hyear] at h
    by_cases hshort : Timestamp.byteCount (Timestamp.writeChars t .seconds) < Timestamp.leastBytes
    · rw [if_pos hshort] at h
      cases h
    · rw [if_neg hshort] at h
      cases h

end Quiesce
