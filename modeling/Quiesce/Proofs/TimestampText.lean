import Mathlib.Tactic.SplitIfs
import Quiesce.Proofs.Digits
import Quiesce.Proofs.MarkText
import Quiesce.Time.Lenient

/-!
# Exact timestamps, read back

In documents an instant stands with as many digits as it takes, and its year with a sign where four
digits do not do. The lenient reader, which takes much else besides, reads the instant back.

* `Timestamp.readUpTo_digits` reads a run of digits back, be it padded or not.
* `Timestamp.readYear_writeYear` and `Timestamp.readOptionalFraction_writeFraction` read the two
  fields whose widths differ.
* `Timestamp.readLenient_write` is the main statement.
-/

namespace Quiesce.Timestamp

open Duration (paddedDigits)
open Text (EndsDigits endsDigits_cons takeWhile_digits dropWhile_digits digits_append_ne trimStart
  isBlank)

/-! ## Runs of digits -/

/-- Digits are added up to the number that they write. -/
theorem foldl_digits {digits : List Char} (hdigits : ∀ c ∈ digits, c.isDigit = true) (acc : Nat) :
    (digits.filterMap digit?).foldl (fun n d => n * 10 + d) acc =
      Nat.ofDigitChars 10 digits acc := by
  induction digits generalizing acc with
  | nil => rfl
  | cons c digits ih =>
    have hc : digit? c = some (c.toNat - '0'.toNat) := if_pos (hdigits c List.mem_cons_self)
    have hfold := ih (fun d hd => hdigits d (List.mem_cons_of_mem c hd))
      (acc * 10 + (c.toNat - '0'.toNat))
    rw [List.filterMap_cons_some hc, List.foldl_cons, hfold, Nat.mul_comm acc 10]
    rfl

theorem length_filterMap_digits {digits : List Char} (hdigits : ∀ c ∈ digits, c.isDigit = true) :
    (digits.filterMap digit?).length = digits.length := by
  induction digits with
  | nil => rfl
  | cons c digits ih =>
    have hc : digit? c = some (c.toNat - '0'.toNat) := if_pos (hdigits c List.mem_cons_self)
    rw [List.filterMap_cons_some hc, List.length_cons, List.length_cons,
      ih fun d hd => hdigits d (List.mem_cons_of_mem c hd)]

/-- **A run of digits is read back** where there is room for it. -/
theorem readUpTo_digits {width : Nat} {digits rest : List Char}
    (hdigits : ∀ c ∈ digits, c.isDigit = true) (hne : digits ≠ []) (hwidth : digits.length ≤ width)
    (hrest : EndsDigits rest) :
    readUpTo width (digits ++ rest) = some (Nat.ofDigitChars 10 digits 0, rest) := by
  have hroom : EndsDigits (rest.take (width - digits.length)) := by
    intro c hc
    rw [List.head?_take] at hc
    by_cases hfull : width - digits.length = 0
    · rw [if_pos hfull] at hc
      cases hc
    · rw [if_neg hfull] at hc
      exact hrest c hc
  unfold readUpTo
  rw [List.take_append, List.take_of_length_le hwidth, takeWhile_digits hdigits hroom]
  split
  case h_1 => exact absurd rfl hne
  case h_2 => rw [foldl_digits hdigits, List.drop_left]

theorem isBlank_of_isDigit {c : Char} (h : c.isDigit = true) : isBlank c = false := by
  have hall : ∀ n < 58, 48 ≤ n → isBlank (Char.ofNat n) = false := by decide
  have hbounds : 48 ≤ c.toNat ∧ c.toNat ≤ 57 := by
    simpa [Char.isDigit, UInt32.le_iff_toNat_le] using h
  rw [← Char.ofNat_toNat c]
  exact hall c.toNat (by omega) hbounds.1

theorem trimStart_cons {c : Char} (h : isBlank c = false) (cs : List Char) :
    trimStart (c :: cs) = c :: cs := by
  unfold trimStart
  rw [List.dropWhile_cons, h, if_neg Bool.false_ne_true]

theorem trimStart_digits {digits : List Char} (hdigits : ∀ c ∈ digits, c.isDigit = true)
    (hne : digits ≠ []) (rest : List Char) : trimStart (digits ++ rest) = digits ++ rest := by
  cases digits with
  | nil => exact absurd rfl hne
  | cons c digits => exact trimStart_cons (isBlank_of_isDigit (hdigits c List.mem_cons_self)) _

/-! ## Fields -/

/-- A field of two digits is read back. -/
theorem readField_paddedDigits {n : Nat} (h : n < Nat.pow 10 2) {rest : List Char}
    (hrest : EndsDigits rest) : readField (paddedDigits 2 n ++ rest) = some (n, rest) := by
  have hdigits : ∀ c ∈ paddedDigits 2 n, c.isDigit = true := Text.isDigit_of_mem_paddedDigits
  have hlength : (paddedDigits 2 n).length = 2 := length_paddedDigits 2 n
  have hne : paddedDigits 2 n ≠ [] := List.ne_nil_of_length_eq_add_one hlength
  unfold readField
  rw [trimStart_digits hdigits hne, readUpTo_digits hdigits hne (Nat.le_of_eq hlength) hrest,
    Text.ofDigitChars_paddedDigits, Nat.mod_eq_of_lt h]

theorem readSeparator_cons {c : Char} (h : isBlank c = false) (cs : List Char) :
    readSeparator c (c :: cs) = some cs := by
  unfold readSeparator
  rw [trimStart_cons h]
  exact if_pos rfl

/-- The digits of a year, four of them with zeros in front, or as many as it takes. -/
theorem writeYear_cases (y : Int) :
    ∃ digits, (∀ c ∈ digits, c.isDigit = true) ∧ digits ≠ [] ∧
      Nat.ofDigitChars 10 digits 0 = y.natAbs ∧
      (writeYear y = digits ∧ digits.length = 4 ∧ 0 ≤ y ∨
        writeYear y = '-' :: digits ∧ y < 0 ∨ writeYear y = '+' :: digits ∧ 0 ≤ y) := by
  by_cases hsmall : y.natAbs < 10000
  · have hlength : (paddedDigits 4 y.natAbs).length = 4 := length_paddedDigits 4 y.natAbs
    refine ⟨paddedDigits 4 y.natAbs, Text.isDigit_of_mem_paddedDigits,
      List.ne_nil_of_length_eq_add_one hlength, ?_, ?_⟩
    · rw [Text.ofDigitChars_paddedDigits]
      exact Nat.mod_eq_of_lt hsmall
    · unfold writeYear
      rw [if_pos hsmall]
      by_cases hneg : y < 0
      · rw [if_neg (by omega), if_pos hneg]
        exact Or.inr (Or.inl ⟨rfl, hneg⟩)
      · rw [if_pos (by omega)]
        exact Or.inl ⟨rfl, hlength, by omega⟩
  · refine ⟨Nat.toDigits 10 y.natAbs, Text.isDigit_of_mem_toDigits, Nat.toDigits_ne_nil,
      Nat.ofDigitChars_ten_toDigits, Or.inr ?_⟩
    unfold writeYear
    dsimp only
    rw [if_neg hsmall, if_neg (by omega)]
    by_cases hneg : y < 0
    · rw [if_pos hneg]
      exact Or.inl ⟨rfl, hneg⟩
    · rw [if_neg hneg]
      exact Or.inr ⟨rfl, by omega⟩

/-- **A year is read back**, whatever its sign and the number of its digits. -/
theorem readYear_writeYear (y : Int) {rest : List Char} (hrest : EndsDigits rest) :
    readYear (writeYear y ++ rest) = some (y, rest) := by
  obtain ⟨digits, hdigits, hne, hvalue, hwritten⟩ := writeYear_cases y
  have hall : readUpTo (digits ++ rest).length (digits ++ rest) = some (y.natAbs, rest) := by
    rw [readUpTo_digits hdigits hne (by rw [List.length_append]; omega) hrest, hvalue]
  unfold readYear
  rcases hwritten with ⟨hwritten, hlength, hsign⟩ | ⟨hwritten, hsign⟩ | ⟨hwritten, hsign⟩
  · rw [hwritten, trimStart_digits hdigits hne]
    split
    -- no sign stands in front of the digits
    case h_1 cs hminus => exact absurd hminus (digits_append_ne hdigits hne (by decide) _)
    case h_2 cs hplus => exact absurd hplus (digits_append_ne hdigits hne (by decide) _)
    case h_3 =>
      rw [readUpTo_digits hdigits hne (Nat.le_of_eq hlength) hrest, hvalue, Option.map_some,
        Int.natAbs_of_nonneg hsign]
  · rw [hwritten, List.cons_append, trimStart_cons (by decide)]
    show (readUpTo _ _).map _ = _
    rw [hall, Option.map_some]
    congr 2
    omega
  · rw [hwritten, List.cons_append, trimStart_cons (by decide)]
    show (readUpTo _ _).map _ = _
    rw [hall, Option.map_some]
    congr 2
    omega

/-! ## The fraction of a second -/

/-- A fraction of up to nine digits is read back in nanoseconds. -/
theorem readFraction_paddedDigits {width n : Nat} (hpos : 0 < width) (hwidth : width ≤ 9)
    (hn : n < Nat.pow 10 width) {rest : List Char} (hrest : EndsDigits rest) :
    readFraction (paddedDigits width n ++ rest) = .ok (n * Nat.pow 10 (9 - width), rest) := by
  have hdigits : ∀ c ∈ paddedDigits width n, c.isDigit = true := Text.isDigit_of_mem_paddedDigits
  have hlength : (paddedDigits width n).length = width := length_paddedDigits width n
  have hvalue : fractionValue ((paddedDigits width n).filterMap digit?) =
      n * Nat.pow 10 (9 - width) := by
    have hkept : ((paddedDigits width n).filterMap digit?).length = width := by
      rw [length_filterMap_digits hdigits, hlength]
    have htake : ((paddedDigits width n).filterMap digit?).take 9 =
        (paddedDigits width n).filterMap digit? := List.take_of_length_le (by omega)
    unfold fractionValue
    dsimp only
    rw [htake, hkept, foldl_digits hdigits,
      Text.ofDigitChars_paddedDigits, Nat.mod_eq_of_lt hn]
  have htaken := takeWhile_digits hdigits hrest
  have hleft := dropWhile_digits hdigits hrest
  cases hwritten : paddedDigits width n with
  | nil =>
    rw [hwritten] at hlength
    rw [← hlength] at hpos
    exact absurd hpos (Nat.lt_irrefl 0)
  | cons c digits =>
    rw [hwritten] at htaken hleft hvalue
    unfold readFraction
    dsimp only [List.cons_append] at htaken hleft ⊢
    rw [if_pos (hdigits c (hwritten ▸ List.mem_cons_self)), htaken, hleft, hvalue]

/-- A fraction is read behind its point. -/
theorem readOptionalFraction_point {width m n : Nat} (hpos : 0 < width) (hwidth : width ≤ 9)
    (hm : m < Nat.pow 10 width) (hn : m * Nat.pow 10 (9 - width) = n) {rest : List Char}
    (hrest : EndsDigits rest) :
    readOptionalFraction ('.' :: paddedDigits width m ++ rest) = .ok (n, rest) := by
  rw [List.cons_append]
  show readFraction (paddedDigits width m ++ rest) = _
  rw [readFraction_paddedDigits hpos hwidth hm hrest, hn]

/-- **The fraction of a second is read back**, whether it took three, six or nine digits or none. -/
theorem readOptionalFraction_writeFraction {n : Nat} (hn : n < 1000000000) {rest : List Char}
    (hrest : EndsDigits rest) (hpoint : rest.head? ≠ some '.') :
    readOptionalFraction (writeFraction n ++ rest) = .ok (n, rest) := by
  unfold writeFraction
  split_ifs with hzero hmillis hmicros
  · rw [List.nil_append, hzero]
    unfold readOptionalFraction
    split
    case h_1 => exact absurd rfl hpoint
    case h_2 => rfl
  · exact readOptionalFraction_point (by decide) (by decide)
      (show n / 1000000 < 1000 by omega) (show n / 1000000 * 1000000 = n by omega) hrest
  · exact readOptionalFraction_point (by decide) (by decide)
      (show n / 1000 < 1000000 by omega) (show n / 1000 * 1000 = n by omega) hrest
  · exact readOptionalFraction_point (by decide) (by decide) hn (Nat.mul_one n) hrest

/-! ## The instant -/

/-- A fraction of a second is added to the time of day without it. -/
theorem timeOfDay?_fraction (hour minute second nanosecond : Nat) :
    timeOfDay? hour minute second nanosecond =
      (timeOfDay? hour minute second 0).map fun r => (r.1, r.2 + nanosecond) := by
  unfold timeOfDay?
  split_ifs with hrange hleap
  · rw [Option.map_some, Nat.zero_add, Nat.add_comm nanosecond]
  · rw [Option.map_some, Nat.zero_add]
  · rfl

/-- The time of day is put together again from hours, minutes and the second shown, which is 60 in a
leap second. -/
theorem timeOfDay?_exact (t : Instant) :
    timeOfDay? (t.second / 3600) (t.second / 60 % 60) (shownSecond t) (t.nanosecond % 1000000000) =
      some (t.second, t.nanosecond) := by
  rw [timeOfDay?_fraction, timeOfDay?_shown, Option.map_some]
  congr 2
  show t.nanosecond / 1000000000 * 1000000000 + t.nanosecond % 1000000000 = t.nanosecond
  omega

/-- **Exact timestamps read back**: the lenient reader is strict enough to tell them apart. -/
theorem readLenientChars_writeChars {t : Instant} (ht : t.inCalendar = true) :
    readLenientChars (writeChars t .exact) = some t := by
  have hvalid : t.date.isValid = true := Date.isValid_ofDayNumber t.day
  obtain ⟨hmonth, hday⟩ := Date.fields_lt hvalid
  have hsecond := t.second_lt
  have hnano := t.nanosecond_lt
  have hhours : t.second / 3600 < Nat.pow 10 2 := show _ < 100 by omega
  have hminutes : t.second / 60 % 60 < Nat.pow 10 2 := show _ < 100 by omega
  have hseconds : shownSecond t < Nat.pow 10 2 := by
    show t.second % 60 + t.nanosecond / 1000000000 < 100
    omega
  have hyears : Instant.firstYear ≤ t.date.year ∧ t.date.year ≤ Instant.lastYear := by
    unfold Instant.inCalendar at ht
    simpa using ht
  have hmoment : Instant.ofParts? t.date.dayNumber t.second t.nanosecond = some t := by
    rw [show t.date.dayNumber = t.day from Date.dayNumber_ofDayNumber t.day]
    exact ofParts?_self t
  have hfraction : EndsDigits (writeFraction (t.nanosecond % 1000000000) ++ ['Z']) := by
    unfold writeFraction
    split_ifs
    all_goals exact endsDigits_cons (by decide) _
  have hread := readOptionalFraction_writeFraction (n := t.nanosecond % 1000000000)
    (Nat.mod_lt _ (by decide)) (endsDigits_cons (c := 'Z') (by decide) []) (by decide)
  have hends : ∀ {c : Char}, c.isDigit = false → ∀ cs, EndsDigits (c :: cs) := endsDigits_cons
  have hoffset : readLooseOffset ['Z'] = some (0, []) := by decide +kernel
  have hblank : isBlank '-' = false ∧ isBlank ':' = false := by decide +kernel
  unfold writeChars
  simp only [List.append_assoc, List.cons_append]
  unfold readLenientChars
  -- the parts of the text, one reader after the other
  refine Option.bind_eq_some_iff.2 ⟨_, readYear_writeYear _ (hends (by decide) _), ?_⟩
  refine Option.bind_eq_some_iff.2 ⟨_, readSeparator_cons hblank.1 _, ?_⟩
  refine Option.bind_eq_some_iff.2 ⟨_, readField_paddedDigits hmonth (hends (by decide) _), ?_⟩
  refine Option.bind_eq_some_iff.2 ⟨_, readSeparator_cons hblank.1 _, ?_⟩
  refine Option.bind_eq_some_iff.2 ⟨_, readField_paddedDigits hday (hends (by decide) _), ?_⟩
  refine Option.bind_eq_some_iff.2 ⟨_, rfl, ?_⟩
  refine Option.bind_eq_some_iff.2 ⟨_, readField_paddedDigits hhours (hends (by decide) _), ?_⟩
  refine Option.bind_eq_some_iff.2 ⟨_, readSeparator_cons hblank.2 _, ?_⟩
  refine Option.bind_eq_some_iff.2 ⟨_, readField_paddedDigits hminutes (hends (by decide) _), ?_⟩
  refine Option.bind_eq_some_iff.2 ⟨_, readSeparator_cons hblank.2 _, ?_⟩
  refine Option.bind_eq_some_iff.2 ⟨_, readField_paddedDigits hseconds hfraction, ?_⟩
  refine Option.bind_eq_some_iff.2 ⟨_, congrArg Except.toOption hread, ?_⟩
  refine Option.bind_eq_some_iff.2 ⟨_, hoffset, ?_⟩
  -- what they make up
  refine Option.bind_eq_some_iff.2 ⟨(), rfl, ?_⟩
  refine Option.bind_eq_some_iff.2 ⟨(), if_pos hvalid, ?_⟩
  refine Option.bind_eq_some_iff.2 ⟨(), if_pos hyears, ?_⟩
  refine Option.bind_eq_some_iff.2 ⟨_, timeOfDay?_exact t, ?_⟩
  refine Option.bind_eq_some_iff.2 ⟨(), rfl, ?_⟩
  refine Option.bind_eq_some_iff.2 ⟨t, hmoment, ?_⟩
  rw [ofLocal_zero]
  exact Option.bind_eq_some_iff.2 ⟨(), if_pos ht, rfl⟩

/-- **The exact text of an instant reads as the instant.** -/
theorem readLenient_write {t : Instant} (ht : t.inCalendar = true) :
    readLenient (write t .exact) = some t := by
  unfold readLenient write
  rw [String.toList_ofList, readLenientChars_writeChars ht]

end Quiesce.Timestamp
