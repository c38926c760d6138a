/-!
# Civil dates

Days of the proleptic Gregorian calendar, numbered from 1970-01-01, and their year, month and day.

* `Date.dayNumber` numbers the days of the calendar.
* `Date.ofDayNumber` finds the date of a day: the year first, from the mean length of a year, then
  the month by walking through the months of that year.
* `dayNumber_ofDayNumber`: the date found for a day has the number of that day.
* `isValid_ofDayNumber`: the date found for a day exists.
-/

namespace Quiesce

/-- A day as year, month (from 1) and day of the month (from 1). -/
structure Date where
  year : Int
  month : Nat
  day : Nat
deriving DecidableEq, Repr

namespace Date

/-- Whether the year has a 29th of February. -/
def isLeapYear (y : Int) : Bool :=
  y % 4 = 0 && (y % 100 ≠ 0 || y % 400 = 0)

/-- The lengths of the twelve months of a year. -/
def monthLengths (y : Int) : List Nat :=
  [31, if isLeapYear y then 29 else 28, 31, 30, 31, 30, 31, 31, 30, 31, 30, 31]

/-- The number of days that months of these lengths have together. -/
def daysIn (lengths : List Nat) : Nat :=
  lengths.foldr (· + ·) 0

/-- The number of days from 0001-01-01 to the first day of the year. -/
def daysBeforeYear (y : Int) : Int :=
  365 * (y - 1) + (y - 1) / 4 - (y - 1) / 100 + (y - 1) / 400

/-- The number of days from 0001-01-01 to 1970-01-01. -/
def epochDay : Int := 719162

/-- The number of the day, 1970-01-01 being day 0. -/
def dayNumber (d : Date) : Int :=
  daysBeforeYear d.year + daysIn ((monthLengths d.year).take (d.month - 1)) + (d.day - 1) - epochDay

/-- The year that holds the day with `n` days between it and 0001-01-01. The mean length of a year
gives a guess that is at most one year off. -/
def yearOf (n : Int) : Int :=
  let guess := 400 * n / 146097 + 1
  if n < daysBeforeYear guess then guess - 1
  else if daysBeforeYear (guess + 1) ≤ n then guess + 1
  else guess

/-- The month and the day of the month of the day with number `k` in a year, the first being 0:
walks through the lengths of the months that are left, `month` being the first of them. -/
def monthAndDay : (lengths : List Nat) → (month k : Nat) → Nat × Nat
  | [], month, k => (month, k + 1)
  | length :: rest, month, k =>
    if k < length then (month, k + 1) else monthAndDay rest (month + 1) (k - length)

def ofDayNumber (n : Int) : Date :=
  let year := yearOf (n + epochDay)
  let monthDay := monthAndDay (monthLengths year) 1 (n + epochDay - daysBeforeYear year).toNat
  ⟨year, monthDay.1, monthDay.2⟩

def isValid (d : Date) : Bool :=
  1 ≤ d.month && d.month ≤ 12 && 1 ≤ d.day && d.day ≤ (monthLengths d.year).getD (d.month - 1) 0

/-! ### The date of a day -/

/-- The months of a year have together the days between its first day and that of the next. -/
theorem daysIn_monthLengths (y : Int) :
    (daysIn (monthLengths y) : Int) = daysBeforeYear (y + 1) - daysBeforeYear y := by
  have h : isLeapYear y = true ↔ (y % 4 = 0 ∧ (y % 100 ≠ 0 ∨ y % 400 = 0)) := by
    simp [isLeapYear]
  simp only [daysBeforeYear, monthLengths]
  by_cases hl : isLeapYear y = true
  · have := h.1 hl
    simp only [hl, if_true, daysIn, List.foldr]
    omega
  · have hc : ¬(y % 4 = 0 ∧ (y % 100 ≠ 0 ∨ y % 400 = 0)) := fun hc => hl (h.2 hc)
    rw [Bool.not_eq_true] at hl
    simp only [hl, daysIn, List.foldr, Bool.false_eq_true, if_false]
    omega

/-- The year found is the one between whose first day and that of the next the day lies: the guess
is at most one year off on either side. -/
theorem daysBeforeYear_yearOf (n : Int) :
    daysBeforeYear (yearOf n) ≤ n ∧ n < daysBeforeYear (yearOf n + 1) := by
  -- The guess is right up to one year on either side.
  have hguess : daysBeforeYear (400 * n / 146097 + 1 - 1) ≤ n ∧
      n < daysBeforeYear (400 * n / 146097 + 1 + 1 + 1) := by
    simp only [daysBeforeYear]
    omega
  simp only [yearOf]
  by_cases hearlier : n < daysBeforeYear (400 * n / 146097 + 1)
  · rw [if_pos hearlier]
    refine ⟨hguess.1, ?_⟩
    rwa [show 400 * n / 146097 + 1 - 1 + 1 = 400 * n / 146097 + 1 by omega]
  rw [if_neg hearlier]
  by_cases hlater : daysBeforeYear (400 * n / 146097 + 1 + 1) ≤ n
  · rw [if_pos hlater]
    exact ⟨hlater, hguess.2⟩
  · rw [if_neg hlater]
    exact ⟨Int.not_lt.1 hearlier, Int.not_le.1 hlater⟩

/-- A day within the months left falls into one of them, on a day that this month has, and the days
before that month and the day of the month add up to the number given. -/
theorem monthAndDay_bounds {lengths : List Nat} (month : Nat) {k : Nat}
    (h : k < daysIn lengths) :
    month ≤ (monthAndDay lengths month k).1 ∧
      (monthAndDay lengths month k).1 < month + lengths.length ∧
      1 ≤ (monthAndDay lengths month k).2 ∧
      (monthAndDay lengths month k).2 ≤
        lengths.getD ((monthAndDay lengths month k).1 - month) 0 ∧
      daysIn (lengths.take ((monthAndDay lengths month k).1 - month))
        + (monthAndDay lengths month k).2 = k + 1 := by
  induction lengths generalizing month k with
  | nil => simp [daysIn] at h
  | cons length rest ih =>
    rw [monthAndDay]
    by_cases hk : k < length
    · rw [if_pos hk]
      simp only [Nat.sub_self, List.getD_cons_zero, List.length_cons, List.take_zero, daysIn,
        List.foldr_nil]
      omega
    · -- The day falls into a later month: count from the end of this one.
      rw [if_neg hk]
      have hrest : k - length < daysIn rest := by
        simp only [daysIn, List.foldr_cons] at h ⊢
        omega
      obtain ⟨h1, h2, h3, h4, h5⟩ := ih (month + 1) hrest
      generalize monthAndDay rest (month + 1) (k - length) = r at *
      have hr : r.1 - month = r.1 - (month + 1) + 1 := by omega
      rw [hr, List.getD_cons_succ, List.take_succ_cons]
      simp only [daysIn, List.foldr_cons, List.length_cons] at h5 ⊢
      omega

/-- The date of a day is the date of that day only. -/
theorem dayNumber_ofDayNumber (n : Int) : (ofDayNumber n).dayNumber = n := by
  have hy := daysBeforeYear_yearOf (n + epochDay)
  have hlen := daysIn_monthLengths (yearOf (n + epochDay))
  have hk : (n + epochDay - daysBeforeYear (yearOf (n + epochDay))).toNat <
      daysIn (monthLengths (yearOf (n + epochDay))) := by omega
  obtain ⟨_, _, h3, _, h5⟩ := monthAndDay_bounds 1 hk
  simp only [dayNumber, ofDayNumber]
  omega

/-- Every day has a date that the calendar knows. -/
theorem isValid_ofDayNumber (n : Int) : (ofDayNumber n).isValid = true := by
  have hy := daysBeforeYear_yearOf (n + epochDay)
  have hlen := daysIn_monthLengths (yearOf (n + epochDay))
  have hk : (n + epochDay - daysBeforeYear (yearOf (n + epochDay))).toNat <
      daysIn (monthLengths (yearOf (n + epochDay))) := by omega
  obtain ⟨h1, h2, h3, h4, _⟩ := monthAndDay_bounds 1 hk
  have htwelve : (monthLengths (yearOf (n + epochDay))).length = 12 := rfl
  rw [htwelve] at h2
  simp only [isValid, Bool.and_eq_true, decide_eq_true_eq]
  simp only [ofDayNumber]
  exact ⟨⟨⟨h1, by omega⟩, h3⟩, h4⟩

example : ofDayNumber 0 = ⟨1970, 1, 1⟩ := by decide
example : ofDayNumber (-719528) = ⟨0, 1, 1⟩ := by decide
example : (⟨2000, 2, 29⟩ : Date).dayNumber = 11016 := by decide

end Date

end Quiesce
