import Quiesce.Time.Date
import Quiesce.Time.Duration

/-!
# Instants

A moment of universal time: a day, a second of that day, and the nanoseconds that have passed since
that second began. A leap second prolongs the last second of a minute, so that it may be nearly two
seconds long.

* `Instant.since` is the time between two instants.
* `Instant.after` moves an instant by a duration.
-/

namespace Quiesce

/-- A moment of universal time. -/
structure Instant where
  /-- Days since 1970-01-01. -/
  day : Int
  /-- Seconds since midnight. -/
  second : Nat
  /-- Nanoseconds since the second began; from a thousand million on, the leap second after it. -/
  nanosecond : Nat
  second_lt : second < 86400
  nanosecond_lt : nanosecond < 2000000000
  minute_end_of_leap : 1000000000 ≤ nanosecond → second % 60 = 59
deriving DecidableEq, Repr

namespace Instant

def epoch : Instant := ⟨0, 0, 0, by decide, by decide, by decide⟩

instance : Inhabited Instant := ⟨epoch⟩

/-- The instant of the given day, second and nanosecond, if they name one. -/
def ofParts? (day : Int) (second nanosecond : Nat) : Option Instant :=
  if h : second < 86400 ∧ nanosecond < 2000000000 ∧
      (1000000000 ≤ nanosecond → second % 60 = 59) then
    some ⟨day, second, nanosecond, h.1, h.2.1, h.2.2⟩
  else none

/-- The instant a number of seconds after the beginning of 1970, and nanoseconds past it. -/
def ofUnix? (seconds : Int) (nanosecond : Nat) : Option Instant :=
  ofParts? (seconds / 86400) (seconds % 86400).toNat nanosecond

/-- Seconds since the beginning of 1970, leap seconds not counted. -/
def unixSeconds (t : Instant) : Int :=
  t.day * 86400 + t.second

def date (t : Instant) : Date :=
  Date.ofDayNumber t.day

/-- Whether the instant lies within a leap second. -/
def inLeapSecond (t : Instant) : Bool :=
  1000000000 ≤ t.nanosecond

/-- One instant is before another: by day, then by second, then by nanosecond. -/
instance : LT Instant :=
  ⟨fun a b => a.day < b.day ∨ a.day = b.day ∧
    (a.second < b.second ∨ a.second = b.second ∧ a.nanosecond < b.nanosecond)⟩

instance (a b : Instant) : Decidable (a < b) :=
  inferInstanceAs (Decidable (_ ∨ _))

/-- The leap second, if any, that is counted between two times of day: that of the earlier one when
the later one is past it, and none otherwise. -/
def leapBetween (later earlier : Instant) : Int :=
  if later.second > earlier.second ∧ earlier.inLeapSecond then 1
  else if later.second < earlier.second ∧ later.inLeapSecond then -1
  else 0

/-- The nanoseconds from `earlier` to `later`, negative if they stand the other way round. Days
count as 86400 seconds; a leap second counts as far as the two times of day show it. -/
def since (later earlier : Instant) : Int :=
  ((later.day - earlier.day) * 86400 + ((later.second : Int) - earlier.second)
      + leapBetween later earlier) * 1000000000
    + ((later.nanosecond : Int) - earlier.nanosecond)

/-- The time that has passed from `earlier` to `later`, none if `earlier` is yet to come. -/
def elapsed (later earlier : Instant) : Duration :=
  ⟨(since later earlier).toNat⟩

/-- The instant a duration later. A leap second is left once the time that it has left has passed;
a move by whole seconds out of a leap second counts from the second that it prolongs. -/
def after (t : Instant) (d : Duration) : Instant :=
  let seconds := d.seconds
  let nanoseconds := d.subsecond
  -- The move stays within the leap second.
  if h : t.inLeapSecond ∧ seconds = 0 ∧ t.nanosecond + nanoseconds < 2000000000 then
    { t with
      nanosecond := t.nanosecond + nanoseconds
      nanosecond_lt := h.2.2
      minute_end_of_leap := fun _ => t.minute_end_of_leap (by
        have := h.1; simpa [inLeapSecond] using this) }
  else
    let within := (if t.inLeapSecond then t.nanosecond - 1000000000 else t.nanosecond) + nanoseconds
    let total := t.second + seconds + within / 1000000000
    { day := t.day + (total / 86400 : Nat)
      second := total % 86400
      nanosecond := within % 1000000000
      second_lt := Nat.mod_lt _ (by decide)
      nanosecond_lt := Nat.lt_trans (Nat.mod_lt _ (by decide)) (by decide)
      minute_end_of_leap := fun h => absurd (Nat.mod_lt within (by decide)) (Nat.not_lt.mpr h) }

/-- The same moment read in local time `offset` minutes ahead of universal time, as universal time.
Whole minutes leave the end of a minute where it is, so a leap second stays one. -/
def ofLocal (t : Instant) (offset : Int) : Instant :=
  let total : Int := t.second - offset * 60
  { day := t.day + total / 86400
    second := (total % 86400).toNat
    nanosecond := t.nanosecond
    second_lt := by omega
    nanosecond_lt := t.nanosecond_lt
    minute_end_of_leap := fun h => by
      have := t.minute_end_of_leap h
      omega }

/-- The first year of the calendar that instants are read in. -/
def firstYear : Int := -262143

/-- The last year of the calendar that instants are read in. -/
def lastYear : Int := 262142

/-- Whether the instant lies within the years of the calendar. -/
def inCalendar (t : Instant) : Bool :=
  firstYear ≤ t.date.year && t.date.year ≤ lastYear

end Instant

end Quiesce
