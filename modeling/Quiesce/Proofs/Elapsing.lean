import Quiesce.Proofs.MarkText

/-!
# The passing of time

Outside leap seconds an instant is a number of nanoseconds, and to wait is to add to it.

* `Instant.since_eq` is the time between any two instants, `Instant.since_regular` that between two
  outside leap seconds, and `Instant.nanoseconds_after` the instant after a wait.
-/

namespace Quiesce.Instant

/-- Nanoseconds since the beginning of 1970, leap seconds not counted. -/
def nanoseconds (t : Instant) : Int :=
  t.unixSeconds * 1000000000 + t.nanosecond

/-- Instants are compared by day, second and nanosecond, in this order. -/
theorem not_lt_iff {later earlier : Instant} :
    ¬later < earlier ↔ earlier.day < later.day ∨ earlier.day = later.day ∧
      (earlier.second < later.second ∨
        earlier.second = later.second ∧ earlier.nanosecond ≤ later.nanosecond) := by
  show ¬(later.day < earlier.day ∨ later.day = earlier.day ∧
    (later.second < earlier.second ∨
      later.second = earlier.second ∧ later.nanosecond < earlier.nanosecond)) ↔ _
  omega

/-- The time between two instants is the difference of their nanoseconds, but for a leap second
between them. -/
theorem since_eq (later earlier : Instant) :
    since later earlier =
      later.nanoseconds - earlier.nanoseconds + leapBetween later earlier * 1000000000 := by
  unfold since nanoseconds unixSeconds
  omega

/-- Outside of leap seconds the time between two instants is the difference of their nanoseconds. -/
theorem since_regular {later earlier : Instant} (hlater : later.inLeapSecond = false)
    (hearlier : earlier.inLeapSecond = false) :
    since later earlier = later.nanoseconds - earlier.nanoseconds := by
  have hleap : leapBetween later earlier = 0 := by
    unfold leapBetween
    rw [hlater, hearlier, if_neg (by simp), if_neg (by simp)]
  rw [since_eq, hleap]
  omega

/-- Outside of leap seconds the time that has elapsed is that difference, or nothing if it is
negative. -/
theorem elapsed_regular {later earlier : Instant} (hlater : later.inLeapSecond = false)
    (hearlier : earlier.inLeapSecond = false) :
    (elapsed later earlier).nanoseconds = (later.nanoseconds - earlier.nanoseconds).toNat := by
  show (since later earlier).toNat = _
  rw [since_regular hlater hearlier]

/-- An instant that is yet to come has not been passed by any time, which is still short of one that
is not zero. -/
theorem elapsed_lt_iff {later earlier : Instant} {d : Duration}
    (h : 0 < d.nanoseconds ∨ 0 ≤ since later earlier) :
    elapsed later earlier < d ↔ since later earlier < d.nanoseconds := by
  show (since later earlier).toNat < d.nanoseconds ↔ _
  omega

/-- A wait that begins outside a leap second adds up like any numbers. -/
theorem after_parts {t : Instant} (ht : t.inLeapSecond = false) (d : Duration) :
    (t.after d).nanosecond = (t.nanosecond + d.subsecond) % 1000000000 ∧
      (t.after d).unixSeconds =
        t.unixSeconds + d.seconds + ((t.nanosecond + d.subsecond) / 1000000000 : Nat) := by
  have hnot : ¬(t.inLeapSecond = true ∧ d.seconds = 0 ∧
      t.nanosecond + d.subsecond < 2000000000) := by
    rw [ht]
    simp
  unfold after unixSeconds
  dsimp only
  rw [dif_neg hnot]
  dsimp only
  rw [ht, if_neg (by decide)]
  refine ⟨rfl, ?_⟩
  omega

/-- Adding a duration leads into no leap second from outside. -/
theorem after_regular {t : Instant} (ht : t.inLeapSecond = false) (d : Duration) :
    (t.after d).inLeapSecond = false := by
  refine decide_eq_false ?_
  rw [(after_parts ht d).1]
  omega

/-- Outside of leap seconds a duration is added nanosecond by nanosecond. -/
theorem nanoseconds_after {t : Instant} (ht : t.inLeapSecond = false) (d : Duration) :
    (t.after d).nanoseconds = t.nanoseconds + d.nanoseconds := by
  obtain ⟨hnano, hseconds⟩ := after_parts ht d
  have hparts : d.nanoseconds = d.seconds * 1000000000 + d.subsecond := by
    unfold Duration.seconds Duration.subsecond
    omega
  unfold nanoseconds
  rw [hnano, hseconds, hparts]
  omega

theorem wholeSecond_regular {t : Instant} (ht : t.inLeapSecond = false) :
    t.wholeSecond.inLeapSecond = false := by
  have hnano := of_decide_eq_false ht
  refine decide_eq_false ?_
  show ¬1000000000 ≤ t.nanosecond / 1000000000 * 1000000000
  omega

/-- The second of an instant begins no later than the instant. -/
theorem nanoseconds_wholeSecond_le (t : Instant) : t.wholeSecond.nanoseconds ≤ t.nanoseconds := by
  show t.unixSeconds * 1000000000 + ((t.nanosecond / 1000000000 * 1000000000 : Nat) : Int) ≤
    t.unixSeconds * 1000000000 + t.nanosecond
  omega

end Quiesce.Instant
