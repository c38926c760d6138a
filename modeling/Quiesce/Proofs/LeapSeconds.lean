import Quiesce.Proofs.Elapsing
import Quiesce.Proofs.TickCases
import Quiesce.Proofs.WorldSteps

/-!
# Leap seconds and the passing of time

A pod whose runner is not found may be deleted once the time since its start mark is up, and one
would think that it may then be deleted ever after. The time between two instants is taken by their
dates and their times of day, though, and a leap second is counted as far as the times of day show
it: that of the start mark only until midnight. Around a leap second more time can have passed at an
earlier reading of the clock than at a later one, and a pod that could be deleted has to wait again.

* `SetBack` are the ways in which less time has passed at a later reading, and `setBack_of_since`
  says that there are no others and that all is made good within a second.
* `Unknown` says that a decision does not find the runner and what it reads from the clock.
* `deletable_stays` is the main statement, and `deletable_again_pending` is a pod that has to wait
  again after midnight.
-/

namespace Quiesce

namespace Instant

variable {start earlier later : Instant}

/-- The ways in which less time can have passed at a later reading of the clock than at an earlier
one. -/
inductive SetBack (start earlier later : Instant) : Prop
  | leaving (h : earlier.inLeapSecond = true)
  | entering (h : later.inLeapSecond = true) (before : later.second < start.second)
  | midnight (h : start.inLeapSecond = true) (counted : start.second < earlier.second)
      (uncounted : later.second < start.second) (day : earlier.day < later.day)

/-- The leap second of the earlier instant is counted once the time of day is past it, that of the
later one is taken back before it, and no other is counted. -/
theorem leapBetween_cases (later earlier : Instant) :
    leapBetween later earlier = 1 ∧ earlier.second < later.second ∧
        earlier.inLeapSecond = true ∨
      leapBetween later earlier = -1 ∧ later.second < earlier.second ∧
        later.inLeapSecond = true ∨
      leapBetween later earlier = 0 ∧
        ¬(earlier.second < later.second ∧ earlier.inLeapSecond = true) := by
  unfold leapBetween
  by_cases hgained : earlier.second < later.second ∧ earlier.inLeapSecond = true
  · rw [if_pos hgained]
    exact Or.inl ⟨rfl, hgained⟩
  rw [if_neg hgained]
  by_cases hlost : later.second < earlier.second ∧ later.inLeapSecond = true
  · rw [if_pos hlost]
    exact Or.inr (Or.inl ⟨rfl, hlost⟩)
  · rw [if_neg hlost]
    exact Or.inr (Or.inr ⟨rfl, hgained⟩)

theorem second_of_inLeapSecond {t : Instant} (h : t.inLeapSecond = true) : t.second % 60 = 59 :=
  t.minute_end_of_leap (of_decide_eq_true h)

/-- Outside leap seconds the order of two readings is that of their numbers. -/
theorem nanoseconds_le_of_regular (hle : ¬later < earlier) (h : earlier.inLeapSecond = false) :
    earlier.nanoseconds ≤ later.nanoseconds := by
  have horder := not_lt_iff.1 hle
  have hnano := of_decide_eq_false h
  have hsecond := earlier.second_lt
  unfold nanoseconds unixSeconds
  omega

/-- At an earlier time of day the second reading is made on another day, which is still young if
little time lies between them. -/
theorem midnight_between (hle : ¬later < earlier) (hback : later.second < earlier.second)
    (hsoon : later.nanoseconds < earlier.nanoseconds + 2000000000) :
    earlier.day < later.day ∧ later.second < 59 := by
  have horder := not_lt_iff.1 hle
  have hsecond := earlier.second_lt
  have hnano := earlier.nanosecond_lt
  unfold nanoseconds unixSeconds at hsoon
  omega

/-- **Time is only set back around a leap second**, and by less than a second, leap seconds not
counted. The cases are those of what is counted at the later reading. -/
theorem setBack_of_since (hle : ¬later < earlier)
    (hless : since later start < since earlier start) :
    SetBack start earlier later ∧ later.nanoseconds < earlier.nanoseconds + 1000000000 := by
  rw [since_eq, since_eq] at hless
  have hregular : earlier.inLeapSecond = false → earlier.nanoseconds ≤ later.nanoseconds :=
    nanoseconds_le_of_regular hle
  have hcases := leapBetween_cases earlier start
  rcases leapBetween_cases later start with
    ⟨hl, -⟩ | ⟨hl, hbefore, hlater⟩ | ⟨hl, huncounted⟩
  · cases hleap : earlier.inLeapSecond with
    | true => exact ⟨.leaving hleap, by omega⟩
    | false =>
      -- no more can be counted at the earlier reading
      have horder := hregular hleap
      omega
  · refine ⟨.entering hlater hbefore, ?_⟩
    have hminute := second_of_inLeapSecond hlater
    rcases hcases with ⟨he, hcounted, -⟩ | ⟨he, -⟩ | ⟨he, -⟩
    · -- a young day has no leap second yet
      have hyoung := (midnight_between hle (by omega) (by omega)).2
      omega
    · omega
    · omega
  · cases hleap : earlier.inLeapSecond with
    | true => exact ⟨.leaving hleap, by omega⟩
    | false =>
      have horder := hregular hleap
      rcases hcases with ⟨he, hcounted, hstart⟩ | ⟨he, -⟩ | ⟨he, -⟩
      · have hnot : ¬start.second < later.second := fun h => huncounted ⟨h, hstart⟩
        obtain ⟨hday, hyoung⟩ := midnight_between hle (by omega) (by omega)
        have hminute := second_of_inLeapSecond hstart
        exact ⟨.midnight hstart hcounted (by omega) hday, by omega⟩
      · omega
      · omega

/-- The same for the time that has passed, which is never less than none. -/
theorem setBack_of_elapsed {timeout : Duration} (hle : ¬later < earlier)
    (hover : ¬earlier.elapsed start < timeout) (hwithin : later.elapsed start < timeout) :
    SetBack start earlier later ∧ later.nanoseconds < earlier.nanoseconds + 1000000000 := by
  refine setBack_of_since hle ?_
  have hover' : timeout.nanoseconds ≤ (since earlier start).toNat := Nat.not_lt.1 hover
  have hwithin' : (since later start).toNat < timeout.nanoseconds := hwithin
  omega

end Instant

/-! ## Decisions at two readings -/

/-- The runner of a pod is not found, by its number or by its name, and the clock is then read as
`now`. -/
structure Unknown {σ : Type} (handler : Handler σ) (s : σ) (target : Target) (pod : Option Pod)
    (now : Instant) : Prop where
  notFound : ∀ id, recordedId pod = .ok id →
    ((unregister target id).run handler s).value = .notFound
  reading : ∀ id, recordedId pod = .ok id →
    (handler .now ((unregister target id).run handler s).state).1 = now

/-- **Either the time makes no difference, or it is compared with a start mark.** -/
theorem unknown_decided (target : Target) (timeout retryDelay : Duration) (pod : Option Pod) :
    (∃ d, ∀ {σ : Type} {handler : Handler σ} {s : σ} {now : Instant},
      Unknown handler s target pod now →
        ((ensureUnregistered target timeout retryDelay pod).run handler s).value = d) ∨
    ∃ p text start, pod = some p ∧ p.mark? Pod.startKey = some text ∧
      Timestamp.read text = .ok start ∧
      ∀ {σ : Type} {handler : Handler σ} {s : σ} {now : Instant}, Unknown handler s target pod now →
        ((ensureUnregistered target timeout retryDelay pod).run handler s).value =
          if now.elapsed start < timeout then .requeue retryDelay none else .deletable := by
  by_cases hconfirmed : pod.any (·.isMarked Pod.completeKey) = true
  · refine Or.inl ⟨.deletable, fun _ => ?_⟩
    rw [ensureUnregistered_of_confirmed target timeout retryDelay hconfirmed]
    rfl
  have hopen := Bool.eq_false_iff.2 hconfirmed
  cases hid : recordedId pod with
  | error e =>
    refine Or.inl ⟨.failed e, fun _ => ?_⟩
    rw [ensureUnregistered_of_malformed target timeout retryDelay hopen hid]
    rfl
  | ok id =>
    have hprogram := ensureUnregistered_unconfirmed target timeout retryDelay hopen hid
    rcases decideNotFound_cases timeout retryDelay pod with
      ⟨d, hnot, -⟩ | ⟨p, text, start, hpod, htext, hread, hnot⟩
    · refine Or.inl ⟨d, fun h => ?_⟩
      rw [hprogram, Program.value_bind, h.notFound id hid, decideRemoval, hnot]
      rfl
    · refine Or.inr ⟨p, text, start, hpod, htext, hread, fun h => ?_⟩
      rw [hprogram, Program.value_bind, h.notFound id hid, decideRemoval, hnot,
        decideByStart_eq timeout retryDelay hread, Program.run_call, h.reading id hid]
      rfl

/-- **A pod that may be deleted may be deleted ever after, but for a second around a leap second.**
Take any pod, and two readings of the clock at which its runner is not found, the second one not
before the first one, in whatever states of the outside world. If the pod may be deleted at the
first reading, it may be deleted at the second one as well; or else it has a start mark that can be
read, a leap second sets the time since then back, and the second reading is less than a second
after the first one, leap seconds not counted. The pod then has to wait, without a cause. -/
theorem deletable_stays {σ σ' : Type} {handler : Handler σ} {handler' : Handler σ'} {s : σ}
    {s' : σ'} {target : Target} {timeout retryDelay : Duration} {pod : Option Pod}
    {earlier later : Instant} (hearlier : Unknown handler s target pod earlier)
    (hlater : Unknown handler' s' target pod later) (hle : ¬later < earlier)
    (hdeletable :
      ((ensureUnregistered target timeout retryDelay pod).run handler s).value = .deletable) :
    let decision := ((ensureUnregistered target timeout retryDelay pod).run handler' s').value
    decision = .deletable ∨ decision = .requeue retryDelay none ∧
      ∃ p text start, pod = some p ∧ p.mark? Pod.startKey = some text ∧
        Timestamp.read text = .ok start ∧ Instant.SetBack start earlier later ∧
        later.nanoseconds < earlier.nanoseconds + 1000000000 := by
  intro decision
  rcases unknown_decided target timeout retryDelay pod with
    ⟨d, hd⟩ | ⟨p, text, start, hpod, htext, hread, hclock⟩
  · rw [hd hearlier] at hdeletable
    exact Or.inl ((hd hlater).trans hdeletable)
  · have hover : ¬earlier.elapsed start < timeout := by
      intro hwithin
      rw [hclock hearlier, if_pos hwithin] at hdeletable
      cases hdeletable
    have hdecision : decision = _ := hclock hlater
    by_cases hwithin : later.elapsed start < timeout
    · rw [if_pos hwithin] at hdecision
      exact Or.inr ⟨hdecision, p, text, start, hpod, htext, hread,
        Instant.setBack_of_elapsed hle hover hwithin⟩
    · rw [if_neg hwithin] at hdecision
      exact Or.inl hdecision

/-! ### A start mark in a leap second -/

/-- A pod whose start mark is half a second into the leap second at the end of the first minute past
noon. -/
def leapPod : Pod where
  namespaceName := "default"
  name := "runner-abc"
  version := none
  annotations := .single Pod.startKey "2026-10-18T12:00:60.5Z"
  phase := .running
  containers := [⟨"runner", .running⟩]
  conditions := []

def leapTarget : Target := ⟨.ofOrganization "acme", "runner-abc"⟩

/-- A registry without runners, and the time. -/
def emptyAt (now : Instant) : World :=
  World.initial now [] []

/-- A tenth of a second before the midnight after the start mark. -/
def beforeMidnight : Instant := ⟨20744, 86399, 900000000, by decide, by decide, by decide⟩

/-- So many nanoseconds past that midnight. -/
def pastMidnight (nanosecond : Nat) (h : nanosecond < 1000000000) : Instant :=
  ⟨20745, 0, nanosecond, Instant.epoch.second_lt, by omega, by omega⟩

/-- An empty registry knows nobody, and its clock reads the time that it was given. -/
theorem unknown_emptyAt (now : Instant) (target : Target) (pod : Option Pod) :
    Unknown World.answer (emptyAt now) target pod now where
  notFound id _ := by
    cases id with
    | none => rfl
    | some n => rfl
  reading id _ := by
    cases id with
    | none => rfl
    | some n => rfl

/-- The decision on that pod with a minute less than twelve hours to register. -/
def leapDecision (now : Instant) : Decision :=
  ((ensureUnregistered leapTarget (.ofSeconds 43140) (.ofSeconds 10) (some leapPod)).run
    World.answer (emptyAt now)).value

/-- A second later the pod may be deleted again. -/
theorem deletable_stays_past_midnight :
    leapDecision beforeMidnight = .deletable ∧
      ¬pastMidnight 900000000 (by decide) < beforeMidnight ∧
      leapDecision (pastMidnight 900000000 (by decide)) = .deletable := by
  have hbefore : leapDecision beforeMidnight = .deletable := by decide +kernel
  have hle : ¬pastMidnight 900000000 (by decide) < beforeMidnight := by decide
  have hlater := deletable_stays (unknown_emptyAt beforeMidnight leapTarget (some leapPod))
    (unknown_emptyAt (pastMidnight 900000000 (by decide)) leapTarget (some leapPod)) hle hbefore
  refine ⟨hbefore, hle, hlater.resolve_right ?_⟩
  rintro ⟨-, p, text, start, -, -, -, -, hsoon⟩
  exact absurd hsoon (by decide)

/-- Two tenths of a second later it may not: the leap second is not counted any more. -/
theorem deletable_again_pending :
    leapDecision beforeMidnight = .deletable ∧
      ¬pastMidnight 100000000 (by decide) < beforeMidnight ∧
      Unknown World.answer (emptyAt beforeMidnight) leapTarget (some leapPod) beforeMidnight ∧
      Unknown World.answer (emptyAt (pastMidnight 100000000 (by decide))) leapTarget (some leapPod)
        (pastMidnight 100000000 (by decide)) ∧
      leapDecision (pastMidnight 100000000 (by decide)) = .requeue (.ofSeconds 10) none :=
  ⟨by decide +kernel, by decide, unknown_emptyAt _ _ _, unknown_emptyAt _ _ _, by decide +kernel⟩

end Quiesce
