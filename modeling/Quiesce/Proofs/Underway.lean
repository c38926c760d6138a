import Quiesce.Proofs.Elapsing
import Quiesce.Proofs.RunnerIds
import Quiesce.Proofs.Spending
import Quiesce.Proofs.Versions
import Quiesce.Stop.Drain

/-!
# A drain under way

What a drain can rely on between its passes, whatever has failed so far: the clock can be reckoned
with, and the stored pod has a number that can be read and a start mark that is either still to be
written or says when the grace window began.

* `Drain.Underway` is this invariant; it counts the rounds of waiting that the grace window may
  still take.
* `Drain.Underway.written` and `Drain.Underway.spent` keep it through the calls of a pass,
  `Drain.Underway.wait` through any wait.
* `Drain.Underway.round` takes a round off it for every full wait within the grace window.
-/

namespace Quiesce

open Timeline (queued)

/-! ## The start mark -/

/-- The start mark of the pod says that unregistration began at that instant. -/
def Pod.Began (p : Pod) (start : Instant) : Prop :=
  ∃ text, p.annotation? Pod.startKey = some text ∧ Timestamp.read text = .ok start

/-- A pod that began has a start mark that can be read. -/
theorem Pod.Began.mark? {p : Pod} {start : Instant} (h : p.Began start) :
    ∃ text, p.mark? Pod.startKey = some text ∧ Timestamp.read text = .ok start := by
  obtain ⟨text, htext, hread⟩ := h
  refine ⟨text, ?_, hread⟩
  have hne : text.isEmpty = false := by
    cases hempty : text.isEmpty with
    | false => rfl
    | true =>
      -- the empty text is too short for a timestamp
      rw [String.isEmpty_iff.1 hempty] at hread
      cases hread
  unfold Pod.mark?
  rw [htext]
  simp [hne]

/-- A pod began at one time. -/
theorem Pod.Began.unique {p : Pod} {start start' : Instant} (h : p.Began start)
    (h' : p.Began start') : start' = start := by
  obtain ⟨text, htext, hread⟩ := h
  obtain ⟨text', htext', hread'⟩ := h'
  rw [htext] at htext'
  cases htext'
  rw [hread] at hread'
  cases hread'
  rfl

/-- A runner that is not found is decided by the time since its pod was marked. -/
theorem decideNotFound_began (w : World) (timeout retryDelay : Duration) {p : Pod} {start : Instant}
    (h : p.Began start) :
    ((decideNotFound timeout retryDelay (some p)).run World.answer w).value = .deletable ∨
      ((decideNotFound timeout retryDelay (some p)).run World.answer w).value =
          .requeue retryDelay none ∧
        Instant.elapsed w.clock start < timeout := by
  obtain ⟨text, htext, hread⟩ := h.mark?
  have hvalue : ((decideByStart timeout retryDelay text).run World.answer w).value =
      if Instant.elapsed w.clock start < timeout then .requeue retryDelay none else .deletable := by
    rw [decideByStart_eq timeout retryDelay hread]
    rfl
  cases hstopped : p.isStopped with
  | true =>
    rw [decideNotFound_stopped timeout retryDelay hstopped]
    exact Or.inl rfl
  | false =>
    rw [decideNotFound_marked timeout retryDelay hstopped htext, hvalue]
    by_cases hlt : Instant.elapsed w.clock start < timeout
    · rw [if_pos hlt]
      exact Or.inr ⟨rfl, hlt⟩
    · rw [if_neg hlt]
      exact Or.inl rfl

namespace Drain

/-! ## The invariant -/

/-- The stored pod that a drain is about. -/
def Plan.stored (plan : Plan) (w : World) : Option Pod :=
  w.store.find? plan.podNamespace plan.podName

/-- At a moment `now`, so many rounds of waiting are enough to use up the grace window of the pod;
all of it is left as long as its beginning is not marked. -/
def Plan.Enough (plan : Plan) (now : Instant) (p : Pod) (rounds : Nat) : Prop :=
  p.annotation? Pod.startKey = none ∧
      plan.timeout.nanoseconds ≤ rounds * plan.retryDelay.nanoseconds ∨
    ∃ start, p.Began start ∧ start.inLeapSecond = false ∧ start.nanoseconds ≤ now.nanoseconds ∧
      (plan.timeout.nanoseconds : Int) ≤
        rounds * plan.retryDelay.nanoseconds + (now.nanoseconds - start.nanoseconds)

/-- A drain is under way that will wait through so many rounds of the grace window at most. -/
structure Underway (plan : Plan) (rounds : Nat) (w : World) : Prop where
  regular : w.clock.inLeapSecond = false
  recorded : ∀ p ∈ plan.stored w, ∃ id, recordedId (some p) = .ok id
  enough : ∀ p ∈ plan.stored w, plan.Enough w.clock p rounds

variable {plan : Plan} {rounds : Nat} {w w' : World} {p : Pod}

theorem stored_congr (plan : Plan) (hstore : w'.store = w.store) :
    plan.stored w' = plan.stored w := by
  unfold Plan.stored
  rw [hstore]

/-- The pod of a plan is stored under its own name. -/
theorem stored_current (hp : plan.stored w = some p) :
    w.store.find? p.namespaceName p.name = some p := by
  obtain ⟨hns, hname⟩ := Store.isNamed_of_find? (p := p) hp
  rw [hns, hname]
  exact hp

/-- Calls that leave the store alone keep a drain under way. -/
theorem Underway.spent (h : Underway plan rounds w) (hspent : World.Spent w w')
    (hstore : w'.store = w.store) : Underway plan rounds w' := by
  have hstored := stored_congr plan hstore
  refine ⟨?_, ?_, ?_⟩
  · rw [hspent.clock]
    exact h.regular
  · rw [hstored]
    exact h.recorded
  · rw [hstored, hspent.clock]
    exact h.enough

/-- Waiting can only use up the grace window. -/
theorem Underway.wait (h : Underway plan rounds w) (d : Duration) :
    Underway plan rounds (w.apply (.advance d)) where
  regular := Instant.after_regular h.regular d
  recorded := h.recorded
  enough p hp := by
    have hafter := Instant.nanoseconds_after h.regular d
    rcases h.enough p hp with hopen | ⟨start, hbegan, hstart, hpast, henough⟩
    · exact Or.inl hopen
    · refine Or.inr ⟨start, hbegan, hstart, ?_, ?_⟩
      · show start.nanoseconds ≤ (w.clock.after d).nanoseconds
        omega
      · show _ ≤ _ + ((w.clock.after d).nanoseconds - start.nanoseconds)
        omega

/-- **A full wait within the grace window takes a round off it.** -/
theorem Underway.round (h : Underway plan rounds w) (hp : plan.stored w = some p)
    {start : Instant} (hbegan : p.Began start)
    (hlt : Instant.elapsed w.clock start < plan.timeout) :
    ∃ fewer, fewer < rounds ∧ Underway plan fewer (w.apply (.advance plan.retryDelay)) := by
  have hafter := Instant.nanoseconds_after h.regular plan.retryDelay
  rcases h.enough p hp with ⟨hopen, -⟩ | ⟨start', hbegan', hstart, hpast, henough⟩
  · obtain ⟨text, htext, -⟩ := hbegan
    rw [hopen] at htext
    cases htext
  · obtain rfl := hbegan.unique hbegan'
    have helapsed :
        (w.clock.nanoseconds - start'.nanoseconds).toNat < plan.timeout.nanoseconds := by
      rw [← Instant.elapsed_regular h.regular hstart]
      exact hlt
    -- without a round left the grace window would be over
    cases rounds with
    | zero => omega
    | succ fewer =>
      refine ⟨fewer, Nat.lt_succ_self fewer, (h.wait plan.retryDelay).regular, h.recorded, ?_⟩
      intro q hq
      obtain rfl : p = q := Option.some.inj (hp.symm.trans hq)
      refine Or.inr ⟨start', hbegan', hstart, ?_, ?_⟩
      · show start'.nanoseconds ≤ (w.clock.after plan.retryDelay).nanoseconds
        omega
      · show _ ≤ _ + ((w.clock.after plan.retryDelay).nanoseconds - start'.nanoseconds)
        have hround : ((fewer + 1 : Nat) : Int) * plan.retryDelay.nanoseconds =
            fewer * plan.retryDelay.nanoseconds + plan.retryDelay.nanoseconds := by
          push_cast
          rw [Int.add_mul, Int.one_mul]
        omega

/-! ## Marks -/

/-- Annotating the pod of a plan leaves it the pod of the plan. -/
theorem stored_put (hp : plan.stored w = some p) (key value : String) :
    plan.stored { w with store := w.store.put (p.annotate (.single key value)) } =
      some (w.store.nextVersion (p.annotate (.single key value))) := by
  have hnamed :
      Store.isNamed plan.podNamespace plan.podName (p.annotate (.single key value)) = true :=
    Store.isNamed_iff.2 (Store.isNamed_of_find? (p := p) hp)
  show (w.store.put (p.annotate (.single key value))).find? plan.podNamespace plan.podName = _
  rw [Store.find?_put, if_pos hnamed]

/-- **An annotation that is written keeps a drain under way**: any number that it writes can be
read, and the start mark says when the grace window began. -/
theorem Underway.written (h : Underway plan rounds w) (hp : plan.stored w = some p)
    {key value : String} (hid : key = Pod.runnerIdKey → ∃ id, Text.readInt64 value = .ok id)
    (hstart : key = Pod.startKey →
      p.hasAnnotation Pod.startKey = false ∧ value = markText w.clock ∧
        Timestamp.HasShortYear w.clock) :
    Underway plan rounds { w with store := w.store.put (p.annotate (.single key value)) } := by
  have hstored := stored_put hp key value
  refine ⟨h.regular, fun q hq => ?_, fun q hq => ?_⟩
  · -- the recorded number
    obtain rfl := Option.some.inj (hstored.symm.trans hq)
    unfold recordedId
    rw [Option.bind_some, World.annotation?_written]
    by_cases hkey : key = Pod.runnerIdKey
    · obtain ⟨id, hread⟩ := hid hkey
      rw [if_pos hkey]
      dsimp only
      rw [hread]
      exact ⟨some id, rfl⟩
    · rw [if_neg hkey]
      exact h.recorded p hp
  · obtain rfl := Option.some.inj (hstored.symm.trans hq)
    unfold Plan.Enough Pod.Began
    rw [World.annotation?_written]
    by_cases hkey : key = Pod.startKey
    · -- The mark names the second that has just begun, so all of the window lies ahead.
      obtain ⟨hlacks, hvalue, hyear⟩ := hstart hkey
      rw [if_pos hkey]
      refine Or.inr ⟨w.clock.wholeSecond, ⟨value, rfl, ?_⟩, ?_, ?_, ?_⟩
      · rw [hvalue]
        exact read_markText hyear
      · exact Instant.wholeSecond_regular h.regular
      · exact w.clock.nanoseconds_wholeSecond_le
      · have hle := w.clock.nanoseconds_wholeSecond_le
        have hall : plan.timeout.nanoseconds ≤ rounds * plan.retryDelay.nanoseconds := by
          rcases h.enough p hp with ⟨-, hall⟩ | ⟨start, ⟨text, htext, -⟩, -⟩
          · exact hall
          · rw [Pod.annotation?_eq_none hlacks] at htext
            cases htext
        have hcast : (plan.timeout.nanoseconds : Int) ≤ rounds * plan.retryDelay.nanoseconds := by
          exact_mod_cast hall
        show _ ≤ _ + (w.clock.nanoseconds - w.clock.wholeSecond.nanoseconds)
        omega
    · rw [if_neg hkey]
      exact h.enough p hp

/-- However the attempt to annotate the stored pod ends, the drain stays under way, and the pod that
comes of it is the stored one. -/
theorem Underway.annotated (h : Underway plan rounds w) (hp : plan.stored w = some p)
    {key value : String} {answer : Except PodStoreError Pod}
    (hid : key = Pod.runnerIdKey → ∃ id, Text.readInt64 value = .ok id)
    (hstart : key = Pod.startKey → value = markText w.clock ∧ Timestamp.HasShortYear w.clock)
    (hannotated : World.Annotated w p key value answer w') :
    Underway plan rounds w' ∧
      ∀ q, answer = .ok q → plan.stored w' = some q ∧ q.hasAnnotation key = true := by
  cases hannotated with
  | present hhas =>
    refine ⟨h, fun q hq => ?_⟩
    cases hq
    exact ⟨hp, hhas⟩
  | refused hlacks e rest hq => exact ⟨⟨h.regular, h.recorded, h.enough⟩, nofun⟩
  | written hlacks hq =>
    refine ⟨h.written hp hid fun hkey => ⟨hkey ▸ hlacks, hstart hkey⟩, fun q hq => ?_⟩
    cases hq
    refine ⟨stored_put hp key value, ?_⟩
    show (Pod.annotation? _ key).isSome = true
    rw [World.annotation?_written, if_pos rfl]
    rfl

end Drain
end Quiesce
