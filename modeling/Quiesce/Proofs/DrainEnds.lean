import Quiesce.Proofs.Underway

/-!
# A drain ends

Every pass of a drain either is the last, or takes a queued entry, or waits through a round of the
grace window. Both are finite, so the drain ends, however the failures are ordered.

* `Drain.Progress` says that a drain goes on with less ahead of it.
* `Drain.tick_progress` is what a step does, `Drain.pass_progress` what a pass does, and
  `Drain.runPasses_ends` what comes of the passes one after the other.
* `Drain.drain_ends` is the main statement.
-/

namespace Quiesce

open Timeline (queued)

/-- A world as the host of a drain: to sleep moves its clock by exactly the time that was asked
for. -/
def World.host (start : Instant) : Drain.Host World where
  answer := World.answer
  elapsed w := w.clock.elapsed start
  sleep d w := (true, w.apply (.advance d))

namespace Drain

variable {plan : Plan} {rounds : Nat} {w w' : World} {p : Pod}

/-- After the wait the drain is under way with fewer entries and rounds ahead of it than before. -/
def Progress (plan : Plan) (rounds : Nat) (w w' : World) (wait : Duration) : Prop :=
  ∃ rest, Underway plan rest (w'.apply (.advance wait)) ∧
    queued w'.faults + rest < queued w.faults + rounds

/-- Whoever has taken an entry may wait as long as they like. -/
theorem Underway.progress (h : Underway plan rounds w') (hlt : queued w'.faults < queued w.faults)
    (wait : Duration) : Progress plan rounds w w' wait :=
  ⟨rounds, h.wait wait, by omega⟩

/-- Progress may be counted from an earlier world. -/
theorem Progress.of_spent {w₁ : World} {wait : Duration} (hspent : World.Spent w w₁)
    (h : Progress plan rounds w₁ w' wait) : Progress plan rounds w w' wait := by
  obtain ⟨rest, hrest, hlt⟩ := h
  have hqueued := hspent.queued
  exact ⟨rest, hrest, Nat.lt_of_lt_of_le hlt (by omega)⟩

/-! ## A step -/

/-- The attempt to mark the stored pod. -/
theorem Underway.marked (h : Underway plan rounds w) (hp : plan.stored w = some p) {key : String}
    (hkey : key ≠ Pod.runnerIdKey) (hyear : Timestamp.HasShortYear w.clock) {calls : List Call}
    {result : Except PodStoreError (Option Pod)}
    (hrun : (markPod key (some p)).run World.answer w = ⟨result, calls, w'⟩) :
    Underway plan rounds w' ∧ World.Spent w w' ∧
      (∀ e, result = .error e → queued w'.faults < queued w.faults) ∧
      ∀ pod, result = .ok pod →
        ∃ q, pod = some q ∧ plan.stored w' = some q ∧ q.hasAnnotation key = true := by
  obtain ⟨answered, rfl, hannotated⟩ := World.markPod_current (stored_current hp) hrun
  obtain ⟨hunderway, hstored⟩ := h.annotated hp (fun he => absurd he hkey)
    (fun _ => ⟨rfl, hyear⟩) hannotated
  refine ⟨hunderway, hannotated.spent, fun e he => ?_, fun pod hpod => ?_⟩
  · cases answered with
    | error e' => exact hannotated.queued_lt
    | ok q => cases he
  · cases answered with
    | error e' => cases hpod
    | ok q =>
      cases hpod
      exact ⟨q, rfl, hstored q rfl⟩

/-- A pod with a start mark says when it was made. -/
theorem Underway.began (h : Underway plan rounds w) (hp : plan.stored w = some p)
    (hhas : p.hasAnnotation Pod.startKey = true) : ∃ start, p.Began start := by
  rcases h.enough p hp with ⟨hnone, -⟩ | ⟨start, hbegan, -⟩
  · rw [Pod.hasAnnotation, Annotations.contains] at hhas
    rw [Pod.annotation?] at hnone
    rw [hnone] at hhas
    cases hhas
  · exact ⟨start, hbegan⟩

/-- A decision on the stored pod that is not final has made progress: it has taken an entry, or it
is to wait through a round of the grace window. -/
theorem Underway.decided (h : Underway plan rounds w) (hp : plan.stored w = some p)
    (hhas : p.hasAnnotation Pod.startKey = true) {decision : Decision} {calls : List Call}
    (hrun : (ensureUnregistered plan.target plan.timeout plan.retryDelay (some p)).run
      World.answer w = ⟨decision, calls, w'⟩) :
    (Underway plan rounds w' ∧ plan.stored w' = some p ∧ World.Spent w w') ∧
      (∀ after cause, decision = .requeue after cause → Progress plan rounds w w' after) ∧
      ∀ e, decision = .failed e → Progress plan rounds w w' plan.retryDelay := by
  obtain ⟨id, hid⟩ := h.recorded p hp
  obtain ⟨start, hbegan⟩ := h.began hp hhas
  have hframe := World.afterRegistry_run
    (ensureUnregistered_sparesPods plan.target plan.timeout plan.retryDelay (some p)) w
  have hsettles := ensureUnregistered_settles w plan.target plan.timeout plan.retryDelay hid
  rw [hrun] at hframe hsettles
  have hunderway : Underway plan rounds w' := h.spent hframe.spent hframe.store
  have hstored : plan.stored w' = some p := (stored_congr plan hframe.store).trans hp
  refine ⟨⟨hunderway, hstored, hframe.spent⟩, ?_⟩
  -- final, paid for with an entry, or the decision on a runner that was not found
  rcases hsettles with hdeletable | hlt | hnotFound
  · dsimp only at hdeletable
    subst hdeletable
    refine ⟨fun after cause hdecision => ?_, fun e hdecision => ?_⟩
    · cases hdecision
    · cases hdecision
  · exact ⟨fun after cause _ => hunderway.progress hlt after, fun e _ => hunderway.progress hlt _⟩
  · dsimp only at hnotFound
    rcases decideNotFound_began w plan.timeout plan.retryDelay hbegan
      with hdeletable | ⟨hrequeue, hlt⟩
    · rw [hdeletable] at hnotFound
      subst hnotFound
      refine ⟨fun after cause hdecision => ?_, fun e hdecision => ?_⟩
      · cases hdecision
      · cases hdecision
    · rw [hrequeue] at hnotFound
      subst hnotFound
      refine ⟨fun after cause hdecision => ?_, fun e hdecision => ?_⟩
      · cases hdecision
        obtain ⟨fewer, hfewer, hround⟩ := hunderway.round hstored hbegan (by rwa [hframe.clock])
        have hqueued : queued w'.faults ≤ queued w.faults := hframe.spent.queued
        exact ⟨fewer, hround, by omega⟩
      · cases hdecision

/-- **What a step does to a drain.** It finds the stored pod deletable, or the wait that follows it
makes progress. -/
theorem tick_progress (h : Underway plan rounds w) (hp : plan.stored w = some p)
    (hyear : Timestamp.HasShortYear w.clock) {outcome : TickOutcome} {calls : List Call}
    (hticked : Ticked World.answer plan.target plan.timeout plan.retryDelay w (some p) outcome
      calls w') :
    World.Spent w w' ∧
      (outcome.isDeletable = false ∧
          Progress plan rounds w w' (outcome.requeueAfter?.getD plan.retryDelay) ∨
        ∃ q, outcome = .deletable (some q) ∧ Underway plan rounds w' ∧
          plan.stored w' = some q) := by
  have hwait : ∀ e, (TickOutcome.ofPatchError plan.retryDelay e).isDeletable = false ∧
      (TickOutcome.ofPatchError plan.retryDelay e).requeueAfter?.getD plan.retryDelay =
        plan.retryDelay := by
    intro e
    unfold TickOutcome.ofPatchError
    cases e.isConflict with
    | true => exact ⟨rfl, rfl⟩
    | false => exact ⟨rfl, rfl⟩
  -- each part of the step that goes through leaves the drain under way for the next one
  cases hticked with
  | @startRefused e _ _ start =>
    obtain ⟨hunderway, hspent, hlt, -⟩ := h.marked hp (by decide) hyear start
    refine ⟨hspent, Or.inl ⟨(hwait e).1, ?_⟩⟩
    rw [(hwait e).2]
    exact hunderway.progress (hlt e rfl) _
  | @requeued pod' after cause _ _ w₁ _ start decided =>
    obtain ⟨hunderway, hspent, -, hmarked⟩ := h.marked hp (by decide) hyear start
    obtain ⟨q, rfl, hq, hhas⟩ := hmarked _ rfl
    obtain ⟨⟨-, -, hspent'⟩, hprogress, -⟩ := hunderway.decided hq hhas decided
    exact ⟨hspent.trans hspent', Or.inl ⟨rfl, .of_spent hspent (hprogress after cause rfl)⟩⟩
  | @failed pod' e _ _ w₁ _ start decided =>
    obtain ⟨hunderway, hspent, -, hmarked⟩ := h.marked hp (by decide) hyear start
    obtain ⟨q, rfl, hq, hhas⟩ := hmarked _ rfl
    obtain ⟨⟨-, -, hspent'⟩, -, hprogress⟩ := hunderway.decided hq hhas decided
    exact ⟨hspent.trans hspent', Or.inl ⟨rfl, .of_spent hspent (hprogress e rfl)⟩⟩
  | @completeRefused pod' e _ _ _ w₁ w₂ _ start decided complete =>
    obtain ⟨hunderway, hspent, -, hmarked⟩ := h.marked hp (by decide) hyear start
    obtain ⟨q, rfl, hq, hhas⟩ := hmarked _ rfl
    obtain ⟨⟨hunderway', hq', hspent'⟩, -⟩ := hunderway.decided hq hhas decided
    have hclock := (hspent.trans hspent').clock
    obtain ⟨hunderway'', hspent'', hlt, -⟩ :=
      hunderway'.marked hq' (by decide) (by rwa [hclock]) complete
    refine ⟨(hspent.trans hspent').trans hspent'', Or.inl ⟨(hwait e).1, ?_⟩⟩
    rw [(hwait e).2]
    exact .of_spent (hspent.trans hspent') (hunderway''.progress (hlt e rfl) _)
  | @deletable pod' pod'' _ _ _ w₁ w₂ _ start decided complete =>
    obtain ⟨hunderway, hspent, -, hmarked⟩ := h.marked hp (by decide) hyear start
    obtain ⟨q, rfl, hq, hhas⟩ := hmarked _ rfl
    obtain ⟨⟨hunderway', hq', hspent'⟩, -⟩ := hunderway.decided hq hhas decided
    have hclock := (hspent.trans hspent').clock
    obtain ⟨hunderway'', hspent'', -, hmarked'⟩ :=
      hunderway'.marked hq' (by decide) (by rwa [hclock]) complete
    obtain ⟨q', rfl, hq'', -⟩ := hmarked' _ rfl
    exact ⟨(hspent.trans hspent').trans hspent'', Or.inr ⟨q', rfl, hunderway'', hq''⟩⟩

/-- Without a pod a step is final unless it has taken an entry. -/
theorem tick_without_pod {outcome : TickOutcome} {calls : List Call}
    (hticked : Ticked World.answer plan.target plan.timeout plan.retryDelay w none outcome
      calls w') :
    World.AfterRegistry w w' ∧
      (outcome.isDeletable = false ∧ queued w'.faults < queued w.faults ∨
        outcome = .deletable none) := by
  have hframe := World.afterRegistry_run
    (ensureUnregistered_sparesPods plan.target plan.timeout plan.retryDelay none) w
  have hid : recordedId none = .ok none := rfl
  have hsettles := ensureUnregistered_settles w plan.target plan.timeout plan.retryDelay hid
  -- Without a pod no mark is written, and the decision is all there is to the step.
  cases hticked with
  | startRefused start => cases start
  | requeued start decided =>
    cases start
    rw [decided] at hframe hsettles
    rcases hsettles with hfinal | hlt | hfinal
    · cases hfinal
    · exact ⟨hframe, Or.inl ⟨rfl, hlt⟩⟩
    · cases hfinal
  | failed start decided =>
    cases start
    rw [decided] at hframe hsettles
    rcases hsettles with hfinal | hlt | hfinal
    · cases hfinal
    · exact ⟨hframe, Or.inl ⟨rfl, hlt⟩⟩
    · cases hfinal
  | completeRefused start decided complete =>
    cases start
    cases complete
  | deletable start decided complete =>
    cases start
    cases complete
    rw [decided] at hframe
    exact ⟨hframe, Or.inr rfl⟩

/-! ## A pass -/

/-- What a drain leaves: no pod, unless a queued failure claimed that it was gone already. -/
def Left (plan : Plan) (w w' : World) : Prop :=
  plan.stored w' = none ∨ ∃ e ∈ w.faults.delete, e.isNotFound = true

/-- The failures that are queued later were queued at the beginning. -/
theorem Left.of_spent {w₁ : World} (hspent : World.Spent w w₁) (h : Left plan w₁ w') :
    Left plan w w' := by
  rcases h with hnone | ⟨e, he, hgone⟩
  · exact Or.inl hnone
  · exact Or.inr ⟨e, hspent.delete.subset he, hgone⟩

/-- A pass is the last one and leaves what a drain is to leave, or it makes progress. -/
def Passed (plan : Plan) (rounds : Nat) (w : World) (next : Option Duration) (w' : World) : Prop :=
  next = none ∧ Left plan w w' ∨ ∃ wait, next = some wait ∧ Progress plan rounds w w' wait

/-- A step that found no pod deletable is followed by a wait. -/
theorem conclude_waits (plan : Plan) (attempt : Nat) {outcome : TickOutcome}
    (h : outcome.isDeletable = false) (w : World) :
    ((conclude plan attempt outcome).run World.answer w).value.next =
        some (outcome.requeueAfter?.getD plan.retryDelay) ∧
      ((conclude plan attempt outcome).run World.answer w).state = w := by
  cases outcome with
  | deletable pod => cases h
  | requeue after cause => exact ⟨rfl, rfl⟩
  | failed e => exact ⟨rfl, rfl⟩

/-- The stored pod is deleted unless a queued failure is taken. -/
theorem delete_stored (hp : plan.stored w = some p) :
    (∃ e rest, w.faults.delete = e :: rest ∧ World.answer (.delete p) w =
        (.error e, { w with faults := { w.faults with delete := rest } })) ∨
      World.answer (.delete p) w =
        (.ok (), { w with store := w.store.drop plan.podNamespace plan.podName }) := by
  show (∃ e rest, _ ∧ w.delete p = _) ∨ w.delete p = _
  unfold World.delete
  cases hq : w.faults.delete with
  | cons e rest => exact Or.inl ⟨e, rest, rfl, rfl⟩
  | nil =>
    obtain ⟨hns, hname⟩ := Store.isNamed_of_find? (p := p) hp
    have hdrop : w.store.delete p = (.ok (), w.store.drop plan.podNamespace plan.podName) := by
      unfold Store.delete
      rw [stored_current hp, hns, hname]
    dsimp only
    rw [hdrop]
    exact Or.inr rfl

/-- The deletion of the stored pod is the end, or it has taken an entry. -/
theorem deletePod_passed (h : Underway plan rounds w) (hp : plan.stored w = some p)
    (attempt : Nat) :
    World.Spent w ((deletePod plan attempt p).run World.answer w).state ∧
      Passed plan rounds w ((deletePod plan attempt p).run World.answer w).value.next
        ((deletePod plan attempt p).run World.answer w).state := by
  unfold deletePod
  rw [Program.run_call]
  rcases delete_stored hp with ⟨e, rest, hq, hanswer⟩ | hanswer
  · rw [hanswer]
    have hlt : queued { w.faults with delete := rest } < queued w.faults := by
      unfold Timeline.queued
      rw [hq]
      simp
    have hspent : World.Spent w { w with faults := { w.faults with delete := rest } } :=
      ⟨rfl, Nat.le_of_lt hlt, by rw [hq]; exact List.suffix_cons e rest⟩
    dsimp only
    cases hgone : e.isNotFound with
    | true =>
      rw [if_pos rfl]
      exact ⟨hspent, Or.inl ⟨rfl, Or.inr ⟨e, by rw [hq]; exact List.mem_cons_self, hgone⟩⟩⟩
    | false =>
      rw [if_neg (by decide)]
      exact ⟨hspent, Or.inr ⟨_, rfl, (h.spent hspent rfl).progress hlt _⟩⟩
  · rw [hanswer]
    refine ⟨⟨rfl, Nat.le_refl _, List.suffix_rfl⟩, Or.inl ⟨rfl, Or.inl ?_⟩⟩
    show (w.store.drop plan.podNamespace plan.podName).find? plan.podNamespace plan.podName = none
    rw [Store.find?_drop, if_pos ⟨rfl, rfl⟩]

/-- The stored pod is fetched unless a queued failure is taken. -/
theorem get_stored (plan : Plan) (w : World) :
    (∃ e w', World.answer (.get plan.podNamespace plan.podName) w = (.error e, w') ∧
        w'.store = w.store ∧ World.Spent w w' ∧ queued w'.faults < queued w.faults) ∨
      World.answer (.get plan.podNamespace plan.podName) w = (.ok (plan.stored w), w) := by
  show (∃ e w', w.get plan.podNamespace plan.podName = _ ∧ _) ∨
    w.get plan.podNamespace plan.podName = _
  unfold World.get
  cases hq : w.faults.get with
  | cons e rest =>
    have hlt : queued { w.faults with get := rest } < queued w.faults := by
      unfold Timeline.queued
      rw [hq]
      simp
    exact Or.inl ⟨e, _, rfl, rfl, ⟨rfl, Nat.le_of_lt hlt, List.suffix_rfl⟩, hlt⟩
  | nil => exact Or.inr rfl

/-- **What a pass does to a drain.** It is the last one, or it makes progress. -/
theorem pass_progress (h : Underway plan rounds w) (hyear : Timestamp.HasShortYear w.clock)
    (attempt : Nat) :
    World.Spent w ((pass plan attempt).run World.answer w).state ∧
      Passed plan rounds w ((pass plan attempt).run World.answer w).value.next
        ((pass plan attempt).run World.answer w).state := by
  unfold pass
  rw [Program.run_call]
  rcases get_stored plan w with ⟨e, w', hanswer, hstore, hspent, hlt⟩ | hanswer
  · rw [hanswer]
    exact ⟨hspent, Or.inr ⟨_, rfl, (h.spent hspent hstore).progress hlt _⟩⟩
  · rw [hanswer]
    simp only [Program.bind_eq, Program.value_bind, Program.state_bind]
    have hticked :=
      tick_cases World.answer plan.target plan.timeout plan.retryDelay w (plan.stored w)
    generalize (tick plan.target plan.timeout plan.retryDelay (plan.stored w)).run World.answer w =
      step at hticked ⊢
    obtain ⟨outcome, calls, w'⟩ := step
    dsimp only at hticked ⊢
    -- with a pod the step follows its marks, without one it only asks the registry
    cases hp : plan.stored w with
    | none =>
      rw [hp] at hticked
      obtain ⟨hframe, ⟨hwaits, hlt⟩ | rfl⟩ := tick_without_pod hticked
      · obtain ⟨hnext, hstate⟩ := conclude_waits plan attempt hwaits w'
        rw [hnext, hstate]
        exact ⟨hframe.spent,
          Or.inr ⟨_, rfl, (h.spent hframe.spent hframe.store).progress hlt _⟩⟩
      · have hgone : plan.stored w' = none := (stored_congr plan hframe.store).trans hp
        exact ⟨hframe.spent, Or.inl ⟨rfl, Or.inl hgone⟩⟩
    | some p =>
      rw [hp] at hticked
      obtain ⟨hspent, ⟨hwaits, hprogress⟩ | ⟨q, rfl, hunderway, hq⟩⟩ :=
        tick_progress h hp hyear hticked
      · obtain ⟨hnext, hstate⟩ := conclude_waits plan attempt hwaits w'
        rw [hnext, hstate]
        exact ⟨hspent, Or.inr ⟨_, rfl, hprogress⟩⟩
      · obtain ⟨hspent', hpassed⟩ := deletePod_passed hunderway hq attempt
        refine ⟨hspent.trans hspent', ?_⟩
        rcases hpassed with ⟨hlast, hleft⟩ | ⟨wait, hnext, hprogress⟩
        · exact Or.inl ⟨hlast, .of_spent hspent hleft⟩
        · exact Or.inr ⟨wait, hnext, .of_spent hspent hprogress⟩

/-! ## All passes -/

variable {start : Instant} {passes attempt : Nat}

/-- A pass without a wait is the last. -/
theorem runPasses_last (start : Instant) (passes : Nat)
    (h : ((pass plan attempt).run World.answer w).value.next = none) :
    (runPasses (World.host start) plan (passes + 1) attempt w).finished = true ∧
      (runPasses (World.host start) plan (passes + 1) attempt w).state =
        ((pass plan attempt).run World.answer w).state := by
  simp [runPasses, World.host, Report.after, h]

/-- After a pass with a wait the drain goes on with the next, once the time has passed. -/
theorem runPasses_again (start : Instant) (passes : Nat) {wait : Duration}
    (h : ((pass plan attempt).run World.answer w).value.next = some wait) :
    (runPasses (World.host start) plan (passes + 1) attempt w).finished =
        (runPasses (World.host start) plan passes (attempt + 1)
          (((pass plan attempt).run World.answer w).state.apply (.advance wait))).finished ∧
      (runPasses (World.host start) plan (passes + 1) attempt w).state =
        (runPasses (World.host start) plan passes (attempt + 1)
          (((pass plan attempt).run World.answer w).state.apply (.advance wait))).state := by
  simp [runPasses, World.host, Report.after, h]

/-- **The passes come to an end**, one after the other, before there are more of them than entries
and rounds ahead of the first. -/
theorem runPasses_ends (attempt : Nat) (h : Underway plan rounds w)
    (hpasses : queued w.faults + rounds < passes)
    (hyears : ∀ n < passes, Timestamp.HasShortYear
      (runPasses (World.host start) plan n attempt w).state.clock) :
    (runPasses (World.host start) plan passes attempt w).finished = true ∧
      Left plan w (runPasses (World.host start) plan passes attempt w).state := by
  induction passes generalizing rounds attempt w with
  | zero => omega
  | succ passes ih =>
    have hyear : Timestamp.HasShortYear w.clock := hyears 0 (Nat.succ_pos passes)
    -- either this pass is the last, or the ones after it have less ahead of them
    obtain ⟨hspent, ⟨hlast, hleft⟩ | ⟨wait, hnext, rest, hrest, hlt⟩⟩ :=
      pass_progress h hyear attempt
    · obtain ⟨hfinished, hstate⟩ := runPasses_last start passes hlast
      rw [hfinished, hstate]
      exact ⟨rfl, hleft⟩
    · obtain ⟨hfinished, hstate⟩ := runPasses_again start passes hnext
      rw [hfinished, hstate]
      have hagain := ih (attempt + 1) hrest ?_ fun n hn => ?_
      · exact ⟨hagain.1, .of_spent hspent hagain.2⟩
      · show queued ((pass plan attempt).run World.answer w).state.faults + rest < passes
        omega
      · rw [← (runPasses_again start n hnext).2]
        exact hyears (n + 1) (by omega)

/-! ## The start -/

/-- Recording the registration at the start leaves a drain underway: it annotates the pod with a
number that can be read, or leaves it alone. -/
theorem ensureRegistered_underway (h : Underway plan rounds w) (hp : plan.stored w = some p) :
    Underway plan rounds ((ensureRegistered plan.target p).run World.answer w).state ∧
      World.Spent w ((ensureRegistered plan.target p).run World.answer w).state := by
  unfold ensureRegistered
  by_cases hsettled : (p.isStopped || p.hasAnnotation Pod.runnerIdKey) = true
  · rw [if_pos hsettled]
    exact ⟨h, .refl w⟩
  · rw [if_neg hsettled]
    simp only [Program.bind_eq, Program.state_bind]
    have hframe := World.afterRegistry_run (findRunner_asksRegistry plan.target).sparesPods w
    generalize (findRunner plan.target).run World.answer w = found at hframe ⊢
    obtain ⟨result, calls, w'⟩ := found
    -- The look-up leaves the pods as they are.
    have hunderway : Underway plan rounds w' := h.spent hframe.spent hframe.store
    have hstored : plan.stored w' = some p := (stored_congr plan hframe.store).trans hp
    cases result with
    | error e => exact ⟨hunderway, hframe.spent⟩
    | ok found =>
      dsimp only
      cases found.bind (·.id) with
      | none => exact ⟨hunderway, hframe.spent⟩
      | some id =>
        have hannotated := World.annotateOnce_current (w := w') Pod.runnerIdKey (runnerIdText id)
          (stored_current hstored)
        have hkept := hunderway.annotated hstored (fun _ => ⟨id, readInt64_runnerIdText id⟩)
          (fun hkey => absurd hkey (by decide)) hannotated
        dsimp only
        rw [Program.state_bind]
        generalize (annotateOnce p Pod.runnerIdKey (runnerIdText id)).run World.answer w' = o
          at hannotated hkept ⊢
        obtain ⟨written, calls', w''⟩ := o
        cases written with
        | error e => exact ⟨hkept.1, hframe.spent.trans hannotated.spent⟩
        | ok q => exact ⟨hkept.1, hframe.spent.trans hannotated.spent⟩

/-- To record the registration keeps a drain under way: a number that it writes can be read. -/
theorem recordRegistration_underway (h : Underway plan rounds w) :
    Underway plan rounds ((recordRegistration plan).run World.answer w).state ∧
      World.Spent w ((recordRegistration plan).run World.answer w).state := by
  unfold recordRegistration
  rw [Program.run_call]
  rcases get_stored plan w with ⟨e, w', hanswer, hstore, hspent, -⟩ | hanswer
  · rw [hanswer]
    exact ⟨h.spent hspent hstore, hspent⟩
  · rw [hanswer]
    cases hp : plan.stored w with
    | none => exact ⟨h, .refl w⟩
    | some p =>
      simp only [Program.bind_eq, Program.state_bind]
      exact ensureRegistered_underway h hp

/-- The rounds of waiting that the grace window takes, all of its length being left. -/
def Plan.graceRounds (plan : Plan) : Nat :=
  (plan.timeout.nanoseconds + plan.retryDelay.nanoseconds - 1) / plan.retryDelay.nanoseconds

/-- The rounds of the grace window cover the timeout. -/
theorem le_graceRounds (hdelay : 0 < plan.retryDelay.nanoseconds) :
    plan.timeout.nanoseconds ≤ plan.graceRounds * plan.retryDelay.nanoseconds := by
  unfold Plan.graceRounds
  have := Nat.div_add_mod (plan.timeout.nanoseconds + plan.retryDelay.nanoseconds - 1)
    plan.retryDelay.nanoseconds
  have := Nat.mod_lt (plan.timeout.nanoseconds + plan.retryDelay.nanoseconds - 1) hdelay
  rw [Nat.mul_comm]
  omega

/-- **A drain ends, and leaves no pod.** Take a world with any runners and any queued entries, whose
clock moves by the waits of the drain only, outside leap seconds and within the years of four
digits. If the stored pod, if there is one, has no start mark and no number that cannot be read, the
drain ends after a pass for every entry, one for every round of the grace window, and one more; and
the pod is gone, unless a queued failure of a deletion claimed that it was gone already. -/
theorem drain_ends (plan : Plan) (w : World) (hdelay : 0 < plan.retryDelay.nanoseconds)
    (hclock : w.clock.inLeapSecond = false)
    (hyears : ∀ n < queued w.faults + plan.graceRounds + 1, Timestamp.HasShortYear
      (run (World.host w.clock) plan n w).state.clock)
    (hstart : ∀ p ∈ plan.stored w, p.hasAnnotation Pod.startKey = false)
    (hrecorded : ∀ p ∈ plan.stored w, ∃ id, recordedId (some p) = .ok id) :
    let r := run (World.host w.clock) plan (queued w.faults + plan.graceRounds + 1) w
    r.finished = true ∧
      (plan.stored r.state = none ∨ ∃ e ∈ w.faults.delete, e.isNotFound = true) := by
  have hunderway : Underway plan plan.graceRounds w := by
    refine ⟨hclock, hrecorded, fun p hp => Or.inl ⟨?_, le_graceRounds hdelay⟩⟩
    exact Pod.annotation?_eq_none (hstart p hp)
  obtain ⟨hbegun, hspent⟩ := recordRegistration_underway hunderway
  have hqueued := hspent.queued
  obtain ⟨hfinished, hleft⟩ := runPasses_ends 1 hbegun
    (show _ < queued w.faults + plan.graceRounds + 1 by omega) hyears
  exact ⟨hfinished, Left.of_spent hspent hleft⟩

/-! ### A runner that never registered

Its pod is changed by somebody else once, so that a patch is refused, and the cluster fails to
delete it once. The grace window takes two rounds, and the drain makes all five passes that it
may. -/

def absentPod : Pod where
  namespaceName := "default"
  name := "runner-abc"
  version := some "1"
  annotations := .empty
  phase := .running
  containers := [⟨"runner", .running⟩]
  conditions := []

/-- A registry without runners and a cluster that fails twice. -/
def absentWorld : World where
  clock := Instant.epoch.after (.ofSeconds 1792324800)
  runners := []
  store := ⟨1, [absentPod]⟩
  faults :=
    { Faults.none with patch := [.conflict "default/runner-abc"], delete := [.api 500 "busy"] }

def absentPlan : Plan where
  target := ⟨.ofOrganization "acme", "runner-abc"⟩
  podNamespace := "default"
  podName := "runner-abc"
  timeout := .ofSeconds 15
  retryDelay := .ofSeconds 10

/-- A runner that has never registered and a cluster that fails twice: the fifth pass is the last at
the latest. -/
theorem drain_ends_absent :
    0 < absentPlan.retryDelay.nanoseconds ∧ absentWorld.clock.inLeapSecond = false ∧
      queued absentWorld.faults + absentPlan.graceRounds + 1 = 5 ∧
      (∀ n < 5, Timestamp.HasShortYear
        (run (World.host absentWorld.clock) absentPlan n absentWorld).state.clock) ∧
      (∀ p ∈ absentPlan.stored absentWorld, p.hasAnnotation Pod.startKey = false) ∧
      (∀ p ∈ absentPlan.stored absentWorld, ∃ id, recordedId (some p) = .ok id) ∧
      (run (World.host absentWorld.clock) absentPlan 5 absentWorld).finished = true ∧
      absentPlan.stored (run (World.host absentWorld.clock) absentPlan 5 absentWorld).state =
        none := by
  have hdelay : 0 < absentPlan.retryDelay.nanoseconds := by decide
  have hclock : absentWorld.clock.inLeapSecond = false := by decide
  have hfive : queued absentWorld.faults + absentPlan.graceRounds + 1 = 5 := by decide
  have hyears : ∀ n < 5, Timestamp.HasShortYear
      (run (World.host absentWorld.clock) absentPlan n absentWorld).state.clock := by
    decide +kernel
  have hstored : absentPlan.stored absentWorld = some absentPod := by decide
  have hstart : ∀ p ∈ absentPlan.stored absentWorld, p.hasAnnotation Pod.startKey = false := by
    rw [hstored]
    rintro p ⟨⟩
    decide
  have hrecorded : ∀ p ∈ absentPlan.stored absentWorld, ∃ id, recordedId (some p) = .ok id := by
    rw [hstored]
    rintro p ⟨⟩
    exact ⟨none, rfl⟩
  obtain ⟨hfinished, hleft⟩ := drain_ends absentPlan absentWorld hdelay hclock
    (by rwa [hfive]) hstart hrecorded
  rw [hfive] at hfinished hleft
  refine ⟨hdelay, hclock, hfive, hyears, hstart, hrecorded, hfinished, ?_⟩
  rcases hleft with hnone | ⟨e, he, hgone⟩
  · exact hnone
  · -- the one deletion that fails does not say that the pod is gone
    obtain rfl := List.mem_singleton.1 he
    cases hgone

example : (run (World.host absentWorld.clock) absentPlan 4 absentWorld).finished = false := by
  decide +kernel

end Drain
end Quiesce
