import Quiesce.Proofs.GraceRuns

/-!
# The grace window is kept

A runner that is not found may still be about to register, so its pod has to be left alone until
the grace window is over. The window is measured from the start mark, which holds whole seconds. It
therefore closes up to a second before its full length has passed since the clock was read for the
mark, and nothing less is lost: `grace_window_kept`.

What is promised is about the readings of the clock since the mark was written, and about pods that
are not confirmed yet. A confirmed pod is deletable at any time, before the mark was ever written
and after the clock has gone back: `grace_window_cut_short` shows the three ways to cut a window
short, the missing fraction of a second being the third.
-/

namespace Quiesce.Grace

open Drain (Plan)

variable {clock : Nat → Instant} {plan : Plan} {seen : List Pod} {s s' : World × Nat}
  {steps : List Step} {step wrote : Step} {w : World} {n : Nat} {pod q : Pod} {t₀ : Instant}

/-! ## Marks stay

Nothing in a step takes an annotation away, and nothing between the steps of a run does so to a
mark. -/

/-- The stored pod has an annotation. -/
def Has (plan : Plan) (key : String) (w : World) : Prop :=
  ∃ p, plan.stored w = some p ∧ p.hasAnnotation key = true

instance (plan : Plan) (key : String) (w : World) : Decidable (Has plan key w) :=
  decidable_of_iff ((plan.stored w).any (fun p => p.hasAnnotation key) = true)
    (Option.any_eq_true _ _)

/-- Annotating a pod takes no annotation away. -/
theorem hasAnnotation_annotate {p : Pod} {key : String} (h : p.hasAnnotation key = true)
    (more : Annotations) : Pod.hasAnnotation (p.annotate more) key = true := by
  have hfold : ∀ (entries : List (String × String)) (a : Annotations), a.contains key = true →
      (entries.foldl (fun a e => a.insert e.1 e.2) a).contains key = true := by
    intro entries
    induction entries with
    | nil => exact fun a ha => ha
    | cons e rest ih =>
      intro a ha
      refine ih (a.insert e.1 e.2) ?_
      unfold Annotations.contains
      rw [Annotations.get?_insert]
      by_cases hkey : e.1 = key
      · rw [if_pos hkey]
        rfl
      · rwa [if_neg hkey]
  exact hfold more.entries p.annotations h

/-- Writing an annotated copy of a stored pod takes no annotation away. -/
theorem Has.put {key : String} {r : Pod} (h : Has plan key w)
    (hr : w.store.find? r.namespaceName r.name = some r) (more : Annotations) :
    ∃ p, (w.store.put (r.annotate more)).find? plan.podNamespace plan.podName = some p ∧
      p.hasAnnotation key = true := by
  obtain ⟨p, hp, hhas⟩ := h
  rw [Store.find?_put]
  cases hnamed : Store.isNamed plan.podNamespace plan.podName (r.annotate more) with
  | false => exact ⟨p, hp, hhas⟩
  | true =>
    have hsame : r.namespaceName = plan.podNamespace ∧ r.name = plan.podName :=
      Store.isNamed_iff.1 hnamed
    rw [hsame.1, hsame.2] at hr
    obtain rfl : p = r := Option.some.inj (hp.symm.trans hr)
    exact ⟨_, rfl, hasAnnotation_annotate hhas more⟩

/-- No answer takes an annotation away from a stored pod, unless it is one to its deletion. -/
theorem has_answer {key : String} {c : Call} (hc : c.isDeletion = false) (h : Has plan key w) :
    Has plan key (World.answer c w).2 := by
  have hsame : ∀ {w' : World}, w'.store = w.store → Has plan key w' := by
    intro w' hstore
    obtain ⟨p, hp, hhas⟩ := h
    exact ⟨p, (Drain.stored_congr plan hstore).trans hp, hhas⟩
  cases c with
  | list scope => exact hsame (World.afterRegistry_list w).store
  | remove scope id => exact hsame (World.afterRegistry_remove w id).store
  | now => exact h
  | delete pod => cases hc
  | get namespaceName name => exact hsame (World.store_get w namespaceName name)
  | patch pod more =>
    show ∃ p, (w.patch pod more).2.store.find? plan.podNamespace plan.podName = some p ∧ _
    have hpatched := w.patch_store pod more
    generalize (w.patch pod more).1 = result at hpatched
    generalize (w.patch pod more).2.store = st at hpatched ⊢
    cases hpatched with
    | refused e => exact h
    | @written stored hstored hversion =>
      obtain ⟨hns, hname⟩ := Store.isNamed_of_find? hstored
      rw [← hns, ← hname] at hstored
      exact h.put hstored more

/-- A step never takes an annotation away. -/
theorem has_stepAt {key : String} (h : Has plan key w) :
    Has plan key (stepAt clock plan (w, n) pod).after.1 := by
  have hcall : ∀ (c : Call) (s : World × Nat), c.isDeletion = false → Has plan key s.1 →
      Has plan key (World.answerAt clock c s).2.1 := by
    intro c s hc h
    obtain ⟨w, n⟩ := s
    by_cases hnow : c = .now
    · subst hnow
      exact h
    · rw [World.answerAt_of_ne_now hnow]
      exact has_answer hc h
  have hasks := tick_deletes_nothing plan.target plan.timeout plan.retryDelay (some pod)
  exact hasks.keeps (P := fun s : World × Nat => Has plan key s.1) hcall (s := (w, n)) h

/-- Once there is a start mark, every later step finds one. -/
theorem Run.has (hrun : Run clock plan seen s steps s') (h : Has plan Pod.startKey s.1)
    (hstep : step ∈ steps) : Has plan Pod.startKey step.before.1 := by
  induction hrun with
  | nil seen s => cases hstep
  | @cons seen s s' steps p q pod w hp hq hstart hcomplete hread hcopy hunfound hrest ih =>
    have hw : Has plan Pod.startKey w := by
      obtain ⟨p', hp', hhas⟩ := h
      obtain rfl : p = p' := Option.some.inj (hp.symm.trans hp')
      exact ⟨q, hq, (Pod.hasAnnotation_congr hstart).trans hhas⟩
    rcases List.mem_cons.1 hstep with rfl | hstep
    · exact hw
    · exact ih (has_stepAt hw) hstep

/-! ## Waiting

Pods that were read before the mark was written may come up at any later step. They lack the mark,
but they cannot be given another one. -/

/-- A pod of the plan that is not confirmed and has no start mark but possibly that of `t₀`. -/
structure Open (plan : Plan) (t₀ : Instant) (p : Pod) : Prop where
  named : Store.isNamed plan.podNamespace plan.podName p = true
  start : p.annotation? Pod.startKey = none ∨ p.annotation? Pod.startKey = some (markText t₀)
  unconfirmed : p.isMarked Pod.completeKey = false

/-- A copy that is up to date is the stored pod. -/
theorem Open.stored (h : Open plan t₀ pod) (hq : plan.stored w = some q)
    (hcurrent : w.store.find? pod.namespaceName pod.name = some pod) : q = pod := by
  obtain ⟨hns, hname⟩ := Store.isNamed_iff.1 h.named
  rw [hns, hname] at hcurrent
  exact Option.some.inj (hq.symm.trans hcurrent)

/-- Within the time since its start mark an open pod is not found deletable, and it stays as it is
stored. -/
theorem stepAt_waits (clock : Nat → Instant) (n : Nat) (htimeout : 0 < plan.timeout.nanoseconds)
    (hcopy : w.store.Copies pod) (hunfound : Unfound plan.target w pod) (hpod : Open plan t₀ pod)
    (hq : plan.stored w = some q)
    (hmark : q.annotation? Pod.startKey = some (markText t₀))
    (hwithin : ∀ i, n ≤ i → i < (stepAt clock plan (w, n) pod).after.2 →
      (clock i).since t₀.wholeSecond < plan.timeout.nanoseconds) :
    (stepAt clock plan (w, n) pod).outcome.isDeletable = false ∧
      (stepAt clock plan (w, n) pod).after.1.store = w.store := by
  obtain ⟨answered, st, hmarked, hends⟩ :=
    tick_unfound hcopy hunfound hpod.unconfirmed (stepAt_ticked clock plan (w, n) pod)
  cases hmarked with
  | refused e =>
    rcases hends with hwaits | ⟨p, -, -, -, hp, -⟩
    · exact hwaits
    · cases hp
  | written hlacks hcurrent =>
    -- the stored pod has its mark already
    rw [hpod.stored hq hcurrent, Pod.annotation?_eq_none hlacks] at hmark
    cases hmark
  | present hhas =>
    rcases hends with hwaits | ⟨p, text, start, i, hp, htext, hread, hle, hlt, hover, -⟩
    · exact hwaits
    · cases hp
      rcases hpod.start with hnone | hsome
      · rw [hnone] at htext
        cases htext
      · rw [hsome] at htext
        rw [← Option.some.inj htext] at hread
        obtain rfl := wholeSecond_of_read_markText hread
        exact absurd ((Instant.elapsed_lt_iff (Or.inl htimeout)).2 (hwithin i hle hlt)) hover

/-- **After the mark.** As long as no reading is past the window, no step finds the pod
deletable. -/
theorem Run.waits (hrun : Run clock plan seen s steps s') (htimeout : 0 < plan.timeout.nanoseconds)
    (hstored : ∀ p, plan.stored s.1 = some p →
      p.annotation? Pod.startKey = some (markText t₀) ∧ p.isMarked Pod.completeKey = false)
    (hseen : ∀ p ∈ seen, Open plan t₀ p) (hstep : step ∈ steps)
    (hwithin : ∀ i, s.2 ≤ i → i < step.after.2 →
      (clock i).since t₀.wholeSecond < plan.timeout.nanoseconds) :
    step.outcome.isDeletable = false := by
  induction hrun with
  | nil seen s => cases hstep
  | @cons seen s s' steps p q pod w hp hq hstart hcomplete hread hcopy hunfound hrest ih =>
    obtain ⟨hmark, hopen⟩ := hstored p hp
    have hqmark : q.annotation? Pod.startKey = some (markText t₀) := hstart.trans hmark
    have hqopen : q.isMarked Pod.completeKey = false :=
      (Pod.isMarked_congr hcomplete).trans hopen
    have hseen' : ∀ r ∈ q :: p :: seen, Open plan t₀ r := by
      intro r hr
      rcases List.mem_cons.1 hr with rfl | hr
      · exact ⟨Store.isNamed_iff.2 (Store.isNamed_of_find? hq), Or.inr hqmark, hqopen⟩
      · rcases List.mem_cons.1 hr with rfl | hr
        · exact ⟨Store.isNamed_iff.2 (Store.isNamed_of_find? hp), Or.inr hmark, hopen⟩
        · exact hseen r hr
    -- The first step stores nothing and finds the pod not deletable as long as its readings are
    -- early.
    have hwaits := fun hwithin' =>
      stepAt_waits clock s.2 htimeout hcopy hunfound (hseen' pod hread) hq hqmark
        hwithin'
    rcases List.mem_cons.1 hstep with rfl | hstep
    · exact (hwaits hwithin).1
    · -- a later step: the readings of the first come before its own, so they are early as well
      have hreadings := hrest.readings_le hstep
      have hle := stepAt_readings_le clock plan (w, s.2) pod
      refine ih ?_ hseen' hstep fun i hi hlt => hwithin i (Nat.le_trans hle hi) hlt
      have hstore := (hwaits fun i hi hlt => hwithin i hi (by omega)).2
      intro r hr
      rw [Drain.stored_congr plan hstore, hq] at hr
      cases hr
      exact ⟨hqmark, hqopen⟩

/-! ## Writing the mark -/

/-- A pod of the plan that is not confirmed and has no start mark. -/
structure Fresh (plan : Plan) (p : Pod) : Prop where
  named : Store.isNamed plan.podNamespace plan.podName p = true
  start : p.annotation? Pod.startKey = none
  unconfirmed : p.isMarked Pod.completeKey = false

theorem Fresh.open (h : Fresh plan pod) (t : Instant) : Open plan t pod :=
  ⟨h.named, Or.inl h.start, h.unconfirmed⟩

/-- The stored pod keeps its annotations when another mark is written, or not. -/
theorem Has.marked {key mark value : String} {answered : Except PodStoreError Pod} {st : Store}
    (h : Has plan key w) (hmarked : w.store.Marked pod mark value answered st) :
    ∃ p, st.find? plan.podNamespace plan.podName = some p ∧ p.hasAnnotation key = true := by
  cases hmarked with
  | present hhas => exact h
  | refused e => exact h
  | written hlacks hcurrent => exact h.put hcurrent _

/-- A step on a pod without a start mark stores nothing, or it writes the mark with its first
reading, and as long as that is not long ago, it does nothing else. -/
theorem stepAt_fresh (clock : Nat → Instant) (n : Nat) (htimeout : 0 < plan.timeout.nanoseconds)
    (hcopy : w.store.Copies pod) (hunfound : Unfound plan.target w pod) (hpod : Fresh plan pod)
    (hq : plan.stored w = some q) :
    ((stepAt clock plan (w, n) pod).outcome.isDeletable = false ∧
        (stepAt clock plan (w, n) pod).after.1.store = w.store) ∨
      Has plan Pod.startKey (stepAt clock plan (w, n) pod).after.1 ∧
        ((∀ i, n ≤ i → i < (stepAt clock plan (w, n) pod).after.2 →
            (clock i).since (clock n).wholeSecond < plan.timeout.nanoseconds) →
          (stepAt clock plan (w, n) pod).outcome.isDeletable = false ∧
            ∀ p, plan.stored (stepAt clock plan (w, n) pod).after.1 = some p →
              p.annotation? Pod.startKey = some (markText (clock n)) ∧
                p.isMarked Pod.completeKey = false) := by
  obtain ⟨answered, st, hmarked, hends⟩ :=
    tick_unfound hcopy hunfound hpod.unconfirmed (stepAt_ticked clock plan (w, n) pod)
  generalize stepAt clock plan (w, n) pod = made at hends ⊢
  cases hmarked with
  | present hhas =>
    obtain ⟨text, htext⟩ := Option.isSome_iff_exists.1 hhas
    rw [show pod.annotations.get? Pod.startKey = none from hpod.start] at htext
    cases htext
  | refused e =>
    rcases hends with hwaits | ⟨p, -, -, -, hp, -⟩
    · exact Or.inl hwaits
    · cases hp
  | written hlacks hcurrent =>
    -- The step has written its first reading, as a whole second, and the decision compares with
    -- that.
    obtain rfl : q = pod := (hpod.open (clock n)).stored hq hcurrent
    let w₁ : World :=
      { w with store := w.store.put (q.annotate (.single Pod.startKey (markText (clock n)))) }
    let p₁ := w.store.nextVersion (q.annotate (.single Pod.startKey (markText (clock n))))
    have hstored : plan.stored w₁ = some p₁ := Drain.stored_put hq Pod.startKey (markText (clock n))
    have hmark : p₁.annotation? Pod.startKey = some (markText (clock n)) := by
      rw [World.annotation?_written, if_pos rfl]
    have hother : p₁.annotation? Pod.completeKey = q.annotation? Pod.completeKey := by
      rw [World.annotation?_written, if_neg (by decide)]
    have hopen : p₁.isMarked Pod.completeKey = false :=
      (Pod.isMarked_congr hother).trans hpod.unconfirmed
    have hhas : Has plan Pod.startKey w₁ := ⟨p₁, hstored, Pod.hasAnnotation_of_some hmark⟩
    rcases hends with ⟨hwaits, hstore⟩ | ⟨p, text, start, i, hp, htext, hread, hle, hlt, hover,
      value, completed, hcompleted⟩
    · have hafter : plan.stored made.after.1 = some p₁ := by
        rw [← hstored]
        exact Drain.stored_congr plan (w := w₁) hstore
      refine Or.inr ⟨?_, fun _ => ⟨hwaits, fun p hp => ?_⟩⟩
      · obtain ⟨p, hp, hhas⟩ := hhas
        exact ⟨p, hafter.trans (hstored.symm.trans hp), hhas⟩
      · rw [hafter] at hp
        cases hp
        exact ⟨hmark, hopen⟩
    · -- It ended all the same: then some reading was no longer within the window.
      refine Or.inr ⟨hhas.marked hcompleted, fun hwithin => ?_⟩
      cases hp
      rw [show p₁.annotation? Pod.startKey = _ from hmark] at htext
      rw [← Option.some.inj htext] at hread
      obtain rfl := wholeSecond_of_read_markText hread
      exact absurd ((Instant.elapsed_lt_iff (Or.inl htimeout)).2 (hwithin i hle hlt)) hover

/-- The step has written the start mark. -/
def Step.WritesStart (step : Step) (plan : Plan) : Prop :=
  ¬Has plan Pod.startKey step.before.1 ∧ Has plan Pod.startKey step.after.1

instance (step : Step) (plan : Plan) : Decidable (step.WritesStart plan) :=
  inferInstanceAs (Decidable (_ ∧ _))

/-- **Up to the mark and after it.** Induction on the run: as long as the mark cannot be written the
pods stay fresh, and from the step that writes it on, the pods are open. -/
theorem Run.kept (hrun : Run clock plan seen s steps s') (htimeout : 0 < plan.timeout.nanoseconds)
    (hstored : ∀ p, plan.stored s.1 = some p → Fresh plan p) (hseen : ∀ p ∈ seen, Fresh plan p)
    (hwrote : wrote ∈ steps) (hwrites : wrote.WritesStart plan) (hstep : step ∈ steps)
    (hwithin : ∀ i, wrote.before.2 ≤ i → i < step.after.2 →
      (clock i).since (clock wrote.before.2).wholeSecond < plan.timeout.nanoseconds) :
    step.outcome.isDeletable = false := by
  induction hrun with
  | nil seen s => cases hstep
  | @cons seen s s' steps p q pod w hp hq hstart hcomplete hread hcopy hunfound hrest ih =>
    have hpfresh := hstored p hp
    have hqfresh : Fresh plan q :=
      ⟨Store.isNamed_iff.2 (Store.isNamed_of_find? hq), hstart.trans hpfresh.start,
        (Pod.isMarked_congr hcomplete).trans hpfresh.unconfirmed⟩
    have hseen' : ∀ r ∈ q :: p :: seen, Fresh plan r :=
      List.forall_mem_cons.2 ⟨hqfresh, List.forall_mem_cons.2 ⟨hpfresh, hseen⟩⟩
    have hlater : ∀ later ∈ steps, (stepAt clock plan (w, s.2) pod).after.2 ≤ later.after.2 :=
      fun later hmem => Nat.le_trans (hrest.readings_le hmem).1 (hrest.readings_le hmem).2
    rcases stepAt_fresh clock s.2 htimeout hcopy hunfound (hseen' pod hread) hq with
      ⟨hwaits, hstore⟩ | ⟨hhas, hwindow⟩
    · -- nothing is stored, so this is not yet the step that writes the mark
      have hafter : plan.stored (stepAt clock plan (w, s.2) pod).after.1 = some q :=
        (Drain.stored_congr plan hstore).trans hq
      have hwrote' : wrote ∈ steps := by
        rcases List.mem_cons.1 hwrote with rfl | hwrote
        · obtain ⟨-, r, hr, hhas⟩ := hwrites
          rw [hafter] at hr
          cases hr
          unfold Pod.hasAnnotation Annotations.contains at hhas
          rw [show q.annotations.get? Pod.startKey = none from hqfresh.start] at hhas
          cases hhas
        · exact hwrote
      rcases List.mem_cons.1 hstep with rfl | hstep
      · exact hwaits
      · refine ih ?_ hseen' hwrote' hstep
        intro r hr
        rw [hafter] at hr
        cases hr
        exact hqfresh
    · rcases List.mem_cons.1 hwrote with rfl | hwrote
      · rcases List.mem_cons.1 hstep with rfl | hstep
        · exact (hwindow hwithin).1
        · have hhead := hlater step hstep
          refine hrest.waits htimeout
            (hwindow fun i hi hlt => hwithin i hi (Nat.lt_of_lt_of_le hlt hhead)).2
            (fun r hr => (hseen' r hr).open _) hstep fun i hi hlt => hwithin i ?_ hlt
          exact Nat.le_trans (stepAt_readings_le clock plan (w, s.2) pod) hi
      · exact absurd (hrest.has hhas hwrote) hwrites.1

/-- **The grace window is kept.** Take a run of steps on a pod that is not confirmed and has no
start mark, whose runner is never found, with any readings of the clock and any failures to write,
on copies of the pod that may be out of date. If `wrote` is the step that has written the mark, no
step finds the pod deletable as long as no reading since then has been the timeout or more past the
second in which the mark was written. -/
theorem grace_window_kept {p : Pod} (hrun : Run clock plan [] s steps s')
    (htimeout : 0 < plan.timeout.nanoseconds) (hp : plan.stored s.1 = some p)
    (hfresh : p.annotation? Pod.startKey = none) (hopen : p.isMarked Pod.completeKey = false)
    (hwrote : wrote ∈ steps) (hwrites : wrote.WritesStart plan) (hstep : step ∈ steps)
    (hwithin : ∀ i, wrote.before.2 ≤ i → i < step.after.2 →
      (clock i).since (clock wrote.before.2).wholeSecond < plan.timeout.nanoseconds) :
    step.outcome.isDeletable = false := by
  refine hrun.kept htimeout (fun q hq => ?_) nofun hwrote hwrites hstep hwithin
  rw [hp] at hq
  cases hq
  exact ⟨Store.isNamed_iff.2 (Store.isNamed_of_find? hp), hfresh, hopen⟩

/-- The mark is written late in its second, and the clock is read again just before the window
closes. -/
def patientClock (i : Nat) : Instant :=
  if i < 2 then moment 0 900000000 else moment 59 999999999

/-- The last reading is a nanosecond before the end of the window, counted from the whole second. -/
theorem grace_window_kept_to_the_end :
    ∃ wrote ∈ freshSteps patientClock minutePlan 2 (lonely lonelyPod, 0),
      wrote.WritesStart minutePlan ∧
        ∀ step ∈ freshSteps patientClock minutePlan 2 (lonely lonelyPod, 0),
          step.outcome.isDeletable = false := by
  obtain ⟨s', hrun⟩ := run_freshSteps 2 [] (lonely lonelyPod, 0)
    (show ∀ step ∈ freshSteps patientClock minutePlan 2 (lonely lonelyPod, 0), _ by decide +kernel)
  have hreadings : ∃ wrote ∈ freshSteps patientClock minutePlan 2 (lonely lonelyPod, 0),
      wrote.WritesStart minutePlan ∧
        ∀ step ∈ freshSteps patientClock minutePlan 2 (lonely lonelyPod, 0),
          ∀ i < step.after.2, wrote.before.2 ≤ i →
            (patientClock i).since (patientClock wrote.before.2).wholeSecond <
              minutePlan.timeout.nanoseconds := by
    decide +kernel
  obtain ⟨wrote, hwrote, hwrites, hwithin⟩ := hreadings
  have hstored : ∃ p, minutePlan.stored (lonely lonelyPod) = some p ∧
      p.annotation? Pod.startKey = none ∧ p.isMarked Pod.completeKey = false :=
    ⟨{ lonelyPod with version := some "1" }, by decide +kernel, rfl, rfl⟩
  obtain ⟨p, hp, hfresh, hopen⟩ := hstored
  refine ⟨wrote, hwrote, hwrites, fun step hstep => ?_⟩
  exact grace_window_kept hrun (by decide) hp hfresh hopen hwrote hwrites hstep
    fun i hi hlt => hwithin step hstep i hlt hi

/-! ### Windows that are cut short -/

/-- Some step finds the pod deletable although none of its readings is the timeout past the one with
which the mark was written. -/
def CutShort (clock : Nat → Instant) (plan : Plan) (w : World) : Prop :=
  0 < plan.timeout.nanoseconds ∧ ¬Has plan Pod.startKey w ∧
    ∃ steps s', Run clock plan [] (w, 0) steps s' ∧
      ∃ wrote ∈ steps, wrote.WritesStart plan ∧ ∃ step ∈ steps, step.outcome.isDeletable = true ∧
        ∀ i < step.after.2, step.before.2 ≤ i →
          (clock i).since (clock wrote.before.2) < plan.timeout.nanoseconds

/-- The mark is written late in its second, and the clock is read again somewhat earlier in the
second in which the minute is over. -/
def hastyClock (i : Nat) : Instant :=
  if i < 2 then moment 0 900000000 else moment 60 500000000

/-- The clock is set back when the minute is over. -/
def setBackClock (i : Nat) : Instant :=
  if i < 2 then moment 0 0 else if i < 5 then moment 60 0 else moment 10 0

/-- A pod that has been confirmed, but whose start mark is not there. -/
def confirmedPod : Pod :=
  { lonelyPod with annotations := .single Pod.completeKey "1970-01-01T00:00:00Z" }

/-- Three pods that are deletable before their time: the mark of the first was written late in its
second, the second was confirmed before, and for the third the clock is set back once it has been
confirmed. -/
theorem grace_window_cut_short :
    CutShort hastyClock minutePlan (lonely lonelyPod) ∧
      CutShort (fun _ => .epoch) minutePlan (lonely confirmedPod) ∧
        CutShort setBackClock minutePlan (lonely lonelyPod) := by
  have hcut : ∀ (clock : Nat → Instant) (k : Nat) (w : World), ¬Has minutePlan Pod.startKey w →
      (∀ step ∈ freshSteps clock minutePlan k (w, 0),
        isDeserted step.before.1 = true ∧ step.pod.isStopped = false) →
      (∃ wrote ∈ freshSteps clock minutePlan k (w, 0), wrote.WritesStart minutePlan ∧
        ∃ step ∈ freshSteps clock minutePlan k (w, 0), step.outcome.isDeletable = true ∧
          ∀ i < step.after.2, step.before.2 ≤ i →
            (clock i).since (clock wrote.before.2) < minutePlan.timeout.nanoseconds) →
      CutShort clock minutePlan w := by
    intro clock k w hlacks hlonely hends
    obtain ⟨s', hrun⟩ := run_freshSteps k [] (w, 0) hlonely
    exact ⟨by decide, hlacks, _, s', hrun, hends⟩
  refine ⟨hcut hastyClock 2 _ ?_ ?_ ?_, hcut _ 1 _ ?_ ?_ ?_, hcut setBackClock 3 _ ?_ ?_ ?_⟩
  all_goals decide +kernel

end Quiesce.Grace
