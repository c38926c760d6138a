import Quiesce.Proofs.GraceRuns

/-!
# The grace window closes

In a world without failures, every step on a pod whose runner is never found is decided by the start
mark of the very first one. Since the mark is written once and read back as the second in which it
was written, it does not matter which controller makes a step, or whether one was restarted: the
pod waits out one window, is found deletable by the first step after it and by every later one, and
has been patched twice by then.

* `stepAt_open` says what a step does to a pod that is not confirmed, `stepAt_confirmed` what it
  does to one that is.
* `grace_window_closes` is the main statement, about runs.
-/

namespace Quiesce

/-! ## Calls that mark -/

/-- Whether the call writes an annotation of that name. -/
def Call.marks (key : String) : Call → Bool
  | .patch _ more => more.contains key
  | _ => false

/-- What leaves the pods alone writes no mark. -/
theorem Call.marks_of_sparesPods (key : String) {c : Call} (h : c.sparesPods) :
    c.marks key = false := by
  cases c with
  | patch pod more => exact h.elim
  | list scope => rfl
  | remove scope id => rfl
  | get namespaceName name => rfl
  | delete pod => rfl
  | now => rfl

theorem marks_single (key name value : String) (pod : Pod) :
    Call.marks name (.patch pod (.single key value)) = decide (key = name) := by
  show (Annotations.get? (.single key value) name).isSome = _
  unfold Annotations.single
  rw [Annotations.get?_insert]
  by_cases h : key = name
  · rw [if_pos h, decide_eq_true h]
    rfl
  · rw [if_neg h, decide_eq_false h]
    rfl

/-! ## The parts of a step -/

section Step

variable {clock : Nat → Instant} {target : Target} {timeout retryDelay : Duration} {w : World}
  {n : Nat} {pod : Pod} {key : String}

/-- Annotating a pod is one patch, or nothing if the annotation is there. -/
theorem annotateOnce_calls (pod : Pod) (key value : String) (w : World) :
    ((annotateOnce pod key value).run World.answer w).calls =
      if pod.hasAnnotation key then [] else [.patch pod (.single key value)] := by
  unfold annotateOnce
  cases pod.hasAnnotation key with
  | true => rfl
  | false => rfl

/-- Without a failure to come for it the stored pod is marked, if it is not already. -/
theorem markPod_unrefused (clock : Nat → Instant) (n : Nat) (key : String)
    (hqueue : w.faults.patch = [])
    (hcurrent : w.store.find? pod.namespaceName pod.name = some pod) :
    ∃ p w₁, (markPod key (some pod)).run (World.answerAt clock) (w, n) =
        ⟨.ok (some p), .now :: if pod.hasAnnotation key then []
          else [.patch pod (.single key (markText (clock n)))], w₁, n + 1⟩ ∧
      w.store.Marked pod key (markText (clock n)) (.ok p) w₁.store ∧
      w₁.runners = w.runners ∧ w₁.faults = w.faults := by
  have hannotated := World.annotateOnce_current key (markText (clock n)) hcurrent
  have hcalls := annotateOnce_calls pod key (markText (clock n)) w
  rw [World.markPod_at]
  cases hrun : (annotateOnce pod key (markText (clock n))).run World.answer w with
  | mk answered calls w₁ =>
    rw [hrun] at hannotated hcalls
    dsimp only at hannotated hcalls
    cases hannotated with
    | present hhas =>
      refine ⟨pod, w, ?_, .present hhas, rfl, rfl⟩
      rw [← hcalls]
      rfl
    | refused hlacks e rest hq =>
      rw [hqueue] at hq
      cases hq
    | written hlacks hq =>
      refine ⟨_, { w with store := _ }, ?_, .written hlacks hcurrent, rfl, rfl⟩
      rw [← hcalls]
      rfl

/-- Without failures a runner that is not to be found is not there. -/
theorem World.unregister_absent {id : Option Int64} (hfaults : w.faults = .none)
    (h : w.Misses target id) :
    ((unregister target id).run World.answer w).value = .notFound ∧
      ((unregister target id).run World.answer w).state = w := by
  have hremove : ∀ n, w.Refuses n → w.remove n = (.error (World.unknownRunner n), w) := by
    rintro n ⟨e, he, -⟩
    unfold World.remove at he ⊢
    rw [hfaults] at he ⊢
    dsimp only [Faults.none] at he ⊢
    by_cases hany : w.runners.any (·.id = some n) = true
    · rw [if_pos hany] at he
      cases he
    · rw [if_neg hany]
  cases id with
  | some n =>
    show Removal.ofAnswer (w.remove n).1 = .notFound ∧ (w.remove n).2 = w
    rw [hremove n h]
    exact ⟨rfl, rfl⟩
  | none =>
    have hlist : w.faults.list = [] := congrArg Faults.list hfaults
    unfold World.Misses at h
    rw [World.list_unfailing hlist] at h
    unfold unregister
    simp only [Program.bind_eq, Program.run_bind, World.findRunner_unfailing hlist]
    cases hid : (firstNamed target.name w.runners).bind (·.id) with
    | none => exact ⟨rfl, rfl⟩
    | some n =>
      show Removal.ofAnswer (w.remove n).1 = .notFound ∧ (w.remove n).2 = w
      rw [hremove n (h n hid)]
      exact ⟨rfl, rfl⟩

/-- Without failures an undecided pod is decided by one reading of the clock, and nothing else
happens. -/
theorem ensureUnregistered_pending (timeout retryDelay : Duration) (clock : Nat → Instant) (n : Nat)
    (hfaults : w.faults = .none) (h : Unfound target w pod)
    (hopen : pod.isMarked Pod.completeKey = false) {id : Option Int64}
    (hid : recordedId (some pod) = .ok id) {text : String} {start : Instant}
    (htext : pod.annotation? Pod.startKey = some text) (hread : Timestamp.read text = .ok start) :
    ∃ calls, (ensureUnregistered target timeout retryDelay (some pod)).run (World.answerAt clock)
        (w, n) =
        ⟨if (clock n).elapsed start < timeout then .requeue retryDelay none else .deletable,
          calls, w, n + 1⟩ ∧
      ∀ key, calls.countP (Call.marks key) = 0 := by
  have hmark : pod.mark? Pod.startKey = some text := by
    obtain ⟨text', hmark, -⟩ := Pod.Began.mark? ⟨text, htext, hread⟩
    have htext' := (Option.filter_eq_some_iff.1 hmark).1
    rw [htext] at htext'
    rwa [Option.some.inj htext']
  obtain ⟨hvalue, hstate⟩ := World.unregister_absent hfaults (h.missed id hid)
  have hrun : (ensureUnregistered target timeout retryDelay (some pod)).run (World.answerAt clock)
      (w, n) =
      ⟨if (clock n).elapsed start < timeout then .requeue retryDelay none else .deletable,
        ((unregister target id).run World.answer w).calls ++ [.now], w, n + 1⟩ := by
    unfold ensureUnregistered
    rw [if_neg (by simp [hopen]), hid]
    simp only [Program.bind_eq, Program.run_bind,
      World.run_answerAt_of_registry (unregister_asksRegistry target id), hvalue, hstate]
    rw [decideNotFound_marked timeout retryDelay h.live hmark,
      decideByStart_at timeout retryDelay hread]
  -- The calls go to the registry and to the clock, so none of them writes a mark.
  refine ⟨_, hrun, fun key => List.countP_eq_zero.2 fun c hc => ?_⟩
  have hasks := ensureUnregistered_sparesPods target timeout retryDelay (some pod)
  have hspares : c.sparesPods := by
    have hcalls := congrArg Outcome.calls hrun
    dsimp only at hcalls
    rw [← hcalls] at hc
    exact hasks.calls hc
  rw [Call.marks_of_sparesPods key hspares]
  decide

end Step

namespace Grace

open Drain (Plan)

variable {clock : Nat → Instant} {plan : Plan} {seen : List Pod} {s s' : World × Nat}
  {steps : List Step} {step : Step} {w : World} {n : Nat} {pod : Pod} {text : String}
  {start : Instant}

/-! ## Steps on open and on confirmed pods -/

/-- Marking a pod writes the mark once if it is not there, and no other mark. -/
theorem countP_marked (pod : Pod) (key value name : String) :
    (Call.now :: if pod.hasAnnotation key then []
      else [.patch pod (.single key value)]).countP (Call.marks name) =
      if pod.hasAnnotation key = false ∧ key = name then 1 else 0 := by
  rw [List.countP_cons_of_neg (show ¬Call.marks name .now = true from Bool.false_ne_true)]
  cases pod.hasAnnotation key with
  | true => rfl
  | false =>
    show List.countP (Call.marks name) [.patch pod (.single key value)] = _
    by_cases hname : key = name
    · rw [List.countP_cons_of_pos (by rw [marks_single, decide_eq_true hname]), if_pos ⟨rfl, hname⟩]
      rfl
    · rw [List.countP_cons_of_neg (by rw [marks_single, decide_eq_false hname]; decide),
        if_neg fun h => hname h.2]
      rfl

/-- The stored pod after a mark went through. -/
theorem stored_marked {w₁ : World} {p : Pod} {key value : String} (hp : plan.stored w = some pod)
    (hmarked : w.store.Marked pod key value (.ok p) w₁.store) :
    plan.stored w₁ = some p ∧ p.annotation? key = some ((pod.annotation? key).getD value) := by
  obtain ⟨hstored, -, htext⟩ := hmarked.current (Drain.stored_current hp)
  obtain ⟨hns, hname⟩ := Store.isNamed_of_find? (p := pod) hp
  rw [hns, hname] at hstored
  exact ⟨hstored, by rw [htext, if_pos rfl]⟩

/-- A step of a run is a step on the readings that are left of the clock. -/
theorem stepAt_eq {o : Outcome (World × Nat) TickOutcome}
    (hrun : (tick plan.target plan.timeout plan.retryDelay (some pod)).run (World.answerAt clock)
      (w, n) = o) :
    stepAt clock plan (w, n) pod = ⟨(w, n), pod, o.value, o.calls, o.state⟩ := by
  unfold stepAt
  rw [hrun]

/-- **A step on the stored pod that is not confirmed.** The start mark is written if it is not there
yet, and then the time since the mark decides: the pod has to wait, or it is confirmed. -/
theorem stepAt_open (clock : Nat → Instant) (n : Nat) (hfaults : w.faults = .none)
    (hp : plan.stored w = some pod) (h : Unfound plan.target w pod) {id : Option Int64}
    (hid : recordedId (some pod) = .ok id) (hlacks : pod.hasAnnotation Pod.completeKey = false)
    (htext : (pod.annotation? Pod.startKey).getD (markText (clock n)) = text)
    (hread : Timestamp.read text = .ok start) :
    ∃ p, plan.stored (stepAt clock plan (w, n) pod).after.1 = some p ∧
      p.annotation? Pod.startKey = some text ∧
      n + 1 < (stepAt clock plan (w, n) pod).after.2 ∧
      (stepAt clock plan (w, n) pod).calls.countP (Call.marks Pod.startKey) =
        (if pod.hasAnnotation Pod.startKey = false then 1 else 0) ∧
      ((clock (n + 1)).elapsed start < plan.timeout ∧ p.hasAnnotation Pod.completeKey = false ∧
          (stepAt clock plan (w, n) pod).outcome = .requeue plan.retryDelay none ∧
          (stepAt clock plan (w, n) pod).calls.countP (Call.marks Pod.completeKey) = 0 ∨
        ¬(clock (n + 1)).elapsed start < plan.timeout ∧
          p.annotation? Pod.completeKey = some (markText (clock (n + 2))) ∧
          (stepAt clock plan (w, n) pod).outcome = .deletable (some p) ∧
          (stepAt clock plan (w, n) pod).calls.countP (Call.marks Pod.completeKey) = 1) := by
  have hqueue : w.faults.patch = [] := by
    rw [hfaults]
    rfl
  obtain ⟨p, w₁, hstart, hmarked, hrunners, hsame⟩ :=
    markPod_unrefused clock n Pod.startKey hqueue (Drain.stored_current hp)
  -- Writing the start mark leaves the runner unfound and the pod open.
  have hunfound : Unfound plan.target w₁ p :=
    h.marked (by decide) hrunners (by rw [hsame]) (by rw [hsame]) hmarked
  obtain ⟨hp₁, hptext⟩ := stored_marked hp hmarked
  rw [htext] at hptext
  have hplacks : p.hasAnnotation Pod.completeKey = false :=
    (Pod.hasAnnotation_congr (hmarked.annotation?_other (by decide))).trans hlacks
  have hopen : p.isMarked Pod.completeKey = false := by
    unfold Pod.isMarked Pod.mark?
    rw [Pod.annotation?_eq_none hplacks]
    rfl
  have hid₁ : recordedId (some p) = .ok id :=
    (recordedId_congr (hmarked.annotation?_other (by decide))).trans hid
  -- the decision reads the clock for the second time, and what it says is what that reading says
  obtain ⟨calls, hdecided, hcalls⟩ := ensureUnregistered_pending plan.timeout plan.retryDelay clock
    (n + 1) (hsame.trans hfaults) hunfound hopen hid₁ hptext hread
  have hkeys : Pod.startKey ≠ Pod.completeKey := by decide
  have hstarts := countP_marked pod Pod.startKey (markText (clock n))
  by_cases hwithin : (clock (n + 1)).elapsed start < plan.timeout
  · -- still within the window: the pod that is handed back is the one with the start mark
    rw [if_pos hwithin] at hdecided
    rw [stepAt_eq (tick_waits hstart hdecided)]
    refine ⟨p, hp₁, hptext, Nat.lt_succ_self (n + 1), ?_, Or.inl ⟨hwithin, hplacks, rfl, ?_⟩⟩
    · show List.countP _ (_ ++ _) = _
      rw [List.countP_append, hcalls, hstarts]
      simp
    · show List.countP _ (_ ++ _) = _
      rw [List.countP_append, hcalls, hstarts]
      simp [hkeys]
  · -- the window has closed: the third reading is written down as the complete mark
    rw [if_neg hwithin] at hdecided
    obtain ⟨q, w₂, hcomplete, hmarked₂, -, -⟩ :=
      markPod_unrefused clock (n + 2) Pod.completeKey (by rw [hsame, hqueue])
        (Drain.stored_current hp₁)
    obtain ⟨hq₂, hqtext⟩ := stored_marked hp₁ hmarked₂
    rw [Pod.annotation?_eq_none hplacks, Option.getD_none] at hqtext
    have hcompletes := countP_marked p Pod.completeKey (markText (clock (n + 2)))
    rw [stepAt_eq (tick_completes hstart hdecided hcomplete)]
    refine ⟨q, hq₂, ?_, ?_, ?_, Or.inr ⟨hwithin, hqtext, rfl, ?_⟩⟩
    · rw [hmarked₂.annotation?_other (by decide)]
      exact hptext
    · show n + 1 < n + 3
      omega
    · show List.countP _ (_ ++ (_ ++ _)) = _
      rw [List.countP_append, List.countP_append, hcalls, hstarts, hcompletes]
      simp [hkeys.symm]
    · show List.countP _ (_ ++ (_ ++ _)) = _
      rw [List.countP_append, List.countP_append, hcalls, hstarts, hcompletes, hplacks]
      simp [hkeys]

/-- A step on a pod that has both marks leaves it at that. -/
theorem stepAt_confirmed (clock : Nat → Instant) (plan : Plan) (w : World) (n : Nat)
    (h : pod.Confirmed) :
    stepAt clock plan (w, n) pod =
      ⟨(w, n), pod, .deletable (some pod), [.now, .now], w, n + 2⟩ :=
  stepAt_eq (tick_confirmed _ _ plan.target plan.timeout plan.retryDelay h)

/-! ## Runs -/

/-- The instant at which a step decides: its first reading is for the start mark, and the next one
is compared with it. -/
def Step.time (step : Step) (clock : Nat → Instant) : Instant :=
  clock (step.before.2 + 1)

/-- What a step does on a pod whose start mark, the text, stands for an instant. -/
structure Step.Conforms (step : Step) (clock : Nat → Instant) (plan : Plan) (text : String)
    (start : Instant) : Prop where
  /-- The start mark is stored and stays what it is. -/
  stored : ∃ p, plan.stored step.after.1 = some p ∧ p.annotation? Pod.startKey = some text
  /-- Within the window the pod has to wait. -/
  waits : (step.time clock).since start < plan.timeout.nanoseconds →
    step.outcome = .requeue plan.retryDelay none
  /-- When the window is over the pod may go, with both marks. -/
  ends : plan.timeout.nanoseconds ≤ (step.time clock).since start →
    ∃ p completed, step.outcome = .deletable (some p) ∧
      p.annotation? Pod.startKey = some text ∧ p.annotation? Pod.completeKey = some completed

/-- How often a run writes an annotation. -/
def writes (key : String) (steps : List Step) : Nat :=
  (steps.flatMap (·.calls)).countP (Call.marks key)

/-- The writes of a run are those of its first step and of the rest. -/
theorem writes_cons (key : String) (step : Step) (steps : List Step) :
    writes key (step :: steps) = step.calls.countP (Call.marks key) + writes key steps := by
  unfold writes
  rw [List.flatMap_cons, List.countP_append]

/-- Nothing disturbs a step: it is made on the pod as it is stored, in a world that makes no call
fail, and the pod records a number that can be read, or none. -/
structure Step.Undisturbed (step : Step) (plan : Plan) : Prop where
  fresh : plan.stored step.before.1 = some step.pod
  faultless : step.before.1.faults = .none
  recorded : ∃ id, recordedId (some step.pod) = .ok id

/-- A clock that never goes back, outside leap seconds. -/
structure Steady (clock : Nat → Instant) : Prop where
  regular : ∀ i, (clock i).inLeapSecond = false
  forward : ∀ i j, i ≤ j → (clock i).nanoseconds ≤ (clock j).nanoseconds

/-- On a steady clock the time since a moment never decreases. -/
theorem Steady.since_le (h : Steady clock) (hstart : start.inLeapSecond = false) {i j : Nat}
    (hij : i ≤ j) : (clock i).since start ≤ (clock j).since start := by
  have hforward := h.forward i j hij
  rw [Instant.since_regular (h.regular i) hstart, Instant.since_regular (h.regular j) hstart]
  omega

/-- Once the pod is confirmed and the window is over, it stays as it is. -/
theorem Run.confirmed (hrun : Run clock plan seen s steps s')
    (hsteps : ∀ step ∈ steps, step.Undisturbed plan)
    (hstored : ∀ p, plan.stored s.1 = some p →
      p.annotation? Pod.startKey = some text ∧ p.isMarked Pod.completeKey = true)
    (hover : ∀ i, s.2 ≤ i → plan.timeout.nanoseconds ≤ (clock i).since start) :
    (∀ step ∈ steps, step.Conforms clock plan text start) ∧ ∀ key, writes key steps = 0 := by
  -- By induction on the run: a step leaves the confirmed pod stored, with the same marks.
  induction hrun with
  | nil seen s => exact ⟨fun step hstep => absurd hstep List.not_mem_nil, fun key => rfl⟩
  | @cons seen s s' steps p q pod w hp hq hstart hcomplete hread hcopy hunfound hrest ih =>
    obtain ⟨hhead, htail⟩ := List.forall_mem_cons.1 hsteps
    obtain rfl : q = pod := Option.some.inj (hq.symm.trans hhead.fresh)
    obtain ⟨hptext, hpmarked⟩ := hstored p hp
    have hqtext : q.annotation? Pod.startKey = some text := hstart.trans hptext
    have hqmarked : q.isMarked Pod.completeKey = true :=
      (Pod.isMarked_congr hcomplete).trans hpmarked
    have hmade := stepAt_confirmed clock plan w s.2
      ⟨Pod.hasAnnotation_of_some hqtext, hqmarked⟩
    rw [hmade] at ih ⊢
    have hq' : ∀ r, plan.stored w = some r →
        r.annotation? Pod.startKey = some text ∧ r.isMarked Pod.completeKey = true := by
      intro r hr
      obtain rfl : q = r := Option.some.inj (hq.symm.trans hr)
      exact ⟨hqtext, hqmarked⟩
    obtain ⟨hconforms, hwrites⟩ := ih htail hq' fun i hi => hover i (by
      show s.2 ≤ i
      have : s.2 + 2 ≤ i := hi
      omega)
    obtain ⟨completed, hcompleted⟩ := Option.isSome_iff_exists.1 hqmarked
    refine ⟨List.forall_mem_cons.2 ⟨⟨⟨q, hq, hqtext⟩, fun hlt => ?_, fun _ => ?_⟩, hconforms⟩,
      fun key => ?_⟩
    · exact absurd hlt (Int.not_lt.2 (hover (s.2 + 1) (Nat.le_succ s.2)))
    · exact ⟨q, completed, rfl, hqtext, (Option.filter_eq_some_iff.1 hcompleted).1⟩
    · rw [writes_cons, hwrites key]
      rfl

/-- **A run on a pod that is not confirmed conforms to its start mark**, the one that the pod has or
the one that it is about to be given. Induction on the run: a step within the window leaves such a
pod behind, and what follows the first step after the window is `Run.confirmed`. -/
theorem Run.closes (hrun : Run clock plan seen s steps s')
    (hsteps : ∀ step ∈ steps, step.Undisturbed plan) (hclock : Steady clock)
    (hread : Timestamp.read text = .ok start) (hstart : start.inLeapSecond = false)
    (hpast : 0 ≤ (clock s.2).since start)
    (hstored : ∀ p, plan.stored s.1 = some p → p.hasAnnotation Pod.completeKey = false ∧
      (p.annotation? Pod.startKey).getD (markText (clock s.2)) = text) :
    (∀ step ∈ steps, step.Conforms clock plan text start) ∧
      (∀ p, plan.stored s.1 = some p → writes Pod.startKey steps =
        if p.hasAnnotation Pod.startKey = false ∧ steps ≠ [] then 1 else 0) ∧
      writes Pod.completeKey steps = if steps.any (·.outcome.isDeletable) then 1 else 0 := by
  induction hrun with
  | nil seen s =>
    refine ⟨fun step hstep => absurd hstep List.not_mem_nil, fun p _ => ?_, rfl⟩
    rw [if_neg fun h => h.2 rfl]
    rfl
  | @cons seen s s' steps p q pod w hp hq hqstart hqcomplete hreadpod hcopy hunfound hrest ih =>
    obtain ⟨⟨hfresh, hfaultless, hrecorded⟩, htail⟩ := List.forall_mem_cons.1 hsteps
    obtain rfl : q = pod := Option.some.inj (hq.symm.trans hfresh)
    have hnone : w.faults = .none := hfaultless
    obtain ⟨id, hid⟩ : ∃ id, recordedId (some q) = .ok id := hrecorded
    obtain ⟨hplacks, hptext⟩ := hstored p hp
    have hqlacks : q.hasAnnotation Pod.completeKey = false :=
      (Pod.hasAnnotation_congr hqcomplete).trans hplacks
    obtain ⟨r, hr, hrtext, hlt, hstarts, hends⟩ :=
      stepAt_open clock s.2 hnone hq hunfound hid hqlacks (by rw [hqstart]; exact hptext) hread
    have hlater : ∀ i, s.2 ≤ i → 0 ≤ (clock i).since start :=
      fun i hi => Int.le_trans hpast (hclock.since_le hstart hi)
    have helapsed : (clock (s.2 + 1)).elapsed start < plan.timeout ↔
        (clock (s.2 + 1)).since start < plan.timeout.nanoseconds :=
      Instant.elapsed_lt_iff (Or.inr (hlater (s.2 + 1) (Nat.le_succ s.2)))
    have hqhas := Pod.hasAnnotation_congr hqstart
    have hrhas := Pod.hasAnnotation_of_some hrtext
    have htime : (stepAt clock plan (w, s.2) q).time clock = clock (s.2 + 1) := rfl
    generalize stepAt clock plan (w, s.2) q = made at hrest ih hr hlt hstarts hends htime ⊢
    have hwrites : ∀ other, plan.stored s.1 = some other → writes Pod.startKey steps = 0 →
        writes Pod.startKey (made :: steps) =
          if other.hasAnnotation Pod.startKey = false ∧ made :: steps ≠ [] then 1 else 0 := by
      intro other hother hzero
      obtain rfl : p = other := Option.some.inj (hp.symm.trans hother)
      rw [writes_cons, hstarts, hzero, hqhas]
      simp
    rcases hends with ⟨hwithin, hrlacks, houtcome, hcompletes⟩ |
      ⟨hover, hrcomplete, houtcome, hcompletes⟩
    · -- the window is still open after the step, with the mark written
      have hopen : ∀ other, plan.stored made.after.1 = some other →
          other.hasAnnotation Pod.completeKey = false ∧
            (other.annotation? Pod.startKey).getD (markText (clock made.after.2)) = text := by
        intro other hother
        obtain rfl : r = other := Option.some.inj (hr.symm.trans hother)
        rw [hrtext]
        exact ⟨hrlacks, rfl⟩
      obtain ⟨hconforms, hstartWrites, hcompleteWrites⟩ :=
        ih htail (hlater made.after.2 (by omega)) hopen
      have hmade : made.Conforms clock plan text start := by
        refine ⟨⟨r, hr, hrtext⟩, fun _ => houtcome, fun hle => ?_⟩
        rw [htime] at hle
        exact absurd (helapsed.1 hwithin) (Int.not_lt.2 hle)
      refine ⟨List.forall_mem_cons.2 ⟨hmade, hconforms⟩,
        fun other hother => hwrites other hother ?_, ?_⟩
      · rw [hstartWrites r hr, if_neg fun h => by rw [hrhas] at h; cases h.1]
      · rw [writes_cons, hcompletes, hcompleteWrites, List.any_cons, houtcome, Nat.zero_add]
        rfl
    · -- the pod is confirmed, and no later reading is within the window
      have hconfirmed : ∀ other, plan.stored made.after.1 = some other →
          other.annotation? Pod.startKey = some text ∧ other.isMarked Pod.completeKey = true := by
        intro other hother
        obtain rfl : r = other := Option.some.inj (hr.symm.trans hother)
        exact ⟨hrtext, Pod.isMarked_iff.2 ⟨_, hrcomplete, markText_ne_empty _⟩⟩
      have hafter : ∀ i, made.after.2 ≤ i → plan.timeout.nanoseconds ≤ (clock i).since start := by
        intro i hi
        have hforward := hclock.since_le hstart (show s.2 + 1 ≤ i by omega)
        rw [helapsed] at hover
        omega
      obtain ⟨hconforms, hnone⟩ := hrest.confirmed htail hconfirmed hafter
      have hmade : made.Conforms clock plan text start := by
        refine ⟨⟨r, hr, hrtext⟩, fun hlt => ?_, fun _ => ⟨r, _, houtcome, hrtext, hrcomplete⟩⟩
        rw [htime] at hlt
        exact absurd (helapsed.2 hlt) hover
      refine ⟨List.forall_mem_cons.2 ⟨hmade, hconforms⟩,
        fun other hother => hwrites other hother (hnone Pod.startKey), ?_⟩
      · rw [writes_cons, hcompletes, hnone Pod.completeKey, List.any_cons, houtcome]
        rfl

/-- **The grace window closes.** Take a run of undisturbed steps on a pod without marks, whose
runner is never found, under a clock that never goes back. With `start` the instant that the start
mark of the first step stands for, every step that decides within the timeout after it has the pod
wait, and every later one finds it deletable; the start mark is written once, and so is the complete
mark as soon as the pod was found deletable. -/
theorem grace_window_closes {p : Pod} (hrun : Run clock plan [] s steps s') (hsome : steps ≠ [])
    (hsteps : ∀ step ∈ steps, step.Undisturbed plan) (hclock : Steady clock)
    (hyear : Timestamp.HasShortYear (clock s.2)) (hp : plan.stored s.1 = some p)
    (hunmarked : p.annotation? Pod.startKey = none)
    (hopen : p.annotation? Pod.completeKey = none) :
    ∃ text start, Timestamp.read text = .ok start ∧
      (∀ step ∈ steps, step.Conforms clock plan text start) ∧
      writes Pod.startKey steps = 1 ∧
      writes Pod.completeKey steps = if steps.any (·.outcome.isDeletable) then 1 else 0 := by
  have hlacks : ∀ key, p.annotation? key = none → p.hasAnnotation key = false :=
    fun key hkey => Option.isSome_eq_false_iff.2 (Option.isNone_iff_eq_none.2 hkey)
  have hstored : ∀ q, plan.stored s.1 = some q → q.hasAnnotation Pod.completeKey = false ∧
      (q.annotation? Pod.startKey).getD (markText (clock s.2)) = markText (clock s.2) := by
    intro q hq
    obtain rfl : p = q := Option.some.inj (hp.symm.trans hq)
    rw [hunmarked]
    exact ⟨hlacks Pod.completeKey hopen, rfl⟩
  have hread := read_markText hyear
  have hstart := Instant.wholeSecond_regular (hclock.regular s.2)
  have hpast : 0 ≤ (clock s.2).since (clock s.2).wholeSecond := by
    have hle := (clock s.2).nanoseconds_wholeSecond_le
    rw [Instant.since_regular (hclock.regular s.2) hstart]
    omega
  obtain ⟨hconforms, hstarts, hcompletes⟩ :=
    hrun.closes hsteps hclock hread hstart hpast hstored
  refine ⟨_, _, hread, hconforms, ?_, hcompletes⟩
  rw [hstarts p hp, if_pos ⟨hlacks Pod.startKey hunmarked, hsome⟩]

/-- A clock that is read every twenty seconds. -/
def steadyClock (i : Nat) : Instant :=
  moment (20 * i) 0

theorem steady_steadyClock : Steady steadyClock where
  regular i := Instant.after_regular (by decide) _
  forward i j hij := by
    have hnanoseconds : ∀ i, (steadyClock i).nanoseconds = 20 * i * 1000000000 := by
      intro i
      unfold steadyClock moment
      rw [Instant.nanoseconds_after (by decide)]
      show 0 + ((20 * i * 1000000000 + 0 : Nat) : Int) = _
      omega
    rw [hnanoseconds, hnanoseconds]
    omega

/-- Three steps on a fresh pod, the last of them after the minute: one write of either mark, and the
pod is deletable. -/
theorem grace_window_closes_on_time :
    ∃ text start, Timestamp.read text = .ok start ∧
      (∀ step ∈ freshSteps steadyClock minutePlan 3 (lonely lonelyPod, 0),
        step.Conforms steadyClock minutePlan text start) ∧
      writes Pod.startKey (freshSteps steadyClock minutePlan 3 (lonely lonelyPod, 0)) = 1 ∧
      writes Pod.completeKey (freshSteps steadyClock minutePlan 3 (lonely lonelyPod, 0)) = 1 ∧
      (freshSteps steadyClock minutePlan 3 (lonely lonelyPod, 0)).map (·.outcome.isDeletable) =
        [false, true, true] := by
  obtain ⟨s', hrun⟩ := run_freshSteps 3 [] (lonely lonelyPod, 0)
    (show ∀ step ∈ freshSteps steadyClock minutePlan 3 (lonely lonelyPod, 0), _ by decide +kernel)
  have houtcomes : (freshSteps steadyClock minutePlan 3 (lonely lonelyPod, 0)).map
      (·.outcome.isDeletable) = [false, true, true] := by
    decide +kernel
  have hsome : freshSteps steadyClock minutePlan 3 (lonely lonelyPod, 0) ≠ [] := by
    intro hnil
    rw [hnil] at houtcomes
    cases houtcomes
  have hfaults : ∀ step ∈ freshSteps steadyClock minutePlan 3 (lonely lonelyPod, 0),
      step.before.1.faults = .none := by
    have hempty : ∀ step ∈ freshSteps steadyClock minutePlan 3 (lonely lonelyPod, 0),
        let f := step.before.1.faults
        f.list.isEmpty ∧ f.remove.isEmpty ∧ f.get.isEmpty ∧ f.patch.isEmpty ∧ f.delete.isEmpty := by
      decide +kernel
    intro step hstep
    obtain ⟨hlist, hremove, hget, hpatch, hdelete⟩ := hempty step hstep
    rw [List.isEmpty_iff] at hlist hremove hget hpatch hdelete
    show Faults.mk _ _ _ _ _ = .none
    rw [hlist, hremove, hget, hpatch, hdelete]
    rfl
  have hfresh : ∀ step ∈ freshSteps steadyClock minutePlan 3 (lonely lonelyPod, 0),
      minutePlan.stored step.before.1 = some step.pod := by
    decide +kernel
  have hrecorded : ∀ step ∈ freshSteps steadyClock minutePlan 3 (lonely lonelyPod, 0),
      recordedId (some step.pod) = .ok none := by
    decide +kernel
  have hsteps : ∀ step ∈ freshSteps steadyClock minutePlan 3 (lonely lonelyPod, 0),
      step.Undisturbed minutePlan :=
    fun step hstep => ⟨hfresh step hstep, hfaults step hstep, none, hrecorded step hstep⟩
  have hp : minutePlan.stored (lonely lonelyPod) = some { lonelyPod with version := some "1" } := by
    decide +kernel
  obtain ⟨text, start, hread, hconforms, hstarts, hcompletes⟩ :=
    grace_window_closes hrun hsome hsteps steady_steadyClock (by decide +kernel) hp rfl rfl
  refine ⟨text, start, hread, hconforms, hstarts, ?_, houtcomes⟩
  rw [hcompletes]
  decide +kernel

end Grace
end Quiesce
