import Quiesce.Proofs.Atomicity
import Quiesce.Proofs.Perseverance
import Quiesce.Proofs.Underway
import Quiesce.Proofs.Unregistered

/-!
# Steps while a runner is not to be found

The grace window of a pod is about a runner that the registry never shows. What happens to it is
decided by readings of the clock, one after the other, so that the runs of this file have their
readings as a sequence of its own: the clock may run on, stand still or go back, also within a step.

* `World.answerAt` answers the calls of a program with such readings.
* `Unfound` says that the pod lives and that the registry gives nothing away about its runner;
  `tick_unfound` lists what a step can come to then.
* `Grace.Run` is a run of steps, each on a pod that was read before it. Between the steps anything
  may happen, except to the marks.
-/

namespace Quiesce

/-! ## Readings of the clock -/

namespace World

variable {clock : Nat → Instant} {w : World} {n : Nat}

/-- Answers a call, the `n`-th reading of the clock with the `n`-th instant of a sequence. -/
def answerAt (clock : Nat → Instant) : Handler (World × Nat)
  | .list _, (w, n) => (w.list.1, w.list.2, n)
  | .remove _ id, (w, n) => ((w.remove id).1, (w.remove id).2, n)
  | .get namespaceName name, (w, n) =>
    ((w.get namespaceName name).1, (w.get namespaceName name).2, n)
  | .patch pod more, (w, n) => ((w.patch pod more).1, (w.patch pod more).2, n)
  | .delete pod, (w, n) => ((w.delete pod).1, (w.delete pod).2, n)
  | .now, (w, n) => (clock n, w, n + 1)

/-- Only reading the clock takes one of the readings. -/
theorem answerAt_of_ne_now {c : Call} (hc : c ≠ .now) :
    answerAt clock c (w, n) = ((answer c w).1, (answer c w).2, n) := by
  cases c with
  | now => exact absurd rfl hc
  | list scope => rfl
  | remove scope id => rfl
  | get namespaceName name => rfl
  | patch pod more => rfl
  | delete pod => rfl

/-- A program that does not look at the clock runs as it always does. -/
theorem run_answerAt {α : Type} {p : Program α} (hp : p.Asks (· ≠ .now)) (w : World) (n : Nat) :
    p.run (answerAt clock) (w, n) =
      ⟨(p.run answer w).value, (p.run answer w).calls, (p.run answer w).state, n⟩ := by
  induction p generalizing w with
  | done a => rfl
  | call c next ih =>
    rw [Program.run_call, Program.run_call, answerAt_of_ne_now hp.1]
    dsimp only
    rw [ih _ (hp.2 _)]

/-- A program that asks the registry alone takes no reading of the clock. -/
theorem run_answerAt_of_registry {α : Type} {p : Program α} (hp : p.Asks (·.isRegistry = true))
    (w : World) (n : Nat) : p.run (answerAt clock) (w, n) =
      ⟨(p.run answer w).value, (p.run answer w).calls, (p.run answer w).state, n⟩ := by
  refine run_answerAt (hp.mono fun c hc => ?_) w n
  rintro rfl
  cases hc

/-- Readings are only ever added. -/
theorem readings_le {α : Type} (p : Program α) (s : World × Nat) :
    s.2 ≤ (p.run (answerAt clock) s).state.2 := by
  induction p generalizing s with
  | done a => exact Nat.le_refl _
  | call c next ih =>
    obtain ⟨w, n⟩ := s
    refine Nat.le_trans ?_ (ih _ (answerAt clock c (w, n)).2)
    by_cases hc : c = .now
    · subst hc
      exact Nat.le_succ n
    · have hsame : (answerAt clock c (w, n)).2.2 = n :=
        congrArg (fun answer => answer.2.2) (answerAt_of_ne_now hc)
      exact Nat.le_of_eq hsame.symm

/-- The frame of the registry, whatever the clock shows. -/
theorem afterRegistry_at {α : Type} {p : Program α} (hp : p.Asks Call.sparesPods)
    (clock : Nat → Instant) (w : World) (n : Nat) :
    AfterRegistry w (p.run (answerAt clock) (w, n)).state.1 := by
  refine hp.keeps (P := fun s : World × Nat => AfterRegistry w s.1) (fun c s hc h => ?_) (.refl w)
  obtain ⟨w', n'⟩ := s
  by_cases hnow : c = .now
  · subst hnow
    exact h
  · rw [answerAt_of_ne_now hnow]
    exact h.trans (afterRegistry_answer hc w')

/-! ## Marks -/

/-- A mark is written with the reading made for it, and else like any annotation. -/
theorem markPod_at (key : String) (pod : Pod) (w : World) (n : Nat) :
    (markPod key (some pod)).run (answerAt clock) (w, n) =
      let o := (annotateOnce pod key (markText (clock n))).run answer w
      ⟨o.value.map some, .now :: o.calls, o.state, n + 1⟩ := by
  let text := markText (clock n)
  let o := (annotateOnce pod key text).run answer w
  have hasks : (annotateOnce pod key text).Asks (· ≠ .now) := annotateOnce_asks nofun
  have hmark : (mark pod key).run (answerAt clock) (w, n) =
      ⟨o.value, .now :: o.calls, o.state, n + 1⟩ := by
    show Outcome.mk ((annotateOnce pod key text).run (answerAt clock) (w, n + 1)).value
      (.now :: ((annotateOnce pod key text).run (answerAt clock) (w, n + 1)).calls)
      ((annotateOnce pod key text).run (answerAt clock) (w, n + 1)).state = _
    rw [run_answerAt hasks]
  show ((mark pod key).bind fun answered => .done (Except.map some answered)).run
    (answerAt clock) (w, n) = ⟨o.value.map some, .now :: o.calls, o.state, n + 1⟩
  rw [Program.run_bind, hmark]
  simp only [Program.run_done, List.append_nil]

/-- An annotation is nothing to the registry. -/
theorem annotateOnce_spares_registry (pod : Pod) (key value : String) (w : World) :
    let w' := ((annotateOnce pod key value).run answer w).state
    w'.runners = w.runners ∧ w'.faults.list = w.faults.list ∧
      w'.faults.remove = w.faults.remove := by
  unfold annotateOnce
  cases pod.hasAnnotation key with
  | true => exact ⟨rfl, rfl, rfl⟩
  | false => exact (World.patch_frame w pod (.single key value)).2

/-! ## A registry that gives nothing away

It may answer that there is no such runner, and it may fail. What it may not do is remove the runner
or refuse to for the state that the runner is in. -/

/-- The removal of that number fails, and not for the state of the runner. -/
def Refuses (w : World) (id : Int64) : Prop :=
  ∃ e, (w.remove id).1 = .error e ∧ e.isStillRegistering = false

/-- A runner is not to be found, by the recorded number or else by its name. -/
def Misses (w : World) (target : Target) : Option Int64 → Prop
  | some id => w.Refuses id
  | none =>
    match w.list.1 with
    | .error e => e.isStillRegistering = false
    | .ok runners => ∀ id, (firstNamed target.name runners).bind (·.id) = some id → w.Refuses id

/-- Whether a removal is refused depends on the runners and on what is queued for removals. -/
theorem Refuses.congr {w' : World} {id : Int64} (h : w.Refuses id)
    (hrunners : w'.runners = w.runners) (hremove : w'.faults.remove = w.faults.remove) :
    w'.Refuses id := by
  obtain ⟨e, he, hstate⟩ := h
  refine ⟨e, ?_, hstate⟩
  rw [← he]
  unfold World.remove
  rw [hrunners, hremove]
  cases w.faults.remove with
  | cons result rest => rfl
  | nil =>
    dsimp only
    by_cases hlisted : w.runners.any (·.id = some id) = true
    · rw [if_pos hlisted, if_pos hlisted]
    · rw [if_neg hlisted, if_neg hlisted]

/-- Whether a runner is missed depends on the registry alone. -/
theorem Misses.congr {w' : World} {target : Target} {id : Option Int64} (h : w.Misses target id)
    (hrunners : w'.runners = w.runners) (hlist : w'.faults.list = w.faults.list)
    (hremove : w'.faults.remove = w.faults.remove) : w'.Misses target id := by
  cases id with
  | some id => exact Refuses.congr h hrunners hremove
  | none =>
    have hsame : w'.list.1 = w.list.1 := by
      unfold World.list
      rw [hlist, hrunners]
      cases w.faults.list with
      | cons e rest => rfl
      | nil => rfl
    unfold Misses at h ⊢
    rw [hsame]
    cases hlisted : w.list.1 with
    | error e =>
      rw [hlisted] at h
      exact h
    | ok runners =>
      rw [hlisted] at h
      exact fun id hid => (h id hid).congr hrunners hremove

/-- A removal that is refused has not found the runner, or has failed for another reason than its
state. -/
theorem removal_refused {id : Int64} (h : w.Refuses id) :
    Removal.ofAnswer (w.remove id).1 = .notFound ∨
      ∃ e, Removal.ofAnswer (w.remove id).1 = .failed e ∧ e.isStillRegistering = false := by
  obtain ⟨e, he, hstate⟩ := h
  have hanswer : Removal.ofAnswer (w.remove id).1 =
      if e.isNotFound then .notFound else .failed e := by
    rw [he]
    rfl
  rw [hanswer]
  cases e.isNotFound with
  | true => exact Or.inl rfl
  | false => exact Or.inr ⟨e, rfl, hstate⟩

/-- A runner that is not to be found is not removed. -/
theorem unregister_missed {target : Target} {id : Option Int64} (h : w.Misses target id) :
    ((unregister target id).run answer w).value = .notFound ∨
      ∃ e, ((unregister target id).run answer w).value = .failed e ∧
        e.isStillRegistering = false := by
  cases id with
  | some id => exact removal_refused h
  | none =>
    have hfind : (findRunner target).run answer w =
        ⟨w.list.1.map (firstNamed target.name), [.list target.scope], w.list.2⟩ := rfl
    unfold unregister
    unfold Misses at h
    simp only [Program.bind_eq, Program.value_bind, hfind]
    cases hq : w.faults.list with
    | cons e rest =>
      have hlist : w.list = (.error e, { w with faults := { w.faults with list := rest } }) := by
        unfold World.list
        rw [hq]
      rw [hlist] at h ⊢
      exact Or.inr ⟨e, rfl, h⟩
    | nil =>
      rw [list_unfailing hq] at h ⊢
      dsimp only [Except.map] at h ⊢
      cases hid : (firstNamed target.name w.runners).bind (·.id) with
      | none => exact Or.inl rfl
      | some id => exact removal_refused (h id hid)

end World

/-- The pod lives, and its runner is not to be found. -/
structure Unfound (target : Target) (w : World) (pod : Pod) : Prop where
  live : pod.isStopped = false
  missed : ∀ id, recordedId (some pod) = .ok id → w.Misses target id

/-! ## The step -/

section Step

variable {clock : Nat → Instant} {target : Target} {timeout retryDelay : Duration} {w w' : World}
  {n n' : Nat} {pod p : Pod} {calls : List Call}

/-- A mark changes nothing about that. -/
theorem Unfound.marked (h : Unfound target w pod) {key value : String}
    (hkey : key ≠ Pod.runnerIdKey) (hrunners : w'.runners = w.runners)
    (hlist : w'.faults.list = w.faults.list) (hremove : w'.faults.remove = w.faults.remove)
    (hmarked : w.store.Marked pod key value (.ok p) w'.store) : Unfound target w' p := by
  refine ⟨hmarked.isStopped.trans h.live, fun id hid =>
    (h.missed id ?_).congr hrunners hlist hremove⟩
  rw [← hid, recordedId_congr (hmarked.annotation?_other (Ne.symm hkey))]

/-- The decision by the start mark takes the next reading of the clock. -/
theorem decideByStart_at (timeout retryDelay : Duration) {text : String} {start : Instant}
    (hread : Timestamp.read text = .ok start) (w : World) (n : Nat) :
    (decideByStart timeout retryDelay text).run (World.answerAt clock) (w, n) =
      ⟨if (clock n).elapsed start < timeout then .requeue retryDelay none else .deletable,
        [.now], w, n + 1⟩ := by
  rw [decideByStart_eq timeout retryDelay hread]
  rfl

/-- An undecided runner that is not to be found is decided by the start mark alone: the pod is
deletable only if the clock is read and its time is up. -/
theorem ensureUnregistered_unfound (h : Unfound target w pod)
    (hopen : pod.isMarked Pod.completeKey = false)
    (hrun : (ensureUnregistered target timeout retryDelay (some pod)).run (World.answerAt clock)
      (w, n) = ⟨.deletable, calls, w', n'⟩) :
    ∃ text start, pod.annotation? Pod.startKey = some text ∧ Timestamp.read text = .ok start ∧
      n < n' ∧ ¬(clock n).elapsed start < timeout := by
  unfold ensureUnregistered at hrun
  rw [if_neg (by simp [hopen])] at hrun
  cases hid : recordedId (some pod) with
  | error e =>
    rw [hid] at hrun
    cases hrun
  | ok id =>
    rw [hid] at hrun
    simp only [Program.bind_eq, Program.run_bind,
      World.run_answerAt_of_registry (unregister_asksRegistry target id)] at hrun
    generalize ((unregister target id).run World.answer w).state = w₁ at hrun
    rcases World.unregister_missed (h.missed id hid) with hvalue | ⟨e, hvalue, hstate⟩
    · rw [hvalue] at hrun
      dsimp only at hrun
      cases htext : pod.mark? Pod.startKey with
      | none =>
        rw [decideNotFound_unmarked timeout retryDelay h.live htext] at hrun
        cases hrun
      | some text =>
        rw [decideNotFound_marked timeout retryDelay h.live htext] at hrun
        cases hread : Timestamp.read text with
        | error reason =>
          rw [decideByStart_unread timeout retryDelay hread] at hrun
          cases hrun
        | ok start =>
          rw [decideByStart_at timeout retryDelay hread] at hrun
          simp only [Outcome.mk.injEq, Prod.mk.injEq] at hrun
          obtain ⟨hdecision, -, -, hn⟩ := hrun
          refine ⟨text, start, (Option.filter_eq_some_iff.1 htext).1, hread, by omega, ?_⟩
          intro hwithin
          rw [if_pos hwithin] at hdecision
          cases hdecision
    · -- a failure is not a decision, unless it is about the state of the runner
      rw [hvalue] at hrun
      dsimp only at hrun
      unfold decideFailure at hrun
      rw [hstate] at hrun
      cases he : e.isRateLimited with
      | true =>
        rw [he] at hrun
        cases hrun
      | false =>
        rw [he] at hrun
        cases hrun

/-- The attempt to mark a copy makes one reading, which is what it writes. -/
theorem markPod_reads {key : String} {result : Except PodStoreError (Option Pod)}
    (hkey : key ≠ Pod.runnerIdKey) (hcopy : w.store.Copies pod)
    (hrun : (markPod key (some pod)).run (World.answerAt clock) (w, n) = ⟨result, calls, w', n'⟩) :
    n' = n + 1 ∧ ∃ answered, result = answered.map some ∧
      w.store.Marked pod key (markText (clock n)) answered w'.store ∧
      ∀ target p, answered = .ok p → Unfound target w pod → Unfound target w' p := by
  rw [World.markPod_at] at hrun
  obtain ⟨-, hmarked⟩ := World.annotateOnce_copy key (markText (clock n)) hcopy
  cases hannotate : (annotateOnce pod key (markText (clock n))).run World.answer w with
  | mk answered calls' w₁ =>
    rw [hannotate] at hrun hmarked
    simp only [Outcome.mk.injEq, Prod.mk.injEq] at hrun
    obtain ⟨rfl, -, rfl, rfl⟩ := hrun
    refine ⟨rfl, answered, rfl, hmarked, ?_⟩
    rintro target p rfl h
    have hregistry := World.annotateOnce_spares_registry pod key (markText (clock n)) w
    rw [hannotate] at hregistry
    exact h.marked hkey hregistry.1 hregistry.2.1 hregistry.2.2 hmarked

/-- A decision leaves the store as it is, on readings of the clock too. -/
theorem ensureUnregistered_store {pod : Option Pod} {decision : Decision}
    (hrun : (ensureUnregistered target timeout retryDelay pod).run (World.answerAt clock) (w, n) =
      ⟨decision, calls, w', n'⟩) : w'.store = w.store := by
  have hframe := World.afterRegistry_at
    (ensureUnregistered_sparesPods target timeout retryDelay pod) clock w n
  rw [hrun] at hframe
  exact hframe.store

/-- A step that comes to write the complete mark has read the clock and found the time up. -/
theorem completed_over {w₁ w₂ : World} {n₁ n₂ : Nat} {calls' : List Call}
    {result : Except PodStoreError (Option Pod)} (hcopy : w₁.store.Copies p)
    (h : Unfound target w₁ p) (hopen : p.isMarked Pod.completeKey = false)
    (decided : (ensureUnregistered target timeout retryDelay (some p)).run (World.answerAt clock)
      (w₁, n₁) = ⟨.deletable, calls, w₂, n₂⟩)
    (complete : (markPod Pod.completeKey (some p)).run (World.answerAt clock) (w₂, n₂) =
      ⟨result, calls', w', n'⟩) :
    ∃ text start, p.annotation? Pod.startKey = some text ∧ Timestamp.read text = .ok start ∧
      n₁ < n' ∧ ¬(clock n₁).elapsed start < timeout ∧
      ∃ value completed, w₁.store.Marked p Pod.completeKey value completed w'.store := by
  obtain ⟨text, start, htext, hread, hlt, hover⟩ := ensureUnregistered_unfound h hopen decided
  have hstore := ensureUnregistered_store decided
  have hcopy₂ : w₂.store.Copies p := by rwa [hstore]
  obtain ⟨rfl, completed, -, hcompleted, -⟩ :=
    markPod_reads (by decide) hcopy₂ complete
  rw [hstore] at hcompleted
  exact ⟨text, start, htext, hread, by omega, hover, _, completed, hcompleted⟩

/-- **A step on a pod whose runner is not to be found.** The clock is read for the start mark. If
that is all that comes to be stored, the pod is not found deletable; or else the clock is read again
and the time since the start mark is up. -/
theorem tick_unfound {outcome : TickOutcome} {s' : World × Nat} (hcopy : w.store.Copies pod)
    (h : Unfound target w pod) (hopen : pod.isMarked Pod.completeKey = false)
    (hticked : Ticked (World.answerAt clock) target timeout retryDelay (w, n) (some pod) outcome
      calls s') :
    ∃ answered st, w.store.Marked pod Pod.startKey (markText (clock n)) answered st ∧
      (outcome.isDeletable = false ∧ s'.1.store = st ∨
        ∃ p text start i, answered = .ok p ∧ p.annotation? Pod.startKey = some text ∧
          Timestamp.read text = .ok start ∧ n ≤ i ∧ i < s'.2 ∧ ¬(clock i).elapsed start < timeout ∧
          ∃ value completed, st.Marked p Pod.completeKey value completed s'.1.store) := by
  -- What holds of the pod before the start mark is written holds of the one it comes to.
  have hstarted : ∀ {pod' : Option Pod} {calls : List Call} {w₁ : World} {n₁ : Nat},
      (markPod Pod.startKey (some pod)).run (World.answerAt clock) (w, n) =
        ⟨.ok pod', calls, w₁, n₁⟩ →
      ∃ p, pod' = some p ∧ n₁ = n + 1 ∧
        w.store.Marked pod Pod.startKey (markText (clock n)) (.ok p) w₁.store ∧
        w₁.store.Copies p ∧ Unfound target w₁ p ∧ p.isMarked Pod.completeKey = false := by
    intro pod' calls w₁ n₁ start
    obtain ⟨hn, answered, hanswered, hmarked, hunfound⟩ := markPod_reads (by decide) hcopy start
    cases answered with
    | error e => cases hanswered
    | ok p =>
      cases hanswered
      have hsame : p.isMarked Pod.completeKey = pod.isMarked Pod.completeKey :=
        Pod.isMarked_congr (hmarked.annotation?_other (by decide))
      exact ⟨p, rfl, hn, hmarked, (hmarked.copies hcopy).1, hunfound target p rfl h,
        hsame.trans hopen⟩
  cases hticked with
  | @startRefused e _ _ start =>
    obtain ⟨-, answered, -, hmarked, -⟩ := markPod_reads (by decide) hcopy start
    exact ⟨answered, _, hmarked, Or.inl ⟨TickOutcome.isDeletable_ofPatchError _ e, rfl⟩⟩
  | @requeued _ _ _ _ _ s₁ _ start decided =>
    obtain ⟨p, rfl, -, hmarked, -⟩ := hstarted start
    exact ⟨.ok p, _, hmarked, Or.inl ⟨rfl, ensureUnregistered_store decided⟩⟩
  | @failed _ _ _ _ s₁ _ start decided =>
    obtain ⟨p, rfl, -, hmarked, -⟩ := hstarted start
    exact ⟨.ok p, _, hmarked, Or.inl ⟨rfl, ensureUnregistered_store decided⟩⟩
  | @completeRefused _ _ _ _ _ s₁ s₂ _ start decided complete =>
    -- The step found the pod deletable, so a reading after the first was past the window, whether
    -- the complete mark was taken or not.
    obtain ⟨p, rfl, hn, hmarked, hcopy₁, hunfound, hopen'⟩ := hstarted start
    obtain ⟨text, start, htext, hread, hlt, hover, hcompleted⟩ :=
      completed_over hcopy₁ hunfound hopen' decided complete
    exact ⟨.ok p, _, hmarked, Or.inr
      ⟨p, text, start, s₁.2, rfl, htext, hread, by omega, hlt, hover, hcompleted⟩⟩
  | @deletable _ _ _ _ _ s₁ s₂ _ start decided complete =>
    obtain ⟨p, rfl, hn, hmarked, hcopy₁, hunfound, hopen'⟩ := hstarted start
    obtain ⟨text, start, htext, hread, hlt, hover, hcompleted⟩ :=
      completed_over hcopy₁ hunfound hopen' decided complete
    exact ⟨.ok p, _, hmarked, Or.inr
      ⟨p, text, start, s₁.2, rfl, htext, hread, by omega, hlt, hover, hcompleted⟩⟩

end Step

/-! ## Runs of steps -/

namespace Grace

open Drain (Plan)

/-- A step that was made on a pod, with the world and the number of readings before and after. -/
structure Step where
  before : World × Nat
  pod : Pod
  outcome : TickOutcome
  calls : List Call
  after : World × Nat

variable {clock : Nat → Instant} {plan : Plan} {seen : List Pod} {s s' : World × Nat}
  {steps : List Step} {step : Step} {pod : Pod}

/-- The step of a plan on a pod. -/
def stepAt (clock : Nat → Instant) (plan : Plan) (before : World × Nat) (pod : Pod) : Step :=
  let o := (tick plan.target plan.timeout plan.retryDelay (some pod)).run (World.answerAt clock)
    before
  ⟨before, pod, o.value, o.calls, o.state⟩

/-- Steps one after the other while the runner is not to be found. Before each of them the world may
become any other that has the pod with the same marks; the pod that the step is given has been read
then or before, and is out of date if the stored one has another version. -/
inductive Run (clock : Nat → Instant) (plan : Plan) :
    List Pod → World × Nat → List Step → World × Nat → Prop
  | nil (seen : List Pod) (s : World × Nat) : Run clock plan seen s [] s
  | cons {seen : List Pod} {s s' : World × Nat} {steps : List Step} {p q pod : Pod} {w : World}
      (hp : plan.stored s.1 = some p) (hq : plan.stored w = some q)
      (hstart : q.annotation? Pod.startKey = p.annotation? Pod.startKey)
      (hcomplete : q.annotation? Pod.completeKey = p.annotation? Pod.completeKey)
      (hread : pod ∈ q :: p :: seen) (hcopy : w.store.Copies pod)
      (hunfound : Unfound plan.target w pod)
      (hrest : Run clock plan (q :: p :: seen) (stepAt clock plan (w, s.2) pod).after steps s') :
      Run clock plan seen s (stepAt clock plan (w, s.2) pod :: steps) s'

/-- A step of a run ends in one of the ways of a step. -/
theorem stepAt_ticked (clock : Nat → Instant) (plan : Plan) (before : World × Nat) (pod : Pod) :
    Ticked (World.answerAt clock) plan.target plan.timeout plan.retryDelay before (some pod)
      (stepAt clock plan before pod).outcome (stepAt clock plan before pod).calls
      (stepAt clock plan before pod).after :=
  tick_cases (World.answerAt clock) plan.target plan.timeout plan.retryDelay before (some pod)

/-- A step gives no reading of the clock back. -/
theorem stepAt_readings_le (clock : Nat → Instant) (plan : Plan) (before : World × Nat)
    (pod : Pod) : before.2 ≤ (stepAt clock plan before pod).after.2 :=
  World.readings_le _ before

/-- The readings of a run come one after the other. -/
theorem Run.readings_le (hrun : Run clock plan seen s steps s') (hstep : step ∈ steps) :
    s.2 ≤ step.before.2 ∧ step.before.2 ≤ step.after.2 := by
  induction hrun with
  | nil seen s => cases hstep
  | @cons seen s s' steps p q pod w hp hq hstart hcomplete hread hcopy hunfound hrest ih =>
    have hhead := stepAt_readings_le clock plan (w, s.2) pod
    rcases List.mem_cons.1 hstep with rfl | hstep
    · exact ⟨Nat.le_refl _, hhead⟩
    · obtain ⟨hbefore, hafter⟩ := ih hstep
      exact ⟨Nat.le_trans hhead hbefore, hafter⟩

/-! ### Runs in which nothing else happens -/

/-- So many steps, each on the pod as it is stored then. -/
def freshSteps (clock : Nat → Instant) (plan : Plan) : Nat → World × Nat → List Step
  | 0, _ => []
  | k + 1, s =>
    match plan.stored s.1 with
    | none => []
    | some p => stepAt clock plan s p :: freshSteps clock plan k (stepAt clock plan s p).after

/-- Whether the registry of a world is empty and answers so. -/
def isDeserted (w : World) : Bool :=
  w.runners.isEmpty && w.faults.list.isEmpty && w.faults.remove.isEmpty

/-- A registry without runners and failures misses every runner. -/
theorem misses_of_deserted {w : World} (h : isDeserted w = true) (target : Target)
    (id : Option Int64) : w.Misses target id := by
  unfold isDeserted at h
  simp only [Bool.and_eq_true, List.isEmpty_iff] at h
  obtain ⟨⟨hrunners, hlist⟩, hremove⟩ := h
  cases id with
  | some id =>
    refine ⟨World.unknownRunner id, ?_, rfl⟩
    unfold World.remove
    rw [hremove, hrunners]
    rfl
  | none =>
    have hlisted : w.list.1 = .ok [] := by
      rw [World.list_unfailing hlist, hrunners]
    unfold World.Misses
    rw [hlisted]
    exact nofun

theorem run_freshSteps (k : Nat) (seen : List Pod) (s : World × Nat)
    (h : ∀ step ∈ freshSteps clock plan k s,
      isDeserted step.before.1 = true ∧ step.pod.isStopped = false) :
    ∃ s', Run clock plan seen s (freshSteps clock plan k s) s' := by
  induction k generalizing seen s with
  | zero => exact ⟨s, .nil seen s⟩
  | succ k ih =>
    unfold freshSteps at h ⊢
    cases hp : plan.stored s.1 with
    | none => exact ⟨s, .nil seen s⟩
    | some p =>
      rw [hp] at h
      obtain ⟨⟨hdeserted, hlive⟩, hrest⟩ := List.forall_mem_cons.1 h
      obtain ⟨s', hrun⟩ := ih (p :: p :: seen) _ hrest
      exact ⟨s', .cons hp hp rfl rfl List.mem_cons_self
        (Store.copies_of_stored (Drain.stored_current hp))
        ⟨hlive, fun id _ => misses_of_deserted hdeserted plan.target id⟩ hrun⟩

/-! ### A pod without a runner -/

/-- A pod that nobody has marked. -/
def lonelyPod : Pod where
  namespaceName := "default"
  name := "runner-abc"
  version := none
  annotations := .empty
  phase := .running
  containers := [⟨"runner", .running⟩]
  conditions := []

/-- A minute of grace. -/
def minutePlan : Plan where
  target := ⟨.ofOrganization "acme", "runner-abc"⟩
  podNamespace := "default"
  podName := "runner-abc"
  timeout := .ofSeconds 60
  retryDelay := .ofSeconds 10

/-- The world with one pod and an empty registry. -/
def lonely (pod : Pod) : World :=
  World.initial .epoch [] [pod]

/-- The beginning of 1970 and some seconds and nanoseconds. -/
def moment (seconds nanoseconds : Nat) : Instant :=
  Instant.epoch.after (.ofParts seconds nanoseconds)

end Grace
end Quiesce
