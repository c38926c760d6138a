import Quiesce.Proofs.GraceConverges

/-!
# Pods that are never let go

Two parts of a step ask whether a pod has its start mark. Writing the mark asks whether there is an
annotation of that name; the decision asks for one that is not empty. They agree on every pod but
those on which the annotation is there and empty. Such a pod is never given a mark, and without one
nothing bounds its wait: as long as its runner is not found it has to wait, however late it is.

* `started_pod_is_decided` says what the decision sees of the start mark that a step has just seen
  to, and what follows from it: a pod is told to wait for no reason only within its grace window.
* `Run.stranded` is what becomes of the pods on which the two disagree, and `requeued_for_ever`
  shows it of one.
-/

namespace Quiesce

/-! ## What the decision says -/

section Decision

variable {clock : Nat → Instant} {n : Nat} {target : Target} {timeout retryDelay after : Duration}
  {w : World} {p : Pod} {text : String} {calls : List Call} {s : World × Nat}

/-- The registry does not know the runner of the pod, be it by the recorded number or, if there is
none, by its name. -/
def World.Lacks (w : World) (target : Target) (pod : Pod) : Prop :=
  ∀ id, recordedId (some pod) = .ok id → ((unregister target id).run answer w).value = .notFound

/-- A pod that is not confirmed and whose runner is not found is decided without the registry. -/
theorem ensureUnregistered_lacking (clock : Nat → Instant) (n : Nat) (timeout retryDelay : Duration)
    (h : w.Lacks target p) (hopen : p.isMarked Pod.completeKey = false) {id : Option Int64}
    (hid : recordedId (some p) = .ok id) :
    let asked := (unregister target id).run World.answer w
    let o := (decideNotFound timeout retryDelay (some p)).run (World.answerAt clock)
      (asked.state, n)
    (ensureUnregistered target timeout retryDelay (some p)).run (World.answerAt clock) (w, n) =
      ⟨o.value, asked.calls ++ o.calls, o.state⟩ := by
  rw [ensureUnregistered_open target timeout retryDelay hopen hid, Program.run_bind,
    World.run_answerAt_of_registry (unregister_asksRegistry target id)]
  dsimp only
  rw [h id hid]
  rfl

/-- Whoever has to wait for no reason is within the grace window. -/
theorem ensureUnregistered_waits (htext : p.mark? Pod.startKey = some text)
    (hrun : (ensureUnregistered target timeout retryDelay (some p)).run (World.answerAt clock)
      (w, n) = ⟨.requeue after none, calls, s⟩) :
    after = retryDelay ∧
      ∃ start, Timestamp.read text = .ok start ∧ (clock n).elapsed start < timeout := by
  cases hmarked : p.isMarked Pod.completeKey with
  | true =>
    rw [ensureUnregistered_confirmed _ _ target timeout retryDelay hmarked] at hrun
    cases hrun
  | false =>
    cases hid : recordedId (some p) with
    | error e =>
      have hopen : (some p).any (·.isMarked Pod.completeKey) = false := hmarked
      rw [ensureUnregistered_of_malformed target timeout retryDelay hopen hid] at hrun
      cases hrun
    | ok id =>
      rw [ensureUnregistered_open target timeout retryDelay hmarked hid, Program.run_bind,
        World.run_answerAt_of_registry (unregister_asksRegistry target id)] at hrun
      cases hremoval : ((unregister target id).run World.answer w).value with
      | removed =>
        rw [hremoval] at hrun
        cases hrun
      | failed e =>
        -- a failure that tells the caller to wait is reported with it
        rw [hremoval] at hrun
        dsimp only [decideRemoval] at hrun
        rcases decideFailure_cases target (some p) e with ⟨-, hd⟩ | ⟨-, hd⟩ | ⟨-, -, hd⟩
        · rw [hd] at hrun
          cases hrun
        · rw [hd] at hrun
          cases hrun
        · rw [hd] at hrun
          cases hrun
      | notFound =>
        rw [hremoval] at hrun
        dsimp only [decideRemoval] at hrun
        cases hstopped : p.isStopped with
        | true =>
          rw [decideNotFound_stopped timeout retryDelay hstopped] at hrun
          cases hrun
        | false =>
          rw [decideNotFound_marked timeout retryDelay hstopped htext] at hrun
          cases hread : Timestamp.read text with
          | error reason =>
            rw [decideByStart_unread timeout retryDelay hread] at hrun
            cases hrun
          | ok start =>
            rw [decideByStart_at timeout retryDelay hread] at hrun
            simp only [Outcome.mk.injEq] at hrun
            obtain ⟨hdecision, -⟩ := hrun
            by_cases hwithin : (clock n).elapsed start < timeout
            · rw [if_pos hwithin] at hdecision
              cases hdecision
              exact ⟨rfl, start, rfl, hwithin⟩
            · rw [if_neg hwithin] at hdecision
              cases hdecision

/-- The decisions that end the wait of a pod: it may go, unless something on it cannot be read. -/
inductive Decision.EndsWait (p : Pod) (text : String) : Decision → Prop
  | deletable : EndsWait p text .deletable
  | invalidRunnerId {idText : String} {reason : Text.IntegerError}
      (hid : p.annotation? Pod.runnerIdKey = some idText)
      (hread : Text.readInt64 idText = .error reason) :
      EndsWait p text (.failed (.invalidRunnerId idText reason))
  | invalidTimestamp {reason : Timestamp.ReadError} (hread : Timestamp.read text = .error reason) :
      EndsWait p text (.failed (.invalidTimestamp Pod.startKey text reason))

/-- How a wait ends for a pod depends on the number that it records. -/
theorem Decision.EndsWait.congr {q : Pod} {decision : Decision} (h : EndsWait p text decision)
    (hid : p.annotation? Pod.runnerIdKey = q.annotation? Pod.runnerIdKey) :
    EndsWait q text decision := by
  cases h with
  | deletable => exact .deletable
  | invalidRunnerId hidText hread => exact .invalidRunnerId (hid.symm.trans hidText) hread
  | invalidTimestamp hread => exact .invalidTimestamp hread

theorem Decision.endsWait_of_recordedId {e : StopError} (h : recordedId (some p) = .error e)
    (text : String) : EndsWait p text (.failed e) := by
  unfold recordedId at h
  rw [Option.bind_some] at h
  cases hid : p.annotation? Pod.runnerIdKey with
  | none =>
    rw [hid] at h
    cases h
  | some idText =>
    rw [hid] at h
    cases hread : Text.readInt64 idText with
    | ok id => simp [hread] at h
    | error reason =>
      simp only [hread, Except.error.injEq] at h
      subst h
      exact .invalidRunnerId hid hread

/-- A pod whose start mark is seen is decided when it is late. -/
theorem ensureUnregistered_late (retryDelay : Duration) (h : w.Lacks target p)
    (htext : p.mark? Pod.startKey = some text)
    (hlate : ∀ start, Timestamp.read text = .ok start → ¬(clock n).elapsed start < timeout) :
    Decision.EndsWait p text ((ensureUnregistered target timeout retryDelay (some p)).run
      (World.answerAt clock) (w, n)).value := by
  cases hmarked : p.isMarked Pod.completeKey with
  | true =>
    rw [ensureUnregistered_confirmed _ _ target timeout retryDelay hmarked]
    exact .deletable
  | false =>
    cases hid : recordedId (some p) with
    | error e =>
      have hopen : (some p).any (·.isMarked Pod.completeKey) = false := hmarked
      rw [ensureUnregistered_of_malformed target timeout retryDelay hopen hid]
      exact Decision.endsWait_of_recordedId hid text
    | ok id =>
      rw [ensureUnregistered_lacking clock n timeout retryDelay h hmarked hid]
      cases hstopped : p.isStopped with
      | true =>
        rw [decideNotFound_stopped timeout retryDelay hstopped]
        exact .deletable
      | false =>
        rw [decideNotFound_marked timeout retryDelay hstopped htext]
        -- The runner is not found and the pod is live: the start mark decides.
        cases hread : Timestamp.read text with
        | error reason =>
          rw [decideByStart_unread timeout retryDelay hread]
          exact .invalidTimestamp hread
        | ok start =>
          rw [decideByStart_at timeout retryDelay hread, if_neg (hlate start hread)]
          exact .deletable

/-- A pod whose start mark is not seen has to wait, whatever the time. -/
theorem ensureUnregistered_overlooked (clock : Nat → Instant) (n : Nat)
    (timeout retryDelay : Duration) (h : w.Lacks target p)
    (hopen : p.isMarked Pod.completeKey = false) {id : Option Int64}
    (hid : recordedId (some p) = .ok id) (hlive : p.isStopped = false)
    (hempty : p.annotation? Pod.startKey = some "") :
    let asked := (unregister target id).run World.answer w
    ∃ calls, (ensureUnregistered target timeout retryDelay (some p)).run (World.answerAt clock)
      (w, n) = ⟨.requeue retryDelay none, calls, asked.state, n⟩ := by
  rw [ensureUnregistered_lacking clock n timeout retryDelay h hopen hid,
    decideNotFound_unmarked timeout retryDelay hlive (Pod.mark?_empty hempty)]
  exact ⟨_, rfl⟩

end Decision

/-! ## The step -/

section Step

variable {clock : Nat → Instant} {n : Nat} {target : Target} {timeout retryDelay : Duration}
  {w w₁ : World} {pod p : Pod}

/-- The registry has nothing to do with the pods, so that what it answers does not turn on them. -/
theorem World.value_of_registry {α : Type} {q : Program α} (hq : q.Asks (·.isRegistry = true))
    {w w' : World} (hrunners : w'.runners = w.runners) (hfaults : w'.faults = w.faults) :
    (q.run answer w').value = (q.run answer w).value := by
  induction q generalizing w w' with
  | done a => rfl
  | call c next ih =>
    -- the two worlds give the same answer and go on as worlds of that kind
    have hanswer : (answer c w').1 = (answer c w).1 ∧
        (answer c w').2.runners = (answer c w).2.runners ∧
        (answer c w').2.faults = (answer c w).2.faults := by
      cases c with
      | list scope =>
        show w'.list.1 = w.list.1 ∧ w'.list.2.runners = w.list.2.runners ∧
          w'.list.2.faults = w.list.2.faults
        unfold World.list
        rw [hfaults]
        cases w.faults.list with
        | nil => exact ⟨congrArg Except.ok hrunners, hrunners, hfaults⟩
        | cons e rest => exact ⟨rfl, hrunners, rfl⟩
      | remove scope id =>
        show (w'.remove id).1 = (w.remove id).1 ∧
          (w'.remove id).2.runners = (w.remove id).2.runners ∧
          (w'.remove id).2.faults = (w.remove id).2.faults
        unfold World.remove
        rw [hfaults, hrunners]
        cases w.faults.remove with
        | nil =>
          dsimp only
          by_cases hlisted : w.runners.any (·.id = some id) = true
          · rw [if_pos hlisted, if_pos hlisted]
            exact ⟨rfl, rfl, rfl⟩
          · rw [if_neg hlisted, if_neg hlisted]
            exact ⟨rfl, hrunners, hfaults⟩
        | cons result rest => exact ⟨rfl, rfl, rfl⟩
      | get namespaceName name => cases hq.1
      | patch pod more => cases hq.1
      | delete pod => cases hq.1
      | now => cases hq.1
    obtain ⟨hvalue, hrunners', hfaults'⟩ := hanswer
    rw [Program.run_call, Program.run_call, hvalue]
    exact ih _ (hq.2 _) hrunners' hfaults'

/-- A mark changes nothing about what the registry knows. -/
theorem World.Lacks.marked (h : w.Lacks target pod) (hrunners : w₁.runners = w.runners)
    (hfaults : w₁.faults = w.faults)
    (hid : p.annotation? Pod.runnerIdKey = pod.annotation? Pod.runnerIdKey) :
    w₁.Lacks target p := by
  intro id hrecorded
  rw [World.value_of_registry (unregister_asksRegistry target id) hrunners hfaults]
  exact h id ((recordedId_congr hid).symm.trans hrecorded)

/-- What a step says that has come to a decision and could write what it had to. -/
inductive TickOutcome.Tells : Decision → TickOutcome → Prop
  | deletable (q : Pod) : Tells .deletable (.deletable (some q))
  | requeue (after : Duration) (cause : Option StopError) :
      Tells (.requeue after cause) (.requeue after cause)
  | failed (e : StopError) : Tells (.failed e) (.failed e)

theorem TickOutcome.Tells.eq_requeue {after : Duration} {cause : Option StopError}
    {outcome : TickOutcome} (h : Tells (.requeue after cause) outcome) :
    outcome = .requeue after cause := by
  cases h
  rfl

theorem TickOutcome.Tells.eq_deletable {outcome : TickOutcome} (h : Tells .deletable outcome) :
    ∃ q, outcome = .deletable (some q) := by
  cases h with
  | deletable q => exact ⟨q, rfl⟩

/-- Without a failure to write, a step says what was decided on the pod with its start mark. -/
theorem tick_tells (clock : Nat → Instant) (n : Nat) (target : Target)
    (timeout retryDelay : Duration) (hqueue : w.faults.patch = [])
    (hcurrent : w.store.find? pod.namespaceName pod.name = some pod) :
    ∃ p w₁ calls, (markPod Pod.startKey (some pod)).run (World.answerAt clock) (w, n) =
        ⟨.ok (some p), calls, w₁, n + 1⟩ ∧
      w.store.Marked pod Pod.startKey (markText (clock n)) (.ok p) w₁.store ∧
      w₁.runners = w.runners ∧ w₁.faults = w.faults ∧
      TickOutcome.Tells
        ((ensureUnregistered target timeout retryDelay (some p)).run (World.answerAt clock)
          (w₁, n + 1)).value
        ((tick target timeout retryDelay (some pod)).run (World.answerAt clock) (w, n)).value := by
  obtain ⟨p, w₁, hstart, hmarked, hrunners, hfaults⟩ :=
    markPod_unrefused clock n Pod.startKey hqueue hcurrent
  refine ⟨p, w₁, _, hstart, hmarked, hrunners, hfaults, ?_⟩
  cases hdecided : (ensureUnregistered target timeout retryDelay (some p)).run
    (World.answerAt clock) (w₁, n + 1) with
  | mk decision calls s =>
    cases decision with
    | requeue after cause =>
      rw [tick_waits hstart hdecided]
      exact .requeue after cause
    | failed e =>
      rw [tick_fails hstart hdecided]
      exact .failed e
    | deletable =>
      obtain ⟨w₂, n₂⟩ := s
      -- The decision has left the pod stored as it was, so the complete mark is not refused.
      have hframe := World.afterRegistry_at
        (ensureUnregistered_sparesPods target timeout retryDelay (some p)) clock w₁ (n + 1)
      rw [hdecided] at hframe
      have hqueue₂ : w₂.faults.patch = [] := by
        rw [hframe.patch, hfaults, hqueue]
      have hcurrent₂ : w₂.store.find? p.namespaceName p.name = some p := by
        obtain ⟨-, hns, hname⟩ := hmarked.copies (Store.copies_of_stored hcurrent)
        rw [hframe.store, hns, hname]
        exact (hmarked.current hcurrent).1
      obtain ⟨q, w₃, hcomplete, -⟩ :=
        markPod_unrefused clock n₂ Pod.completeKey hqueue₂ hcurrent₂
      rw [tick_completes hstart hdecided hcomplete]
      exact .deletable q

/-- **A pod that has its start mark is decided.** Take a step on a stored pod, without a failure to
write. The start mark is what the pod has or is given by the step, and the decision sees it exactly
if it was not there and empty. In that case nobody is told to wait for no reason after the window,
and if the runner is not found, the wait ends with it. A pod on which the mark is empty waits for
good. -/
theorem started_pod_is_decided (clock : Nat → Instant) (n : Nat) (target : Target)
    (timeout retryDelay : Duration) (hqueue : w.faults.patch = [])
    (hcurrent : w.store.find? pod.namespaceName pod.name = some pod) :
    let text := (pod.annotation? Pod.startKey).getD (markText (clock n))
    let outcome :=
      ((tick target timeout retryDelay (some pod)).run (World.answerAt clock) (w, n)).value
    (∃ p, ((markPod Pod.startKey (some pod)).run (World.answerAt clock) (w, n)).value =
          .ok (some p) ∧ p.annotation? Pod.startKey = some text ∧
        (p.isMarked Pod.startKey = true ↔ pod.annotation? Pod.startKey ≠ some "")) ∧
      (pod.annotation? Pod.startKey ≠ some "" →
        (∀ after, outcome = .requeue after none → after = retryDelay ∧
          ∃ start, Timestamp.read text = .ok start ∧ (clock (n + 1)).elapsed start < timeout) ∧
        (w.Lacks target pod →
          (∀ start, Timestamp.read text = .ok start →
            timeout.nanoseconds ≤ (clock (n + 1)).since start) →
          ∃ decision, Decision.EndsWait pod text decision ∧ TickOutcome.Tells decision outcome)) ∧
      (pod.annotation? Pod.startKey = some "" → w.Lacks target pod → pod.isStopped = false →
        pod.isMarked Pod.completeKey = false → (∃ id, recordedId (some pod) = .ok id) →
        outcome = .requeue retryDelay none) := by
  intro text outcome
  obtain ⟨p, w₁, calls, hstart, hmarked, hrunners, hfaults, htells⟩ :=
    tick_tells clock n target timeout retryDelay hqueue hcurrent
  have htext : p.annotation? Pod.startKey = some text := hmarked.annotation?_self
  have hseen := hmarked.isMarked_iff
  have hid : p.annotation? Pod.runnerIdKey = pod.annotation? Pod.runnerIdKey :=
    hmarked.annotation?_other (by decide)
  have hlacks : w.Lacks target pod → w₁.Lacks target p :=
    fun h => h.marked hrunners hfaults hid
  cases hdecided : (ensureUnregistered target timeout retryDelay (some p)).run
    (World.answerAt clock) (w₁, n + 1) with
  | mk decision calls' s =>
    rw [hdecided] at htells
    have htells : TickOutcome.Tells decision outcome := htells
    refine ⟨⟨p, by rw [hstart], htext, hseen⟩, fun hne => ?_,
      fun hempty hnone hlive hopen hread => ?_⟩
    · have hmark : p.mark? Pod.startKey = some text := by
        obtain ⟨text', htext', hne'⟩ := Pod.isMarked_iff.1 (hseen.2 hne)
        obtain rfl : text' = text := Option.some.inj (htext'.symm.trans htext)
        exact Pod.mark?_eq_some.2 ⟨htext, hne'⟩
      refine ⟨fun after hwaits => ?_, fun hnone hlate => ?_⟩
      · rw [hwaits] at htells
        cases htells
        exact ensureUnregistered_waits hmark hdecided
      · have hover : ∀ start, Timestamp.read text = .ok start →
            ¬(clock (n + 1)).elapsed start < timeout := by
          intro start hread hwithin
          have hle := hlate start hread
          have hlt : (clock (n + 1)).since start < timeout.nanoseconds :=
            (Instant.elapsed_lt_iff (Or.inr (by omega))).1 hwithin
          omega
        have hends : Decision.EndsWait p text decision := by
          have := ensureUnregistered_late retryDelay (hlacks hnone) hmark hover
          rwa [hdecided] at this
        exact ⟨decision, hends.congr hid, htells⟩
    · -- the step leaves the empty mark as it is, and the decision does not see it
      obtain ⟨id, hrecorded⟩ := hread
      have hptext : p.annotation? Pod.startKey = some "" := by
        rw [hmarked.annotation?_self, hempty, Option.getD_some]
      have hpopen : p.isMarked Pod.completeKey = false :=
        (Pod.isMarked_congr (hmarked.annotation?_other (by decide))).trans hopen
      obtain ⟨_, hwaits⟩ := ensureUnregistered_overlooked clock (n + 1) timeout retryDelay
        (hlacks hnone) hpopen ((recordedId_congr hid).trans hrecorded)
        (hmarked.isStopped.trans hlive) hptext
      rw [hdecided] at hwaits
      cases hwaits
      exact htells.eq_requeue

end Step

namespace Grace

open Drain (Plan)

/-- Two readings of the clock are a minute apart. -/
def minuteClock (i : Nat) : Instant :=
  moment (60 * i) 0

/-- A registry without runners lacks every runner. -/
theorem lacks_of_deserted {w : World} (hfaults : w.faults = .none) (h : isDeserted w = true)
    (target : Target) (pod : Pod) : w.Lacks target pod :=
  fun id _ => (World.unregister_absent hfaults (misses_of_deserted h target id)).1

/-- A fresh pod that is decided a minute after its mark was written. -/
theorem started_pod_is_decided_late :
    ∃ p q, minutePlan.stored (lonely lonelyPod) = some p ∧
      ((tick minutePlan.target minutePlan.timeout minutePlan.retryDelay (some p)).run
        (World.answerAt minuteClock) (lonely lonelyPod, 0)).value = .deletable (some q) := by
  have hstored : ∃ p, minutePlan.stored (lonely lonelyPod) = some p ∧
      p.annotation? Pod.startKey = none ∧ p.annotation? Pod.runnerIdKey = none :=
    ⟨{ lonelyPod with version := some "1" }, by decide +kernel, rfl, rfl⟩
  obtain ⟨p, hp, hfresh, hnumberless⟩ := hstored
  have hread : Timestamp.read (markText (minuteClock 0)) = .ok (minuteClock 0).wholeSecond :=
    read_markText (by decide +kernel)
  have hlate : ∀ start, Timestamp.read (markText (minuteClock 0)) = .ok start →
      (minutePlan.timeout.nanoseconds : Int) ≤ (minuteClock 1).since start := by
    intro start hstart
    obtain rfl : (minuteClock 0).wholeSecond = start := Except.ok.inj (hread.symm.trans hstart)
    decide +kernel
  obtain ⟨-, hdecided, -⟩ := started_pod_is_decided minuteClock 0 minutePlan.target
    minutePlan.timeout minutePlan.retryDelay (w := lonely lonelyPod) rfl (Drain.stored_current hp)
  rw [hfresh, Option.getD_none] at hdecided
  obtain ⟨decision, hends, htells⟩ := (hdecided nofun).2
    (lacks_of_deserted rfl (by decide +kernel) _ _) hlate
  cases hends with
  | deletable =>
    obtain ⟨q, hq⟩ := htells.eq_deletable
    exact ⟨p, q, hp, hq⟩
  | invalidRunnerId hid hinvalid =>
    rw [hnumberless] at hid
    cases hid
  | invalidTimestamp hinvalid =>
    rw [hread] at hinvalid
    cases hinvalid

/-! ## The pods that wait for good -/

variable {clock : Nat → Instant} {plan : Plan} {seen : List Pod} {s s' : World × Nat}
  {steps : List Step} {w : World} {n : Nat} {pod : Pod}

/-- The start mark is there and empty, and there is no complete mark. -/
structure Stranded (pod : Pod) : Prop where
  start : pod.annotation? Pod.startKey = some ""
  complete : pod.isMarked Pod.completeKey = false

/-- A step on a stranded pod changes nothing. -/
theorem stepAt_stranded (clock : Nat → Instant) (n : Nat) (h : Stranded pod)
    (hfaults : w.faults = .none) (hunfound : Unfound plan.target w pod) {id : Option Int64}
    (hid : recordedId (some pod) = .ok id) :
    (stepAt clock plan (w, n) pod).outcome = .requeue plan.retryDelay none ∧
      (stepAt clock plan (w, n) pod).after = (w, n + 1) := by
  have habsent : ∀ id, recordedId (some pod) = .ok id →
      ((unregister plan.target id).run World.answer w).value = .notFound ∧
        ((unregister plan.target id).run World.answer w).state = w :=
    fun id hid => World.unregister_absent hfaults (hunfound.missed id hid)
  have hstart := markPod_present (World.answerAt clock) (w, n) (Pod.hasAnnotation_of_some h.start)
  obtain ⟨calls, hdecided⟩ := ensureUnregistered_overlooked clock (n + 1) plan.timeout
    plan.retryDelay (fun id hid => (habsent id hid).1) h.complete hid hunfound.live h.start
  rw [(habsent id hid).2] at hdecided
  rw [stepAt_eq (tick_waits hstart hdecided)]
  exact ⟨rfl, rfl⟩

/-- **A stranded pod has to wait for good.** Induction on the run: a step stores nothing, so that
the pod is stranded before the next one as well. -/
theorem Run.stranded (hrun : Run clock plan seen s steps s')
    (hsteps : ∀ step ∈ steps, step.Undisturbed plan)
    (hstored : ∀ p, plan.stored s.1 = some p → Stranded p) :
    ∀ step ∈ steps, step.outcome = .requeue plan.retryDelay none := by
  induction hrun with
  | nil seen s => exact fun step hstep => absurd hstep List.not_mem_nil
  | @cons seen s s' steps p q pod w hp hq hstart hcomplete hread hcopy hunfound hrest ih =>
    obtain ⟨⟨hfresh, hfaultless, hrecorded⟩, htail⟩ := List.forall_mem_cons.1 hsteps
    obtain rfl : q = pod := Option.some.inj (hq.symm.trans hfresh)
    have hnone : w.faults = .none := hfaultless
    obtain ⟨id, hid⟩ : ∃ id, recordedId (some q) = .ok id := hrecorded
    have hstranded : Stranded q :=
      ⟨hstart.trans (hstored p hp).start,
        (Pod.isMarked_congr hcomplete).trans (hstored p hp).complete⟩
    obtain ⟨houtcome, hafter⟩ := stepAt_stranded clock s.2 hstranded hnone hunfound hid
    refine List.forall_mem_cons.2 ⟨houtcome, ih htail fun r hr => ?_⟩
    rw [hafter, hq] at hr
    cases hr
    exact hstranded

/-- A stranded pod is put off by every step of a run, on any clock. -/
theorem freshSteps_stranded (h : Stranded pod) (hstored : plan.stored w = some pod)
    (hfaults : w.faults = .none) (hunfound : Unfound plan.target w pod) {id : Option Int64}
    (hid : recordedId (some pod) = .ok id) (k n : Nat) :
    (freshSteps clock plan k (w, n)).map (·.outcome) =
      List.replicate k (.requeue plan.retryDelay none) := by
  induction k generalizing n with
  | zero => rfl
  | succ k ih =>
    obtain ⟨houtcome, hafter⟩ := stepAt_stranded clock n h hfaults hunfound hid
    unfold freshSteps
    rw [hstored]
    dsimp only
    rw [List.map_cons, houtcome, hafter, ih (n + 1), List.replicate_succ]

def strandedPod : Pod :=
  { lonelyPod with annotations := .single Pod.startKey "" }

/-- A pod with an empty start mark is put off at any time, however many steps are made. -/
theorem requeued_for_ever :
    ∃ p, minutePlan.stored (lonely strandedPod) = some p ∧
      ∀ (clock : Nat → Instant) (k : Nat),
        (freshSteps clock minutePlan k (lonely strandedPod, 0)).map (·.outcome) =
          List.replicate k (.requeue (.ofSeconds 10) none) := by
  have hstored : ∃ p, minutePlan.stored (lonely strandedPod) = some p ∧
      (p.annotation? Pod.startKey = some "" ∧ p.isMarked Pod.completeKey = false) ∧
        p.isStopped = false ∧ recordedId (some p) = .ok none :=
    ⟨{ strandedPod with version := some "1" }, by decide +kernel⟩
  obtain ⟨p, hp, ⟨hempty, hopen⟩, hlive, hid⟩ := hstored
  have hunfound : Unfound minutePlan.target (lonely strandedPod) p :=
    ⟨hlive, fun id _ => misses_of_deserted (by decide +kernel) minutePlan.target id⟩
  exact ⟨p, hp, fun clock k => freshSteps_stranded ⟨hempty, hopen⟩ hp rfl hunfound hid k 0⟩

end Grace
end Quiesce
