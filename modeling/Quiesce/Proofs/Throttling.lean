import Quiesce.Proofs.RecordedNumber
import Quiesce.Proofs.RemovalResponses
import Quiesce.Proofs.Usability

/-!
# Slowing down when the registry asks for it

A step that the registry answers with a rate limit asks for a wait of its own before the next step,
whatever the wait between ordinary steps is configured to be. The wait is longer than the ordinary
one that is built in, but a configuration can ask for ordinary waits that are longer still.

* `firstFailure?` is the failure that an attempt to remove a runner meets: what is asked after it is
  asked for the record.
* `rate_limit_delays_step` is the main statement, and `rate_limit_hastens_step` is a configuration
  whose steps come sooner when the registry asks to slow down.
-/

namespace Quiesce

variable {target : Target} {talk first second : List Exchange} {removal : Removal}
  {retryDelay after : Duration} {e : RegistryError}

/-! ## The first failure -/

/-- The first failure that the registry answers with. -/
def firstFailure? (talk : List Exchange) : Option RegistryError :=
  talk.findSome? fun x => x.call.registryFailure? x.answer

theorem firstFailure?_append :
    firstFailure? (first ++ second) = (firstFailure? first).or (firstFailure? second) :=
  List.findSome?_append

theorem firstFailure?_spared (h : ∀ x ∈ talk, x.call.sparesRunners) :
    firstFailure? talk = none := by
  refine List.findSome?_eq_none_iff.2 fun x hx => ?_
  have hspared := h x hx
  obtain ⟨c, answer⟩ := x
  cases c with
  | list scope => exact hspared.elim
  | remove scope id => exact hspared.elim
  | _ => rfl

/-- What asks the registry for nothing meets no failure of it. -/
theorem Program.Asks.firstFailure?_eq_none {α : Type} {p : Program α} {a : α}
    (hp : p.Asks Call.sparesRunners) (h : p.Dialogue talk a) : firstFailure? talk = none :=
  firstFailure?_spared (hp.dialogue h)

/-- A removal meets the failure that it is answered with. -/
theorem firstFailure?_removal {scope : Scope} {n : Int64} {answer : Except RegistryError Unit} :
    firstFailure? [⟨.remove scope n, answer⟩] = some e ↔ answer = .error e := by
  cases answer with
  | ok u => exact ⟨nofun, nofun⟩
  | error e' => simp [firstFailure?, Call.registryFailure?]

/-- An attempt that fails does so with the first failure. -/
theorem Attempt.firstFailure?_of_failed {id : Option Int64}
    (h : Attempt target id talk (.failed e)) : firstFailure? talk = some e := by
  generalize hremoval : Removal.failed e = removal at h
  cases h with
  | known n answer =>
    exact firstFailure?_removal.2 (Removal.ofAnswer_eq_failed.1 hremoval.symm).1
  | unlisted e' =>
    cases hremoval
    rfl
  | absent hnone => cases hremoval
  | found answer hsome =>
    exact firstFailure?_removal.2 (Removal.ofAnswer_eq_failed.1 hremoval.symm).1

/-- An attempt fails with its first failure, unless that says that the runner is not found. -/
theorem Attempt.failed_of_firstFailure? {id : Option Int64} (h : Attempt target id talk removal)
    (hfirst : firstFailure? talk = some e) (hfound : e.isNotFound = false) :
    removal = .failed e := by
  cases h with
  | known n answer =>
    exact Removal.ofAnswer_eq_failed.2 ⟨firstFailure?_removal.1 hfirst, hfound⟩
  | unlisted e' =>
    cases hfirst
    rfl
  | absent hnone => cases hfirst
  | found answer hsome =>
    exact Removal.ofAnswer_eq_failed.2 ⟨firstFailure?_removal.1 hfirst, hfound⟩

/-! ## Decisions -/

section Run

variable {σ : Type} (handler : Handler σ) (s : σ) (target : Target) (timeout retryDelay : Duration)

/-- Only after a failure is the registry asked again. -/
theorem decideRemoval_spares (pod : Option Pod) (h : ∀ e, removal ≠ .failed e) :
    (decideRemoval target timeout retryDelay pod removal).Asks Call.sparesRunners := by
  cases removal with
  | removed => trivial
  | notFound =>
    refine (decideNotFound_asksClock timeout retryDelay pod).mono fun c hc => ?_
    subst hc
    trivial
  | failed e => exact absurd rfl (h e)

/-- What is asked after an attempt can fail as well, but it is only asked once the attempt has
failed. -/
theorem Attempt.failed_iff {id : Option Int64} {pod : Option Pod} {decision : Decision}
    (hattempt : Attempt target id first removal)
    (hdecided : (decideRemoval target timeout retryDelay pod removal).Dialogue second decision)
    (hfound : e.isNotFound = false) :
    removal = .failed e ↔ firstFailure? (first ++ second) = some e := by
  rw [firstFailure?_append]
  constructor
  · rintro rfl
    rw [hattempt.firstFailure?_of_failed]
    rfl
  · intro hfirst
    by_cases hfailed : ∃ e', removal = .failed e'
    · obtain ⟨e', rfl⟩ := hfailed
      rw [hattempt.firstFailure?_of_failed] at hfirst
      cases hfirst
      rfl
    · have hspares := decideRemoval_spares target timeout retryDelay pod
        fun e' he => hfailed ⟨e', he⟩
      rw [hspares.firstFailure?_eq_none hdecided, Option.or_none] at hfirst
      exact hattempt.failed_of_firstFailure? hfirst hfound

/-- **A decision waits for the registry exactly if the attempt is rate limited.** -/
theorem ensureUnregistered_requeue_iff (pod : Option Pod) (after : Duration) (e : RegistryError) :
    ((ensureUnregistered target timeout retryDelay pod).run handler s).value =
        .requeue after (some (.registry e)) ↔
      after = rateLimitDelay ∧ e.isRateLimited = true ∧
        firstFailure? ((ensureUnregistered target timeout retryDelay pod).exchanges handler s) =
          some e := by
  by_cases hconfirmed : pod.any (·.isMarked Pod.completeKey) = true
  · rw [ensureUnregistered_of_confirmed target timeout retryDelay hconfirmed]
    exact iff_of_false nofun fun ⟨_, _, hfirst⟩ => nomatch hfirst
  have hopen := Bool.eq_false_iff.2 hconfirmed
  cases hid : recordedId pod with
  | error e' =>
    rw [ensureUnregistered_of_malformed target timeout retryDelay hopen hid]
    exact iff_of_false nofun fun ⟨_, _, hfirst⟩ => nomatch hfirst
  | ok id =>
    rw [ensureUnregistered_unconfirmed target timeout retryDelay hopen hid, Program.value_bind,
      Program.exchanges_bind, value_decideRemoval_requeue_iff]
    -- The delay is for a removal attempt that failed over the limit, and what it failed with is the
    -- first failure that the registry answered.
    have hattempt := unregister_attempt
      (Program.dialogue_exchanges handler (unregister target id) s)
    have hdecided := Program.dialogue_exchanges handler
      (decideRemoval target timeout retryDelay pod ((unregister target id).run handler s).value)
      ((unregister target id).run handler s).state
    have hfailed (text : String) (reset : Option Duration) :=
      hattempt.failed_iff target timeout retryDelay hdecided
        (show (RegistryError.rateLimited text reset).isNotFound = false from rfl)
    constructor
    · rintro ⟨text, reset, hremoval, rfl, hcause⟩
      cases hcause
      exact ⟨rfl, rfl, (hfailed text reset).1 hremoval⟩
    · rintro ⟨rfl, hlimited, hfirst⟩
      cases e with
      | rateLimited text reset => exact ⟨text, reset, (hfailed text reset).2 hfirst, rfl, rfl⟩
      | _ => cases hlimited

/-! ## Steps -/

/-- A mark that is refused never makes a step wait for the registry. -/
theorem TickOutcome.ofPatchError_ne {cause : PodStoreError} :
    ofPatchError retryDelay cause ≠ .requeue after (some (.registry e)) := by
  unfold ofPatchError
  cases cause.isConflict with
  | true => simp
  | false => simp

/-- A step waits for the registry exactly if its decision does. -/
theorem finish_requeue_iff (pod : Option Pod) (decision : Decision) (after : Duration)
    (e : RegistryError) :
    ((finish retryDelay pod decision).run handler s).value =
        .requeue after (some (.registry e)) ↔
      decision = .requeue after (some (.registry e)) := by
  cases decision with
  | requeue after' cause => simp [finish]
  | failed e' => simp [finish]
  | deletable =>
    refine iff_of_false ?_ nofun
    rw [finish, Program.value_bind]
    cases ((markPod Pod.completeKey pod).run handler s).value with
    | error cause => exact TickOutcome.ofPatchError_ne retryDelay
    | ok pod' => exact nofun

/-- **A step waits for the registry exactly if its attempt is rate limited**, and then for the time
that is fixed. -/
theorem tick_requeue_iff (pod : Option Pod) (after : Duration) (e : RegistryError) :
    ((tick target timeout retryDelay pod).run handler s).value =
        .requeue after (some (.registry e)) ↔
      after = rateLimitDelay ∧ e.isRateLimited = true ∧
        firstFailure? ((tick target timeout retryDelay pod).exchanges handler s) = some e := by
  have hstart := (markPod_sparesRunners Pod.startKey pod).firstFailure?_eq_none
    (Program.dialogue_exchanges handler _ s)
  rw [tick_eq, Program.value_bind, Program.exchanges_bind, firstFailure?_append, hstart,
    Option.none_or]
  generalize ((markPod Pod.startKey pod).run handler s).state = s₁
  cases ((markPod Pod.startKey pod).run handler s).value with
  | error cause =>
    exact iff_of_false (TickOutcome.ofPatchError_ne retryDelay) fun ⟨_, _, hfirst⟩ => nomatch hfirst
  | ok pod' =>
    dsimp only
    have hend := (finish_sparesRunners retryDelay pod'
      ((ensureUnregistered target timeout retryDelay pod').run handler s₁).value
      ).firstFailure?_eq_none (Program.dialogue_exchanges handler _
        ((ensureUnregistered target timeout retryDelay pod').run handler s₁).state)
    rw [Program.value_bind, Program.exchanges_bind, firstFailure?_append, hend, Option.or_none,
      finish_requeue_iff, ensureUnregistered_requeue_iff]

end Run

/-- **Rate limits delay the next step by a minute.** Take a step on any pod, whatever is answered.
It asks for a wait with a failure of the registry as the cause exactly if that is the first failure
that it meets and a rate limit, and the wait is then a minute, whatever the ordinary wait is. That
is longer than the ordinary wait that is built in. -/
theorem rate_limit_delays_step {σ : Type} (handler : Handler σ) (s : σ) (target : Target)
    (timeout retryDelay : Duration) (pod : Option Pod) :
    (∀ after e, ((tick target timeout retryDelay pod).run handler s).value =
        .requeue after (some (.registry e)) ↔
      after = .ofSeconds 60 ∧ e.isRateLimited = true ∧
        firstFailure? ((tick target timeout retryDelay pod).exchanges handler s) = some e) ∧
    Config.defaultRetryDelay < .ofSeconds 60 :=
  ⟨tick_requeue_iff handler s target timeout retryDelay pod, by decide⟩

def unhurriedConfig : Config :=
  { Config.withDefaults "https://registry.test" "https://cluster.test" (.ofOrganization "acme")
      "runner-abc" with
    unregistrationTimeout := .ofSeconds 300
    retryDelay := .ofSeconds 120 }

/-- A runner and its pod, with a rate limit in store for the first removal. -/
def limitedWorld : World :=
  { World.initial .epoch [⟨some 11, "runner-abc", "linux", .online, false, []⟩]
      [{ namespaceName := "default"
         name := "runner-abc"
         version := none
         annotations := .empty
         phase := .running
         containers := [⟨"runner", .running⟩]
         conditions := [] }] with
    faults := { Faults.none with
      remove := [.error (.rateLimited "API rate limit exceeded" none)] } }

/-- With two minutes between ordinary steps, a rate limit brings the next step forward. -/
theorem rate_limit_hastens_step :
    let plan := unhurriedConfig.plan
    let pod := limitedWorld.store.find? plan.podNamespace plan.podName
    unhurriedConfig.validate = .ok () ∧ pod.isSome = true ∧
      ((tick plan.target plan.timeout plan.retryDelay pod).run World.answer limitedWorld).value =
        .requeue (.ofSeconds 60)
          (some (.registry (.rateLimited "API rate limit exceeded" none))) ∧
      Duration.ofSeconds 60 < plan.retryDelay := by
  decide +kernel

end Quiesce
