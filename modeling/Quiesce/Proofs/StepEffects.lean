import Quiesce.Proofs.Attempts
import Quiesce.Proofs.TickCases
import Quiesce.Proofs.WorldSteps

/-!
# The effects of a step

What one step asks of the registry and the cluster, whatever they and the clock answer: a patch that
writes the start mark, a listing, a removal, a second listing, and a patch that writes the complete
mark, in this order and each of them at most once.

* `markPod_talk` is the writing of a mark, call by call.
* `Marking`, `Consultation` and `Effects` hold the answers to these calls, so that the calls are
  determined by them.
* `markPod_dialogue`, `ensureUnregistered_dialogue` and `finish_dialogue` say what each part of a
  step can have asked.
* `Effects.Form` says when which of the calls is made and what the step comes to, and
  `tick_effects` that every run of a step has this form.
-/

namespace Quiesce

variable {target : Target} {timeout retryDelay : Duration} {pod : Option Pod}
  {talk : List Exchange} {decision : Decision}

/-! ## Marks -/

/-- A patch that wrote a mark, or tried to: the instant that it was to hold, and the answer. -/
structure Marking where
  instant : Instant
  answer : Except PodStoreError Pod

/-- The exchange of a patch that writes the single mark `key` on a pod. -/
def Marking.exchange (key : String) (pod : Pod) (m : Marking) : Exchange :=
  ⟨.patch pod (.single key (markText m.instant)), m.answer⟩

/-- The exchanges of at most one patch on at most one pod. -/
def markingExchanges (key : String) (pod : Option Pod) (m : Option Marking) : List Exchange :=
  (m.bind fun m => pod.map fun p => m.exchange key p).toList

/-- The pod as it is known after at most one patch. -/
def podAfter (pod : Option Pod) : Option Marking → Option Pod
  | some ⟨_, .ok written⟩ => some written
  | _ => pod

/-- The failure of at most one patch. -/
def refusal? : Option Marking → Option PodStoreError
  | some ⟨_, .error e⟩ => some e
  | _ => none

/-- What came of marking a pod by at most one patch. -/
def markResult (pod : Option Pod) (m : Option Marking) : Except PodStoreError (Option Pod) :=
  match refusal? m with
  | some e => .error e
  | none => .ok (podAfter pod m)

/-- Whether there is a pod without an annotation, be it an empty one. -/
def lacks (key : String) (pod : Option Pod) : Bool :=
  pod.any fun p => !p.hasAnnotation key

/-- Writing a mark, call by call: without a pod nothing is asked, with a pod that has the mark only
the clock, and else the mark is written with what the clock shows. -/
inductive MarkTalk (key : String) :
    Option Pod → List Exchange → Except PodStoreError (Option Pod) → Prop
  | absent : MarkTalk key none [] (.ok none)
  | present {p : Pod} (now : Instant) (has : p.hasAnnotation key = true) :
      MarkTalk key (some p) [⟨.now, now⟩] (.ok (some p))
  | written {p : Pod} (now : Instant) (answer : Except PodStoreError Pod)
      (lacks : p.hasAnnotation key = false) :
      MarkTalk key (some p)
        [⟨.now, now⟩, ⟨.patch p (.single key (markText now)), answer⟩] (answer.map some)

/-- The dialogues of marking a pod. -/
theorem markPod_talk {key : String} {result : Except PodStoreError (Option Pod)} :
    (markPod key pod).Dialogue talk result ↔ MarkTalk key pod talk result := by
  constructor
  · intro h
    cases pod with
    | none =>
      cases h
      exact .absent
    | some p =>
      change (Program.call .now fun now => (annotateOnce p key (markText now)).bind fun answered =>
        .done (Except.map some answered)).Dialogue talk result at h
      -- the clock is read first, whether or not the mark is then written
      cases h with
      | @call _ _ rest _ now h =>
        change ((annotateOnce p key (markText now)).bind fun answered =>
          .done (Except.map some answered)).Dialogue rest result at h
        cases hkey : p.hasAnnotation key with
        | true =>
          have hpresent : annotateOnce p key (markText now) = .done (.ok p) := if_pos hkey
          rw [hpresent] at h
          cases h
          exact .present now hkey
        | false =>
          rw [annotateOnce_absent (markText now) hkey] at h
          cases h with
          | call answer h =>
            cases h
            exact .written now answer hkey
  · intro h
    cases h with
    | absent => exact .done _
    | @present p now has =>
      have hpresent : annotateOnce p key (markText now) = .done (.ok p) := if_pos has
      refine .call _ ?_
      show ((annotateOnce p key (markText now)).bind fun answered =>
        .done (Except.map some answered)).Dialogue [] _
      rw [hpresent]
      exact .done _
    | @written p now answer lacks =>
      refine .call _ ?_
      show ((annotateOnce p key (markText now)).bind fun answered =>
        .done (Except.map some answered)).Dialogue _ _
      rw [annotateOnce_absent (markText now) lacks]
      exact .call _ (.done _)

/-- **A mark is one patch, exactly if there is a pod without it.** -/
theorem markPod_dialogue {key : String} {result : Except PodStoreError (Option Pod)}
    (h : (markPod key pod).Dialogue talk result) :
    ∃ m : Option Marking, effects talk = markingExchanges key pod m ∧
      m.isSome = lacks key pod ∧ result = markResult pod m := by
  cases markPod_talk.1 h with
  | absent => exact ⟨none, rfl, rfl, rfl⟩
  | present now has =>
    refine ⟨none, rfl, ?_, rfl⟩
    simp [lacks, has]
  | written now answer hlacks =>
    refine ⟨some ⟨now, answer⟩, rfl, ?_, ?_⟩
    · simp [lacks, hlacks]
    · cases answer with
      | ok written => rfl
      | error e => rfl

/-! ## The registry -/

/-- What a decision asks of the registry, each call with its answer: a listing to look the runner
up, a removal, and a listing for the record. -/
structure Consultation where
  lookup : Option (Except RegistryError (List Runner))
  removal : Option (Int64 × Except RegistryError Unit)
  record : Option (Except RegistryError (List Runner))

namespace Consultation

/-- No call to the registry. -/
def none : Consultation := ⟨.none, .none, .none⟩

/-- The exchanges of at most one listing. -/
def listing (scope : Scope) (answer : Option (Except RegistryError (List Runner))) :
    List Exchange :=
  answer.toList.map fun a => ⟨.list scope, a⟩

/-- The exchanges of at most one removal. -/
def removing (scope : Scope) (removal : Option (Int64 × Except RegistryError Unit)) :
    List Exchange :=
  removal.toList.map fun r => ⟨.remove scope r.1, r.2⟩

/-- The exchanges with the registry, in order. -/
def exchanges (scope : Scope) (c : Consultation) : List Exchange :=
  listing scope c.lookup ++ (removing scope c.removal ++ listing scope c.record)

/-- The failure of the removal or of the look-up that was to come before it. -/
def failure? (c : Consultation) : Option RegistryError :=
  match c.removal, c.lookup with
  | some (_, .error e), _ => some e
  | .none, some (.error e) => some e
  | _, _ => .none

end Consultation

open Consultation (listing removing)

@[simp] theorem effects_listing (scope : Scope)
    (answer : Option (Except RegistryError (List Runner))) :
    effects (listing scope answer) = listing scope answer := by
  cases answer with
  | none => rfl
  | some a => rfl

@[simp] theorem effects_removing (scope : Scope)
    (removal : Option (Int64 × Except RegistryError Unit)) :
    effects (removing scope removal) = removing scope removal := by
  cases removal with
  | none => rfl
  | some r => rfl

/-- A removal has failed if the answer is a failure that says more than that there is no such
runner. -/
theorem Removal.ofAnswer_eq_failed {answer : Except RegistryError Unit} {e : RegistryError} :
    ofAnswer answer = .failed e ↔ answer = .error e ∧ e.isNotFound = false := by
  cases answer with
  | ok u => simp [ofAnswer]
  | error e' =>
    unfold ofAnswer
    dsimp only
    cases hfound : e'.isNotFound with
    | true =>
      simp only [if_true]
      refine ⟨nofun, fun h => ?_⟩
      obtain ⟨rfl, hnot⟩ : e' = e ∧ e.isNotFound = false := by simpa using h
      rw [hnot] at hfound
      cases hfound
    | false =>
      refine ⟨fun h => ?_, fun h => ?_⟩
      · obtain rfl : e' = e := by simpa using h
        exact ⟨rfl, hfound⟩
      · obtain ⟨rfl, -⟩ : e' = e ∧ e.isNotFound = false := by simpa using h
        rfl

/-- A removal lists the runners first if it is not given a number. Apart from a runner that is not
found, it fails as the registry did. -/
theorem unregister_dialogue {id : Option Int64} {removal : Removal}
    (h : (unregister target id).Dialogue talk removal) :
    ∃ lookup removed, talk = listing target.scope lookup ++ removing target.scope removed ∧
      (lookup.isSome = true → id = none) ∧
      ∀ e, e.isNotFound = false →
        (removal = .failed e ↔ (Consultation.mk lookup removed none).failure? = some e) := by
  have hfailure : ∀ (answer : Except RegistryError Unit) (e : RegistryError),
      e.isNotFound = false → (Removal.ofAnswer answer = .failed e ↔ answer = .error e) :=
    fun answer e he => Removal.ofAnswer_eq_failed.trans ⟨fun h => h.1, fun h => ⟨h, he⟩⟩
  cases unregister_attempt h with
  | known n answer =>
    refine ⟨none, some (n, answer), rfl, nofun, fun e he => (hfailure answer e he).trans ?_⟩
    cases answer <;> simp [Consultation.failure?]
  | unlisted e' =>
    refine ⟨some (.error e'), none, rfl, fun _ => rfl, fun e _ => ?_⟩
    simp [Consultation.failure?]
  | @absent runners hnone =>
    refine ⟨some (.ok runners), none, rfl, fun _ => rfl, fun e _ => ?_⟩
    simp [Consultation.failure?]
  | @found runners n answer hsome =>
    refine ⟨some (.ok runners), some (n, answer), rfl, fun _ => rfl,
      fun e he => (hfailure answer e he).trans ?_⟩
    cases answer <;> simp [Consultation.failure?]

/-- What is asked after a removal: `record` is the answer to the listing for the record. -/
structure Recorded (target : Target) (timeout retryDelay : Duration) (pod : Option Pod)
    (removal : Removal) (talk : List Exchange) (decision : Decision)
    (record : Option (Except RegistryError (List Runner))) : Prop where
  effects : effects talk = listing target.scope record
  iff : record.isSome = true ↔ ∃ e, removal = .failed e ∧ RefusedForGood pod e
  idle : ∀ answer, record = some answer → talk = [⟨.list target.scope, answer⟩] ∧
    ∀ other, (decideRemoval target timeout retryDelay pod removal).Dialogue
      [⟨.list target.scope, other⟩] decision

theorem Recorded.nothing {removal : Removal} (hquiet : Quiesce.effects talk = [])
    (hnot : ∀ e, removal = .failed e → ¬RefusedForGood pod e) :
    Recorded target timeout retryDelay pod removal talk decision none where
  effects := hquiet
  iff := ⟨fun h => (Bool.false_ne_true h).elim, fun ⟨e, he, hrefused⟩ => (hnot e he hrefused).elim⟩
  idle := fun _ h => (Option.some_ne_none _ h.symm).elim

/-- What is made of a removal asks the registry again only for the record, after a refusal for the
state of a runner whose container has terminated, and whatever that listing is answered, the
decision is the same. -/
theorem decideRemoval_dialogue {removal : Removal}
    (h : (decideRemoval target timeout retryDelay pod removal).Dialogue talk decision) :
    ∃ record, Recorded target timeout retryDelay pod removal talk decision record := by
  cases removal with
  | removed =>
    cases h
    exact ⟨none, .nothing rfl fun e he => Removal.noConfusion he⟩
  | notFound =>
    have hclock := (decideNotFound_asksClock timeout retryDelay pod).dialogue h
    exact ⟨none, .nothing (effects_eq_nil hclock) fun e he => Removal.noConfusion he⟩
  | failed e =>
    change (decideFailure target pod e).Dialogue talk decision at h
    by_cases hrefused : RefusedForGood pod e
    · have hlist := decideFailure_for_good target hrefused
      rw [hlist] at h
      cases h with
      | call answer h =>
        cases h
        refine ⟨some answer, rfl, ⟨fun _ => ⟨e, rfl, hrefused⟩, fun _ => rfl⟩, fun answer' h' => ?_⟩
        cases h'
        refine ⟨rfl, fun other => ?_⟩
        -- the answer to the listing is dropped
        show (decideFailure target pod e).Dialogue _ _
        rw [hlist]
        exact .call other (.done _)
    · obtain ⟨d, -, hd⟩ := decideFailure_otherwise target hrefused
      rw [hd] at h
      cases h
      refine ⟨none, .nothing rfl fun e' he => ?_⟩
      cases he
      exact hrefused

/-- When a decision about a pod calls the registry. -/
structure Consultation.Lawful (c : Consultation) (target : Target) (timeout retryDelay : Duration)
    (pod : Option Pod) (talk : List Exchange) (decision : Decision) : Prop where
  effects : effects talk = c.exchanges target.scope
  /-- A pod with a complete mark is not asked about. -/
  confirmed : pod.any (·.isMarked Pod.completeKey) = true → c = .none
  /-- The runner is looked up only if the pod has no number for it. -/
  lookup : c.lookup.isSome = true → pod.bind (·.annotation? Pod.runnerIdKey) = .none
  /-- The listing for the record is made exactly after a refusal for the state of a runner whose
  container has terminated. -/
  record_iff : c.record.isSome = true ↔ ∃ e, c.failure? = some e ∧ RefusedForGood pod e
  /-- The answer to the listing for the record, the last of the dialogue, decides nothing. -/
  record_idle : ∀ answer, c.record = some answer →
    ∃ before, talk = before ++ [⟨.list target.scope, answer⟩] ∧
      ∀ other, (ensureUnregistered target timeout retryDelay pod).Dialogue
        (before ++ [⟨.list target.scope, other⟩]) decision

theorem Consultation.Lawful.nothing :
    Consultation.none.Lawful target timeout retryDelay pod [] decision where
  effects := rfl
  confirmed := fun _ => rfl
  lookup := fun h => (Bool.false_ne_true h).elim
  record_iff := ⟨fun h => (Bool.false_ne_true h).elim,
    fun ⟨_, h, _⟩ => (Option.some_ne_none _ h.symm).elim⟩
  record_idle := fun _ h => (Option.some_ne_none _ h.symm).elim

/-- No number is recorded only if the annotation is not there. -/
theorem recordedId_eq_none {id : Option Int64} (h : recordedId pod = .ok id) (hid : id = none) :
    pod.bind (·.annotation? Pod.runnerIdKey) = none := by
  subst hid
  unfold recordedId at h
  cases htext : pod.bind (·.annotation? Pod.runnerIdKey) with
  | none => rfl
  | some text =>
    rw [htext] at h
    dsimp only at h
    cases hread : Text.readInt64 text with
    | ok n =>
      rw [hread] at h
      cases h
    | error reason =>
      rw [hread] at h
      cases h

/-- **A decision asks the registry at most three times.** The removal comes first, with its own
look-up, and what is made of it comes second. -/
theorem ensureUnregistered_dialogue
    (h : (ensureUnregistered target timeout retryDelay pod).Dialogue talk decision) :
    ∃ c : Consultation, c.Lawful target timeout retryDelay pod talk decision := by
  cases hopen : pod.any (·.isMarked Pod.completeKey) with
  | true =>
    rw [ensureUnregistered_of_confirmed target timeout retryDelay hopen] at h
    cases h
    exact ⟨.none, .nothing⟩
  | false =>
    cases hid : recordedId pod with
    | error e =>
      rw [ensureUnregistered_of_malformed target timeout retryDelay hopen hid] at h
      cases h
      exact ⟨.none, .nothing⟩
    | ok id =>
      have hprogram := ensureUnregistered_unconfirmed target timeout retryDelay hopen hid
      rw [hprogram] at h
      obtain ⟨first, second, removal, rfl, hremoved, hdecided⟩ := Program.dialogue_bind.1 h
      obtain ⟨lookup, removed, rfl, hlookup, hfailed⟩ := unregister_dialogue hremoved
      obtain ⟨record, hrecord⟩ := decideRemoval_dialogue hdecided
      refine ⟨⟨lookup, removed, record⟩, ?_, ?_, ?_, ?_, ?_⟩
      · simp [hrecord.effects, Consultation.exchanges]
      · rw [hopen]
        nofun
      · exact fun hsome => recordedId_eq_none hid (hlookup hsome)
      · -- a refusal is not the failure to find the runner, so it reaches the decision as it is
        refine hrecord.iff.trans (exists_congr fun e => and_congr_left fun hrefused => hfailed e ?_)
        cases e with
        | notFound text => cases hrefused.1
        | _ => rfl
      · rintro answer rfl
        obtain ⟨rfl, hother⟩ := hrecord.idle answer rfl
        refine ⟨_, rfl, fun other => ?_⟩
        rw [hprogram]
        exact hremoved.bind (hother other)

/-! ## The end of a step -/

/-- The outcome that a decision about a pod stands for. -/
def TickOutcome.ofDecision (pod : Option Pod) : Decision → TickOutcome
  | .deletable => .deletable pod
  | .requeue after cause => .requeue after cause
  | .failed e => .failed e

/-- What is left of a step once it has decided. -/
def finish (retryDelay : Duration) (pod : Option Pod) : Decision → Program TickOutcome
  | .deletable =>
    (markPod Pod.completeKey pod).bind fun
      | .error e => .done (.ofPatchError retryDelay e)
      | .ok pod => .done (.deletable pod)
  | .requeue after cause => .done (.requeue after cause)
  | .failed e => .done (.failed e)

/-- **The step in its parts**: the mark for the start, the decision, and what is made of it. -/
theorem tick_eq (target : Target) (timeout retryDelay : Duration) (pod : Option Pod) :
    tick target timeout retryDelay pod =
      (markPod Pod.startKey pod).bind fun
        | .error e => .done (.ofPatchError retryDelay e)
        | .ok pod =>
          (ensureUnregistered target timeout retryDelay pod).bind (finish retryDelay pod) := by
  refine congrArg (markPod Pod.startKey pod).bind (funext fun marked => ?_)
  cases marked with
  | error e => rfl
  | ok pod =>
    refine congrArg (ensureUnregistered target timeout retryDelay pod).bind
      (funext fun decision => ?_)
    cases decision with
    | requeue after cause => rfl
    | failed e => rfl
    | deletable =>
      refine congrArg (markPod Pod.completeKey pod).bind (funext fun marked => ?_)
      cases marked with
      | error e => rfl
      | ok pod => rfl

/-- The end of a step marks a deletable pod that is not marked yet, and does nothing else. -/
theorem finish_dialogue {outcome : TickOutcome}
    (h : (finish retryDelay pod decision).Dialogue talk outcome) :
    ∃ m : Option Marking, effects talk = markingExchanges Pod.completeKey pod m ∧
      (m.isSome = true ↔ decision = .deletable ∧ lacks Pod.completeKey pod = true) ∧
      outcome = match refusal? m with
        | some e => .ofPatchError retryDelay e
        | none => .ofDecision (podAfter pod m) decision := by
  cases decision with
  | requeue after cause =>
    cases h
    exact ⟨none, rfl, by simp, rfl⟩
  | failed e =>
    cases h
    exact ⟨none, rfl, by simp, rfl⟩
  | deletable =>
    obtain ⟨first, second, result, rfl, hmark, hend⟩ := Program.dialogue_bind.1 h
    obtain ⟨m, heffects, hsome, rfl⟩ := markPod_dialogue hmark
    unfold markResult at hend
    cases hrefusal : refusal? m with
    | some e =>
      rw [hrefusal] at hend
      cases hend
      exact ⟨m, by simpa using heffects, by simp [hsome], by rw [hrefusal]⟩
    | none =>
      rw [hrefusal] at hend
      cases hend
      exact ⟨m, by simpa using heffects, by simp [hsome], by rw [hrefusal]; rfl⟩

/-! ## The whole step -/

/-- What a step asks of the registry and the cluster: the answers to its calls. -/
structure Effects where
  start : Option Marking
  registry : Consultation
  complete : Option Marking

namespace Effects

/-- The pod as it is known after the start mark, `given` being the one that the step was given. -/
def started (e : Effects) (given : Option Pod) : Option Pod :=
  podAfter given e.start

/-- The exchanges of a step with the registry and the cluster, in order. -/
def exchanges (e : Effects) (target : Target) (given : Option Pod) : List Exchange :=
  markingExchanges Pod.startKey given e.start ++
    (e.registry.exchanges target.scope ++
      markingExchanges Pod.completeKey (e.started given) e.complete)

/-- The failure of one of the two patches. -/
def patchFailure? (e : Effects) : Option PodStoreError :=
  (refusal? e.start).or (refusal? e.complete)

/-- When a step makes which of its calls, and what it comes to: `talk` is its dialogue and
`decision` the decision about the pod that the start mark has left. -/
structure Form (e : Effects) (target : Target) (timeout retryDelay : Duration)
    (given : Option Pod) (talk : List Exchange) (decision : Decision) (outcome : TickOutcome) :
    Prop where
  effects : effects talk = e.exchanges target given
  /-- The start mark is written exactly if there is a pod without it. -/
  start_iff : e.start.isSome = true ↔ ∃ p, given = some p ∧ p.hasAnnotation Pod.startKey = false
  /-- After a start mark that was refused nothing else is called. -/
  start_refused : (refusal? e.start).isSome = true → e.registry = .none ∧ e.complete = none
  /-- The registry is not called about a pod with a complete mark. -/
  confirmed : (e.started given).any (·.isMarked Pod.completeKey) = true → e.registry = .none
  /-- The runner is looked up only if the pod has no number for it. -/
  lookup : e.registry.lookup.isSome = true →
    (e.started given).bind (·.annotation? Pod.runnerIdKey) = none
  /-- The second listing is made exactly after a refusal of the registry with the status for the
  state of the runner, if the container of the runner has terminated. -/
  record_iff : e.registry.record.isSome = true ↔ ∃ err, e.registry.failure? = some err ∧
    err.status? = some 422 ∧ ((e.started given).bind (·.exitCode?)).isSome = true
  /-- With another answer to the second listing and the same answers to all other calls, the step
  comes to the same. -/
  record_idle : ∀ answer, e.registry.record = some answer →
    ∃ before after, talk = before ++ ⟨.list target.scope, answer⟩ :: after ∧
      Quiesce.effects after = markingExchanges Pod.completeKey (e.started given) e.complete ∧
      ∀ other outcome', (tick target timeout retryDelay given).Dialogue
        (before ++ ⟨.list target.scope, other⟩ :: after) outcome' ↔ outcome' = outcome
  /-- The complete mark is written exactly if the decision is that the pod may go and there is a pod
  without the mark. -/
  complete_iff : e.complete.isSome = true ↔ refusal? e.start = none ∧ decision = .deletable ∧
    ∃ p, e.started given = some p ∧ p.hasAnnotation Pod.completeKey = false
  /-- A patch that was refused is tried again if the pod had changed, else it is a failure. -/
  refused : ∀ err, e.patchFailure? = some err →
    outcome = if err.isConflict then .requeue retryDelay (some (.podStore err))
      else .failed (.podStore err)
  /-- Otherwise the decision is the outcome, with the pod that the last patch has left. -/
  decided : e.patchFailure? = none →
    outcome = .ofDecision (podAfter (e.started given) e.complete) decision

end Effects

theorem lacks_eq_true {key : String} :
    lacks key pod = true ↔ ∃ p, pod = some p ∧ p.hasAnnotation key = false := by
  cases pod <;> simp [lacks]

/-- A step whose start mark is refused ends there. -/
theorem Effects.form_of_refused {err : PodStoreError}
    (hmark : (markPod Pod.startKey pod).Dialogue talk (.error err)) :
    ∃ e : Effects, ∀ decision, e.Form target timeout retryDelay pod talk decision
      (.ofPatchError retryDelay err) := by
  obtain ⟨start, hstart, hsome, hresult⟩ := markPod_dialogue hmark
  have hrefusal : refusal? start = some err := by
    unfold markResult at hresult
    cases h : refusal? start with
    | some err' =>
      rw [h] at hresult
      cases hresult
      rfl
    | none =>
      rw [h] at hresult
      cases hresult
  -- the step ends here, so what would have been decided plays no part
  refine ⟨⟨start, .none, none⟩, fun decision => ?_⟩
  have hnothing : Consultation.none.Lawful target timeout retryDelay (podAfter pod start) []
      decision := .nothing
  constructor
  case effects =>
    show effects talk = markingExchanges Pod.startKey pod start ++ ([] ++ [])
    rw [hstart]
    exact (List.append_nil _).symm
  case start_iff => exact (Bool.eq_iff_iff.1 hsome).trans lacks_eq_true
  case start_refused => exact fun _ => ⟨rfl, rfl⟩
  case confirmed => exact hnothing.confirmed
  case lookup => exact hnothing.lookup
  case record_iff => exact hnothing.record_iff
  case record_idle => exact fun _ h => (Option.some_ne_none _ h.symm).elim
  case complete_iff => simp [hrefusal]
  case refused =>
    intro e he
    obtain rfl : err = e := by simpa [Effects.patchFailure?, hrefusal] using he
    rfl
  case decided =>
    intro hnone
    simp [Effects.patchFailure?, hrefusal] at hnone

/-- **The dialogues of the three parts of a step, one after the other, have the form of a step.** -/
theorem Effects.form_of_parts {marked : Option Pod} {first second third : List Exchange}
    {outcome : TickOutcome} (hmark : (markPod Pod.startKey pod).Dialogue first (.ok marked))
    (hdecided : (ensureUnregistered target timeout retryDelay marked).Dialogue second decision)
    (hend : (finish retryDelay marked decision).Dialogue third outcome) :
    ∃ e : Effects, e.started pod = marked ∧ e.Form target timeout retryDelay pod
      (first ++ (second ++ third)) decision outcome := by
  obtain ⟨start, hstart, hsome, hresult⟩ := markPod_dialogue hmark
  obtain ⟨c, hc⟩ := ensureUnregistered_dialogue hdecided
  obtain ⟨complete, hcomplete, hiff, houtcome⟩ := finish_dialogue hend
  have hstarted : refusal? start = none ∧ podAfter pod start = marked := by
    unfold markResult at hresult
    cases h : refusal? start with
    | some err =>
      rw [h] at hresult
      cases hresult
    | none =>
      rw [h] at hresult
      cases hresult
      exact ⟨rfl, rfl⟩
  obtain ⟨hrefusal, rfl⟩ := hstarted
  have hfailure : (Effects.mk start c complete).patchFailure? = refusal? complete := by
    simp [Effects.patchFailure?, hrefusal]
  refine ⟨⟨start, c, complete⟩, rfl, ?_⟩
  constructor
  case effects =>
    rw [effects_append, effects_append, hstart, hc.effects, hcomplete]
    rfl
  case start_iff => exact (Bool.eq_iff_iff.1 hsome).trans lacks_eq_true
  case start_refused => simp [hrefusal]
  case confirmed => exact hc.confirmed
  case lookup => exact hc.lookup
  case record_iff => exact hc.record_iff
  case record_idle =>
    intro answer hanswer
    obtain ⟨before, rfl, hother⟩ := hc.record_idle answer hanswer
    refine ⟨first ++ before, third, by simp, hcomplete, fun other outcome' => ?_⟩
    -- the three parts again, with another answer at the end of the second
    have hagain : (tick target timeout retryDelay pod).Dialogue
        (first ++ before ++ ⟨.list target.scope, other⟩ :: third) outcome := by
      have hsecond := (hother other).bind hend
      rw [List.append_assoc, List.singleton_append] at hsecond
      rw [tick_eq, List.append_assoc]
      exact hmark.bind hsecond
    exact ⟨fun h => Program.dialogue_unique hagain h, fun h => h ▸ hagain⟩
  case complete_iff =>
    simp only [hrefusal, true_and]
    exact hiff.trans (and_congr_right fun _ => lacks_eq_true)
  case refused =>
    intro err herr
    rw [hfailure] at herr
    rw [houtcome, herr]
    rfl
  case decided =>
    intro hnone
    rw [hfailure] at hnone
    rw [houtcome, hnone]
    rfl

/-- Every run of a step has effects of the form that is described. -/
theorem tick_form {σ : Type} (handler : Handler σ) (s : σ) (target : Target)
    (timeout retryDelay : Duration) (pod : Option Pod) :
    ∃ e : Effects, e.Form target timeout retryDelay pod
      ((tick target timeout retryDelay pod).exchanges handler s)
      ((ensureUnregistered target timeout retryDelay (e.started pod)).run handler
        ((markPod Pod.startKey pod).run handler s).state).value
      ((tick target timeout retryDelay pod).run handler s).value := by
  have hmark := Program.dialogue_exchanges handler (markPod Pod.startKey pod) s
  rw [tick_eq, Program.exchanges_bind, Program.value_bind]
  cases hresult : ((markPod Pod.startKey pod).run handler s).value with
  | error err =>
    rw [hresult] at hmark
    dsimp only
    show ∃ e : Effects, e.Form target timeout retryDelay pod (_ ++ []) _ _
    rw [List.append_nil]
    obtain ⟨e, hform⟩ := Effects.form_of_refused hmark
    exact ⟨e, hform _⟩
  | ok marked =>
    rw [hresult] at hmark
    dsimp only
    rw [Program.exchanges_bind, Program.value_bind]
    generalize ((markPod Pod.startKey pod).run handler s).state = s₁
    -- The exchanges are those of the start mark, of the decision and of the end, one behind the
    -- other.
    have hdecided := Program.dialogue_exchanges handler
      (ensureUnregistered target timeout retryDelay marked) s₁
    have hend := Program.dialogue_exchanges handler
      (finish retryDelay marked
        ((ensureUnregistered target timeout retryDelay marked).run handler s₁).value)
      ((ensureUnregistered target timeout retryDelay marked).run handler s₁).state
    obtain ⟨e, rfl, hform⟩ := Effects.form_of_parts hmark hdecided hend
    exact ⟨e, hform⟩

/-- **Every run of a step has the form of a step**, whatever the registry, the cluster and the clock
answer. Its calls but for the readings of the clock are those of the form. -/
theorem tick_effects {σ : Type} (handler : Handler σ) (s : σ) (target : Target)
    (timeout retryDelay : Duration) (pod : Option Pod) :
    ∃ e : Effects,
      ((tick target timeout retryDelay pod).run handler s).calls.filter Call.isEffect =
        (e.exchanges target pod).map (·.call) ∧
      e.Form target timeout retryDelay pod
        ((tick target timeout retryDelay pod).exchanges handler s)
        ((ensureUnregistered target timeout retryDelay (e.started pod)).run handler
          ((markPod Pod.startKey pod).run handler s).state).value
        ((tick target timeout retryDelay pod).run handler s).value := by
  obtain ⟨e, hform⟩ := tick_form handler s target timeout retryDelay pod
  refine ⟨e, ?_, hform⟩
  rw [← hform.effects, calls_effects, Program.calls_exchanges]

end Quiesce
