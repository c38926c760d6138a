import Quiesce.Proofs.Backoff
import Quiesce.Proofs.PageRequests
import Quiesce.Proofs.TickCases
import Quiesce.Proofs.WorldSteps

/-!
# From the response to a removal to the decision

A removal is one request over HTTP, and what its response says passes through two classifications
before it is a decision: the response is first taken for a success or for a cause, and the cause is
then decided upon. This module puts the two together. No decision comes of a response over which the
process panics.

* `Verdict` is what a response is taken for, with a condition for each case.
* `run_decideFailure_refused` and `value_decideRemoval_requeue_iff` are the decisions on causes.
* `removal_response_decides` is the main statement, and `bygone_response_panics` a response without
  a decision.
-/

namespace Quiesce

open Http (Request Response Reply Network)
open RegistryError (Says SlowsDown Asks Overflows)

/-! ## What a response is taken for -/

namespace RegistryClient

/-- The request for the removal of a runner, if it can be sent. -/
def removalRequest (client : RegistryClient) (scope : Scope) (id : Int64) :
    Except RegistryError Request :=
  (client.destination ((client.runnersUrl scope).map (runnerUrl · id))).bind (request .delete)

/-- What a response with that message is taken for: the runner was removed, is not known, or was
refused its removal; or the caller is to slow down, unless the process panics over the wait. -/
inductive Verdict (now : Int64) (r : Response) (message : String) :
    Except Panic (Except RegistryError Unit) → Prop
  | removed (success : 200 ≤ r.status ∧ r.status < 300) : Verdict now r message (.ok (.ok ()))
  | unknown (status : r.status = 404) : Verdict now r message (.ok (.error (.notFound message)))
  | slowed {wait : Option Duration} (slow : SlowsDown r.status r.headers message)
      (asks : Asks now.toInt r.headers wait) (fits : ¬Overflows now.toInt r.headers) :
      Verdict now r message (.ok (.error (.rateLimited message wait)))
  | panicked (slow : SlowsDown r.status r.headers message)
      (overflows : Overflows now.toInt r.headers) : Verdict now r message (.error .subtraction)
  | refused (failure : ¬(200 ≤ r.status ∧ r.status < 300)) (known : r.status ≠ 404)
      (calm : ¬SlowsDown r.status r.headers message) :
      Verdict now r message (.ok (.error (.api r.status message)))

theorem isSuccess_iff {status : Nat} :
    Http.isSuccess status = true ↔ 200 ≤ status ∧ status < 300 := by
  unfold Http.isSuccess
  rw [Bool.and_eq_true, decide_eq_true_iff, decide_eq_true_iff]

/-- Whatever a response says, it is taken for one of these. -/
theorem removalOfReply_verdict (now : Int64) (sent : Request) {r : Response} {message : String}
    (hbody : Says r.failureText message) :
    Verdict now r message (removalOfReply now sent (.response r)) := by
  unfold removalOfReply failure
  dsimp only
  by_cases hsuccess : Http.isSuccess r.status = true
  · rw [if_pos hsuccess]
    exact .removed (isSuccess_iff.1 hsuccess)
  · rw [if_neg hsuccess]
    by_cases hslow : SlowsDown r.status r.headers message
    · rw [RegistryError.ofFailure_of_slowsDown now hbody hslow]
      cases hwait : RegistryError.suggestedBackoff now r.headers with
      | ok wait =>
        obtain ⟨hasks, hfits⟩ := RegistryError.suggestedBackoff_eq_ok_iff.1 hwait
        exact .slowed hslow hasks hfits
      | error panic =>
        cases panic
        exact .panicked hslow (RegistryError.suggestedBackoff_eq_error_iff.1 hwait)
    · rw [RegistryError.ofFailure_of_not_slowsDown now hbody hslow]
      by_cases hstatus : r.status = 404
      · rw [if_pos hstatus]
        exact .unknown hstatus
      · rw [if_neg hstatus]
        exact .refused (mt isSuccess_iff.2 hsuccess) hstatus hslow

end RegistryClient

/-- What a removal and the connection after it tell of its response, which has that message, `left`
being the connection without the reply. -/
structure Removal.Tells (r : Response) (message : String) (left : Connection) (removal : Removal)
    (after : Connection) : Prop where
  removed_iff : removal = .removed ↔ 200 ≤ r.status ∧ r.status < 300
  notFound_iff : removal = .notFound ↔ r.status = 404
  rateLimited_iff : ∀ text reset, removal = .failed (.rateLimited text reset) ↔
    SlowsDown r.status r.headers message ∧ ¬Overflows (Services.unixNow left).toInt r.headers ∧
      text = message ∧ Asks (Services.unixNow left).toInt r.headers reset
  refused : ¬(200 ≤ r.status ∧ r.status < 300) → r.status ≠ 404 →
    ¬SlowsDown r.status r.headers message → removal = .failed (.api r.status message)
  /-- A failure that has a status has that of the response. -/
  status_eq : ∀ e status, removal = .failed e → e.status? = some status → status = r.status
  panicked : SlowsDown r.status r.headers message ∧
    Overflows (Services.unixNow left).toInt r.headers →
      after = { left with panic := some .subtraction }
  running : ¬(SlowsDown r.status r.headers message ∧
    Overflows (Services.unixNow left).toInt r.headers) → after = left

/-- No response is two things: its status tells them apart, and slowing down has statuses of its
own. -/
theorem RegistryClient.Verdict.tells {r : Response} {message : String}
    {result : Except Panic (Except RegistryError Unit)} {c : Connection}
    (h : Verdict (Services.unixNow c) r message result) (network : Network) :
    let concluded := c.concluding (result, network)
    (Removal.ofAnswer concluded.1).Tells r message { c with network } concluded.2 := by
  have hslowing : ∀ {P : Prop}, SlowsDown r.status r.headers message ∧ P →
      r.status = 429 ∨ r.status = 403 := fun h => RegistryError.status_of_slowsDown h.1
  cases h with
  | removed success => exact {
      removed_iff := iff_of_true rfl success
      notFound_iff := iff_of_false nofun (by omega)
      rateLimited_iff := fun _ _ => iff_of_false nofun fun h => by have := hslowing h; omega
      refused := fun h => absurd success h
      status_eq := nofun
      panicked := fun h => by have := hslowing h; omega
      running := fun _ => rfl }
  | unknown status => exact {
      removed_iff := iff_of_false nofun (by omega)
      notFound_iff := iff_of_true rfl status
      rateLimited_iff := fun _ _ => iff_of_false nofun fun h => by have := hslowing h; omega
      refused := fun _ h => absurd status h
      status_eq := nofun
      panicked := fun h => by have := hslowing h; omega
      running := fun _ => rfl }
  | @slowed wait slow asks fits =>
    have hstatus := RegistryError.status_of_slowsDown slow
    exact {
      removed_iff := iff_of_false nofun (by omega)
      notFound_iff := iff_of_false nofun (by omega)
      rateLimited_iff := by
        intro text reset
        constructor
        · intro h
          cases h
          exact ⟨slow, fits, rfl, asks⟩
        · rintro ⟨-, -, rfl, hasks⟩
          -- the headers ask for one wait only
          have hsame := (RegistryError.suggestedBackoff_of_asks asks fits).symm.trans
            (RegistryError.suggestedBackoff_of_asks hasks fits)
          cases hsame
          rfl
      refused := fun _ _ h => absurd slow h
      status_eq := by
        rintro e status ⟨⟩
        exact nofun
      panicked := fun h => absurd h.2 fits
      running := fun _ => rfl }
  | panicked slow overflows =>
    have hstatus := RegistryError.status_of_slowsDown slow
    exact {
      removed_iff := iff_of_false nofun (by omega)
      notFound_iff := iff_of_false nofun (by omega)
      rateLimited_iff := fun _ _ => iff_of_false nofun fun h => h.2.1 overflows
      refused := fun _ _ h => absurd slow h
      status_eq := by
        rintro e status ⟨⟩
        exact nofun
      panicked := fun _ => rfl
      running := fun h => absurd ⟨slow, overflows⟩ h }
  | refused failure known calm => exact {
      removed_iff := iff_of_false nofun failure
      notFound_iff := iff_of_false nofun known
      rateLimited_iff := fun _ _ => iff_of_false nofun fun h => calm h.1
      refused := fun _ _ _ => rfl
      status_eq := by
        rintro e status ⟨⟩ hstatus
        exact (Option.some.inj hstatus).symm
      panicked := fun h => absurd h.1 calm
      running := fun _ => rfl }

/-- A removal that can be sent takes the next reply, and the connection is left with the others. -/
theorem run_unregister_response (services : Services) (target : Target) (c : Connection)
    {id : Int64} {sent : Request} {reply : Reply} {replies : List Reply}
    (hsent : services.registry.removalRequest target.scope id = .ok sent)
    (hreplies : c.network.replies = reply :: replies) :
    (unregister target (some id)).run services.answer c =
      let concluded := c.concluding
        (RegistryClient.removalOfReply (Services.unixNow c) sent reply,
          ⟨replies, c.network.sent ++ [sent]⟩)
      ⟨.ofAnswer concluded.1, [.remove target.scope id], concluded.2⟩ := by
  have hremove : services.registry.remove (Services.unixNow c) target.scope id c.network =
      (RegistryClient.removalOfReply (Services.unixNow c) sent reply,
        ⟨replies, c.network.sent ++ [sent]⟩) := by
    unfold RegistryClient.removalRequest at hsent
    unfold RegistryClient.remove
    rw [hsent]
    dsimp only
    unfold Http.Network.send
    rw [hreplies]
  unfold unregister removeById
  rw [Program.run_call]
  unfold Services.answer
  dsimp only
  rw [hremove]
  rfl

/-! ## What is decided on a cause -/

section Causes

variable {σ : Type} (handler : Handler σ) (s : σ) (target : Target)

/-- A container of the runner's name has terminated. -/
def Pod.RunnerTerminated (pod : Pod) : Prop :=
  ∃ container ∈ pod.containers, container.name = runnerContainer ∧
    ∃ code, container.state = .terminated code

/-- A pod has an exit code exactly if a container of the name of the runner has terminated. -/
theorem Pod.isSome_exitCode?_iff {pod : Pod} :
    pod.exitCode?.isSome = true ↔ pod.RunnerTerminated := by
  unfold exitCode? RunnerTerminated
  rw [List.isSome_findSome?, List.any_filter, List.any_eq_true]
  refine exists_congr fun container => and_congr_right fun _ => ?_
  rw [Bool.and_eq_true, decide_eq_true_iff]
  refine and_congr_right fun _ => ?_
  cases container.state with
  | terminated code => exact ⟨fun _ => ⟨code, rfl⟩, fun _ => rfl⟩
  | waiting => exact ⟨nofun, nofun⟩
  | running => exact ⟨nofun, nofun⟩

/-- A failure is final if it is a refusal for the state of a runner whose container has
terminated. -/
theorem isFinal_iff {pod : Pod} {e : RegistryError} :
    (e.isStillRegistering && ((some pod).bind (·.exitCode?)).isSome) = true ↔
      e.status? = some 422 ∧ pod.RunnerTerminated := by
  rw [Bool.and_eq_true, Option.bind_some, Pod.isSome_exitCode?_iff]
  exact and_congr_left fun _ => decide_eq_true_iff

/-- A refusal that is final ends the decision at once, but for a look-up that is made for the
record. -/
theorem run_decideFailure_refused (pod : Pod) (status : Nat) (text : String) :
    (status = 422 ∧ pod.RunnerTerminated →
      (decideFailure target (some pod) (.api status text)).run handler s =
        ⟨.deletable, [.list target.scope], (handler (.list target.scope) s).2⟩) ∧
    (¬(status = 422 ∧ pod.RunnerTerminated) →
      (decideFailure target (some pod) (.api status text)).run handler s =
        ⟨.failed (.registry (.api status text)), [], s⟩) := by
  have hfinal : ((RegistryError.api status text).isStillRegistering &&
      ((some pod).bind (·.exitCode?)).isSome) = true ↔ status = 422 ∧ pod.RunnerTerminated :=
    isFinal_iff.trans (and_congr_left fun _ => ⟨Option.some.inj, congrArg some⟩)
  have hnot : ¬(RegistryError.api status text).isRateLimited = true := Bool.false_ne_true
  unfold decideFailure
  rw [if_neg hnot]
  refine ⟨fun h => ?_, fun h => ?_⟩
  · rw [if_pos (hfinal.2 h)]
    rfl
  · rw [if_neg (mt hfinal.1 h)]
    rfl

/-- A decision without the registry is never put off for a cause. -/
theorem value_decideNotFound_ne (timeout retryDelay : Duration) (pod : Option Pod)
    (after : Duration) (cause : StopError) :
    ((decideNotFound timeout retryDelay pod).run handler s).value ≠
      .requeue after (some cause) := by
  rcases decideNotFound_cases timeout retryDelay pod with
    ⟨d, hprogram, hcauseless⟩ | ⟨p, text, start, -, -, hread, hprogram⟩
  · rw [hprogram]
    exact hcauseless after cause
  · rw [hprogram, decideByStart_eq timeout retryDelay hread, Program.run_call, Program.run_done]
    dsimp only
    by_cases hwithin : Instant.elapsed (handler .now s).1 start < timeout
    · rw [if_pos hwithin]
      simp
    · rw [if_neg hwithin]
      exact nofun

/-- Whatever came of a removal, its decision is put off for a cause only to slow down. -/
theorem value_decideRemoval_requeue_iff (timeout retryDelay : Duration) (pod : Option Pod)
    (removal : Removal) (after : Duration) (cause : StopError) :
    ((decideRemoval target timeout retryDelay pod removal).run handler s).value =
        .requeue after (some cause) ↔
      ∃ text reset, removal = .failed (.rateLimited text reset) ∧
        after = .ofSeconds 60 ∧ cause = .registry (.rateLimited text reset) := by
  constructor
  · intro h
    cases removal with
    | removed => cases h
    | notFound =>
      rw [decideRemoval] at h
      exact absurd h (value_decideNotFound_ne handler s timeout retryDelay _ _ _)
    | failed e =>
      change ((decideFailure target pod e).run handler s).value = _ at h
      unfold decideFailure at h
      by_cases hlimited : e.isRateLimited = true
      · rw [if_pos hlimited] at h
        cases e with
        | rateLimited text reset =>
          cases h
          exact ⟨text, reset, rfl, rfl, rfl⟩
        | _ => cases hlimited
      · -- any other failure ends the decision
        rw [if_neg hlimited] at h
        by_cases hfinal : (e.isStillRegistering && (pod.bind (·.exitCode?)).isSome) = true
        · rw [if_pos hfinal] at h
          cases h
        · rw [if_neg hfinal] at h
          cases h
  · rintro ⟨text, reset, rfl, rfl, rfl⟩
    rfl

/-- Without a failure that is final nothing is asked after a removal, except for the time. -/
theorem state_decideRemoval (services : Services) (c : Connection) (timeout retryDelay : Duration)
    (pod : Option Pod) {removal : Removal}
    (h : ∀ e, removal = .failed e →
      (e.isStillRegistering && (pod.bind (·.exitCode?)).isSome) = false) :
    ((decideRemoval target timeout retryDelay pod removal).run services.answer c).state = c := by
  cases removal with
  | removed => rfl
  | notFound =>
    have hclock := decideNotFound_asksClock timeout retryDelay pod
    refine hclock.keeps (P := (· = c)) ?_ rfl
    rintro call c' rfl rfl
    rfl
  | failed e =>
    show ((decideFailure target pod e).run services.answer c).state = c
    unfold decideFailure
    by_cases hlimited : e.isRateLimited = true
    · rw [if_pos hlimited]
      rfl
    · rw [if_neg hlimited, h e rfl, if_neg Bool.false_ne_true]
      rfl

end Causes

/-! ## The whole -/

section Whole

variable (services : Services) (target : Target) (c : Connection) {id : Int64} {sent : Request}
  {replies : List Reply}

/-- The removal tells of the response that comes back for it. -/
theorem unregister_tells {r : Response} {message : String}
    (hsent : services.registry.removalRequest target.scope id = .ok sent)
    (hreplies : c.network.replies = .response r :: replies) (hbody : Says r.failureText message) :
    let removed := (unregister target (some id)).run services.answer c
    removed.value.Tells r message { c with network := ⟨replies, c.network.sent ++ [sent]⟩ }
      removed.state := by
  intro removed
  have hremoved : removed = _ := run_unregister_response services target c hsent hreplies
  rw [hremoved]
  exact (RegistryClient.removalOfReply_verdict (Services.unixNow c) sent hbody).tells _

/-- The decision on a pod that records a number is the one on the removal. -/
theorem run_ensureUnregistered_recorded (timeout retryDelay : Duration) {pod : Pod}
    {idText : String} (hopen : pod.isMarked Pod.completeKey = false)
    (hrecorded : pod.annotation? Pod.runnerIdKey = some idText)
    (hread : Text.readInt64 idText = .ok id) :
    let removed := (unregister target (some id)).run services.answer c
    let decided := (ensureUnregistered target timeout retryDelay (some pod)).run services.answer c
    let decision := (decideRemoval target timeout retryDelay (some pod) removed.value).run
      services.answer removed.state
    decided.value = decision.value ∧ decided.state = decision.state := by
  have hid : recordedId (some pod) = .ok (some id) := by
    unfold recordedId
    rw [Option.bind_some, hrecorded]
    dsimp only
    rw [hread]
  intro removed decided decision
  have hdecided : decided = _ := congrArg (Program.run services.answer · c)
    (ensureUnregistered_open target timeout retryDelay hopen hid)
  rw [hdecided, Program.value_bind, Program.state_bind]
  exact ⟨rfl, rfl⟩

end Whole

/-- **From the response to the decision.** Take a pod without a complete mark that records a number,
and whatever comes back for the removal of the runner with that number: a status, headers, and a
body. The response says one message. Its status alone tells whether the runner was removed, by 200
to 299, or is not known, by 404; and it means that the caller is to slow down exactly if `SlowsDown`
says so. The decision is to let the pod go after a removal, what is decided without the registry on
a runner that it does not know, to wait for a minute in order to slow down, and to fail with the
status and the message else, unless the registry refuses for the state of a runner whose container
has terminated; the runner is then looked up for the record.

There is no decision if the caller is to slow down until a moment whose distance from the present is
no machine word: the process panics. Over no other response it does. -/
theorem removal_response_decides (services : Services) (target : Target)
    (timeout retryDelay : Duration) (c : Connection) {pod : Pod} {idText : String} {id : Int64}
    {sent : Request} {r : Response} {replies : List Reply}
    (hopen : pod.isMarked Pod.completeKey = false)
    (hrecorded : pod.annotation? Pod.runnerIdKey = some idText)
    (hread : Text.readInt64 idText = .ok id)
    (hsent : services.registry.removalRequest target.scope id = .ok sent)
    (hreplies : c.network.replies = .response r :: replies) :
    let removal := ((unregister target (some id)).run services.answer c).value
    let decided := (ensureUnregistered target timeout retryDelay (some pod)).run services.answer c
    let decision := decided.value
    let left : Connection := { c with network := ⟨replies, c.network.sent ++ [sent]⟩ }
    let now := (Services.unixNow c).toInt
    ∃ message, (∀ m, Says r.failureText m ↔ m = message) ∧
      (removal = .removed ↔ 200 ≤ r.status ∧ r.status < 300) ∧
      (removal = .notFound ↔ r.status = 404) ∧
      (∀ text reset, removal = .failed (.rateLimited text reset) ↔
        SlowsDown r.status r.headers message ∧ ¬Overflows now r.headers ∧ text = message ∧
          Asks now r.headers reset) ∧
      (removal = .removed → decision = .deletable) ∧
      (removal = .notFound → decision =
        ((decideNotFound timeout retryDelay (some pod)).run services.answer left).value) ∧
      (∀ after cause, decision = .requeue after (some cause) ↔
        SlowsDown r.status r.headers message ∧ ¬Overflows now r.headers ∧
          after = .ofSeconds 60 ∧ ∃ reset, Asks now r.headers reset ∧
            cause = .registry (.rateLimited message reset)) ∧
      (r.status = 422 ∧ pod.RunnerTerminated → decision = .deletable ∧
        decided.state = (services.answer (.list target.scope) left).2) ∧
      (¬(200 ≤ r.status ∧ r.status < 300) → r.status ≠ 404 →
        ¬SlowsDown r.status r.headers message → ¬(r.status = 422 ∧ pod.RunnerTerminated) →
          decision = .failed (.registry (.api r.status message))) ∧
      (SlowsDown r.status r.headers message ∧ Overflows now r.headers →
        decided.state = { left with panic := some .subtraction }) ∧
      (¬(SlowsDown r.status r.headers message ∧ Overflows now r.headers) →
        ¬(r.status = 422 ∧ pod.RunnerTerminated) → decided.state = left) := by
  intro removal decided decision left now
  obtain ⟨message, hbody⟩ : ∃ message, Says r.failureText message :=
    ⟨_, RegistryError.says_iff.2 rfl⟩
  have hunique : ∀ m, Says r.failureText m ↔ m = message := by
    intro m
    rw [RegistryError.says_iff, ← RegistryError.says_iff.1 hbody]
    exact eq_comm
  -- The decision is made of what the attempt comes to and of what it leaves behind.
  let after := ((unregister target (some id)).run services.answer c).state
  have htells : removal.Tells r message left after :=
    unregister_tells services target c hsent hreplies hbody
  obtain ⟨hdecision, hstate⟩ :
      decided.value = ((decideRemoval target timeout retryDelay (some pod) removal).run
        services.answer after).value ∧
      decided.state = ((decideRemoval target timeout retryDelay (some pod) removal).run
        services.answer after).state :=
    run_ensureUnregistered_recorded services target c timeout retryDelay hopen hrecorded hread
  -- A refusal that is none of the three known ways is handed to `decideFailure`, over the
  -- connection that the one reply was taken from.
  have hfails : ¬(200 ≤ r.status ∧ r.status < 300) → r.status ≠ 404 →
      ¬SlowsDown r.status r.headers message →
        let refused := (decideFailure target (some pod) (.api r.status message)).run
          services.answer left
        decided.value = refused.value ∧ decided.state = refused.state := by
    intro hfailure hknown hcalm
    have hleft : after = left := htells.running fun h => hcalm h.1
    intro refused
    rw [hdecision, hstate, htells.refused hfailure hknown hcalm, hleft]
    exact ⟨rfl, rfl⟩
  obtain ⟨hfinal, hbarred⟩ :=
    run_decideFailure_refused services.answer left target pod r.status message
  -- The look-up for the record is the only call that can follow the removal.
  have hidle : ¬(r.status = 422 ∧ pod.RunnerTerminated) → decided.state = after := by
    intro hopen'
    rw [hstate]
    refine state_decideRemoval target services after timeout retryDelay (some pod) fun e he => ?_
    refine Bool.eq_false_iff.2 fun hover => hopen' ?_
    obtain ⟨hstatus, hterminated⟩ := isFinal_iff.1 hover
    exact ⟨(htells.status_eq e 422 he hstatus).symm, hterminated⟩
  refine ⟨message, hunique, htells.removed_iff, htells.notFound_iff, htells.rateLimited_iff,
    fun h => ?_, fun h => ?_, fun after' cause => ?_, fun hover => ?_, ?_, fun hpanics => ?_,
    fun hcalm hopen' => ?_⟩
  · show decided.value = _
    rw [hdecision, h]
    rfl
  · have hstatus := htells.notFound_iff.1 h
    have hleft : after = left := htells.running fun hpanics => by
      have := RegistryError.status_of_slowsDown hpanics.1
      omega
    show decided.value = _
    rw [hdecision, h, hleft]
    rfl
  · show decided.value = _ ↔ _
    rw [hdecision, value_decideRemoval_requeue_iff]
    constructor
    · rintro ⟨text, reset, hfailed, hafter, hcause⟩
      obtain ⟨hslow, hfits, rfl, hasks⟩ := (htells.rateLimited_iff text reset).1 hfailed
      exact ⟨hslow, hfits, hafter, reset, hasks, hcause⟩
    · rintro ⟨hslow, hfits, hafter, reset, hasks, hcause⟩
      exact ⟨message, reset, (htells.rateLimited_iff _ _).2 ⟨hslow, hfits, rfl, hasks⟩, hafter,
        hcause⟩
  · -- A refusal for the state of the runner does not ask to slow down: its status is 422.
    have hstatus : r.status = 422 := hover.1
    have hcalm : ¬SlowsDown r.status r.headers message := by
      intro hslow
      have hslowing := RegistryError.status_of_slowsDown hslow
      omega
    obtain ⟨hvalue, hended⟩ := hfails (by omega) (by omega) hcalm
    rw [hfinal hover] at hvalue hended
    exact ⟨hvalue, hended⟩
  · intro hfailure hknown hcalm hopen'
    obtain ⟨hvalue, -⟩ := hfails hfailure hknown hcalm
    rwa [hbarred hopen'] at hvalue
  · have hslowing := RegistryError.status_of_slowsDown hpanics.1
    rw [hidle (by omega)]
    exact htells.panicked hpanics
  · rw [hidle hopen']
    exact htells.running hcalm

/-- A pod that records number 7 for its runner. -/
def seventhPod : Pod where
  namespaceName := "default"
  name := "runner-abc"
  version := none
  annotations := .single Pod.runnerIdKey "7"
  phase := .running
  containers := [⟨"runner", .running⟩]
  conditions := []

/-- A refusal with an exhausted quota, which its body does not speak of. -/
def throttled : Response where
  status := 403
  headers := [("X-RateLimit-Remaining", " 0\t"), ("x-ratelimit-remaining", "9")]
  body := some "\x7b\"message\": \"try later\"\x7d"

/-- The quota is exhausted by the first header of its name. The second one does not count. -/
theorem removal_response_decides_throttled :
    let c : Connection := .running (.scripted [.response throttled]) .epoch
    ((ensureUnregistered ⟨.ofOrganization "acme", "runner-abc"⟩ (.ofSeconds 60) (.ofSeconds 10)
      (some seventhPod)).run plainServices.answer c).value =
        .requeue (.ofSeconds 60) (some (.registry (.rateLimited "try later" none))) := by
  intro c
  obtain ⟨sent, hsent⟩ := exists_of_isOk (by decide +kernel :
    (plainServices.registry.removalRequest (.ofOrganization "acme") 7).isOk = true)
  obtain ⟨message, hmessages, -, -, -, -, -, hrequeues, -⟩ :=
    removal_response_decides plainServices ⟨.ofOrganization "acme", "runner-abc"⟩ (.ofSeconds 60)
      (.ofSeconds 10) c (by decide +kernel : seventhPod.isMarked Pod.completeKey = false)
      (by decide +kernel : seventhPod.annotation? Pod.runnerIdKey = some "7")
      (by decide +kernel : Text.readInt64 "7" = .ok 7) hsent rfl
  have hmessage : "try later" = message :=
    (hmessages _).1 (RegistryError.says_iff.2 (by decide +kernel))
  subst hmessage
  have hslow : SlowsDown throttled.status throttled.headers "try later" :=
    RegistryError.asksToSlowDown_iff.1 (by decide +kernel)
  obtain ⟨hasks, hfits⟩ := RegistryError.suggestedBackoff_eq_ok_iff.1
    (by decide +kernel : RegistryError.suggestedBackoff (Services.unixNow c) throttled.headers =
      .ok none)
  exact (hrequeues _ _).2 ⟨hslow, hfits, rfl, none, hasks, rfl⟩

/-- A response without a decision: it means to slow down and asks for no wait, but the process
panics over it. -/
theorem bygone_response_panics :
    let c : Connection := .running (.scripted [.response RegistryError.bygone])
      ⟨20744, 43200, 0, by decide, by decide, by decide⟩
    Says RegistryError.bygone.failureText "" ∧
      SlowsDown RegistryError.bygone.status RegistryError.bygone.headers "" ∧
      Asks (Services.unixNow c).toInt RegistryError.bygone.headers none ∧
      ((ensureUnregistered ⟨.ofOrganization "acme", "runner-abc"⟩ (.ofSeconds 60) (.ofSeconds 10)
        (some seventhPod)).run plainServices.answer c).state.panic = some .subtraction := by
  intro c
  obtain ⟨hbody, hslow⟩ := RegistryError.bygone_slowsDown
  exact ⟨hbody, hslow, .past RegistryError.liftedLongAgo_names (by decide +kernel),
    by decide +kernel⟩

end Quiesce
