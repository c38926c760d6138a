import Quiesce.Proofs.Interleaving
import Quiesce.Proofs.Perseverance
import Quiesce.Proofs.RepositoryNames
import Quiesce.Services

/-!
# Whether a validated configuration can be acted on

Validation asks of a scope that it names something. The registry asks more: a repository has to be
named by its owner and its name. A configuration whose scope comes down to a repository without an
owner is validated all the same, and every call to the registry then fails before anything is sent.

* `Scope.IsAddressable` is what the registry asks of a scope, and
  `RegistryClient.exists_runnersUrl_iff` says that it asks no more.
* `Drain.Host.recorded` keeps a record of the failures that a drain is answered by the registry;
  `Drain.run_recorded` says that nothing else is different about it.
* `validated_config_acts` is the main statement.
-/

namespace Quiesce

/-! ## Requests that make no sense -/

/-- Whether the failure is that of a request which makes no sense, whenever it is made. -/
def RegistryError.isInvalidRequest : RegistryError → Bool
  | .invalidRequest _ => true
  | _ => false

/-- A repository that the scope comes down to is named by owner and name, with any number of slashes
around them. -/
def Scope.IsAddressable (scope : Scope) : Prop :=
  ∀ r, scope.level? = some (.repository r) → IsLooseOwnerAndName r

namespace RegistryClient

variable {client : RegistryClient} {scope : Scope}

/-- A scope that can be addressed has an address. -/
theorem runnersUrl_addressable (client : RegistryClient) (hnames : scope.level?.isSome = true)
    (h : scope.IsAddressable) : ∃ url, client.runnersUrl scope = .ok url := by
  obtain ⟨level, hlevel⟩ := Option.isSome_iff_exists.1 hnames
  unfold runnersUrl
  rw [hlevel]
  cases level with
  | enterprise name => exact ⟨_, rfl⟩
  | organization name => exact ⟨_, rfl⟩
  | repository r =>
    unfold levelPath
    dsimp only
    rw [if_pos (Scope.namesRepository_iff.2 (h r hlevel))]
    exact ⟨_, rfl⟩

/-- A scope that cannot be addressed is refused as an invalid request. -/
theorem runnersUrl_unaddressable (client : RegistryClient) (h : ¬scope.IsAddressable) :
    ∃ e : RegistryError, e.isInvalidRequest = true ∧ client.runnersUrl scope = .error e := by
  obtain ⟨r, hr⟩ := Classical.not_forall.1 h
  obtain ⟨hlevel, hparts⟩ := Classical.not_imp.1 hr
  unfold runnersUrl levelPath
  rw [hlevel]
  dsimp only
  rw [if_neg (mt Scope.namesRepository_iff.1 hparts)]
  exact ⟨_, rfl, rfl⟩

/-- **What the registry asks of a scope**, beyond that it names something. -/
theorem exists_runnersUrl_iff (hnames : scope.level?.isSome = true) :
    (∃ url, client.runnersUrl scope = .ok url) ↔ scope.IsAddressable := by
  refine ⟨fun ⟨url, hurl⟩ => Classical.byContradiction fun h => ?_,
    client.runnersUrl_addressable hnames⟩
  obtain ⟨e, -, herror⟩ := client.runnersUrl_unaddressable h
  rw [hurl] at herror
  cases herror

/-! ### Failures of requests that make sense -/

/-- No response is classified as an invalid request: that is said by the client only. -/
theorem isInvalidRequest_failure {now : Int64} {r : Http.Response} {e : RegistryError}
    (h : failure now r = .ok e) : e.isInvalidRequest = false := by
  unfold failure RegistryError.ofFailure at h
  dsimp only at h
  by_cases hslow : RegistryError.asksToSlowDown r.status r.headers
      (RegistryError.failureMessage r.failureText) = true
  · rw [if_pos hslow] at h
    cases hwait : RegistryError.suggestedBackoff now r.headers with
    | error panic =>
      rw [hwait] at h
      cases h
    | ok wait =>
      rw [hwait] at h
      cases h
      rfl
  · rw [if_neg hslow] at h
    by_cases hstatus : r.status = 404
    · rw [if_pos hstatus] at h
      cases h
      rfl
    · rw [if_neg hstatus] at h
      cases h
      rfl

/-- A failed response fails with its cause, if there is no panic over it. -/
theorem isInvalidRequest_failed {α : Type} {now : Int64} {r : Http.Response} {e : RegistryError}
    (h : (failure now r).map (Except.error (α := α)) = .ok (.error e)) :
    e.isInvalidRequest = false := by
  cases hcause : failure now r with
  | error panic =>
    rw [hcause] at h
    cases h
  | ok cause =>
    rw [hcause] at h
    cases h
    exact isInvalidRequest_failure hcause

/-- A request that cannot be made fails over its destination, not as an invalid request. -/
theorem isInvalidRequest_request {method : Http.Method} {d : Http.Destination} {e : RegistryError}
    (h : request method d = .error e) : e.isInvalidRequest = false := by
  unfold request at h
  cases hcheck : d.check with
  | error fault =>
    rw [hcheck] at h
    cases h
    rfl
  | ok d' =>
    rw [hcheck] at h
    cases h

theorem isInvalidRequest_destination {url : String} {e : RegistryError}
    (h : client.destination (.ok url) = .error e) : e.isInvalidRequest = false := by
  unfold destination at h
  dsimp only [bind, Except.bind] at h
  cases hd : Http.destination url client.token with
  | error fault =>
    rw [hd] at h
    cases h
    rfl
  | ok d =>
    rw [hd] at h
    cases h

/-- Reading a reply to a listing never yields an invalid request. -/
theorem isInvalidRequest_pageOfReply {now : Int64} {sent : Http.Request} {reply : Http.Reply}
    {e : RegistryError} (h : pageOfReply now sent reply = .ok (.error e)) :
    e.isInvalidRequest = false := by
  unfold pageOfReply at h
  cases reply with
  | lost =>
    cases h
    rfl
  | response r =>
    dsimp only at h
    by_cases hsuccess : Http.isSuccess r.status = true
    · rw [if_pos hsuccess] at h
      cases hpage : pageOfBody? r.body with
      | some page =>
        rw [hpage] at h
        cases h
      | none =>
        rw [hpage] at h
        cases h
        rfl
    · rw [if_neg hsuccess] at h
      exact isInvalidRequest_failed h

/-- Reading a reply to a removal never yields an invalid request. -/
theorem isInvalidRequest_removalOfReply {now : Int64} {sent : Http.Request} {reply : Http.Reply}
    {e : RegistryError} (h : removalOfReply now sent reply = .ok (.error e)) :
    e.isInvalidRequest = false := by
  unfold removalOfReply at h
  cases reply with
  | lost =>
    cases h
    rfl
  | response r =>
    dsimp only at h
    by_cases hsuccess : Http.isSuccess r.status = true
    · rw [if_pos hsuccess] at h
      cases h
    · rw [if_neg hsuccess] at h
      exact isInvalidRequest_failed h

/-- No page of a listing yields one either. -/
theorem isInvalidRequest_collectPages {now : Int64} (d : Http.Destination) (page : Nat)
    (collected : List Runner) (replies : List Http.Reply) {e : RegistryError}
    (h : (collectPages now (pageRequest d) page collected replies).1 = .ok (.error e)) :
    e.isInvalidRequest = false := by
  -- The loop ends without a reply, with a request that cannot be made, with a reply that is no
  -- page, or it goes on with what it has collected: by induction on the replies that are left.
  induction replies generalizing page collected with
  | nil =>
    rw [collectPages] at h
    cases hrequest : pageRequest d page with
    | error e' =>
      rw [hrequest] at h
      cases h
      exact isInvalidRequest_request hrequest
    | ok sent =>
      rw [hrequest] at h
      cases h
      rfl
  | cons reply replies ih =>
    rw [collectPages] at h
    cases hrequest : pageRequest d page with
    | error e' =>
      rw [hrequest] at h
      cases h
      exact isInvalidRequest_request hrequest
    | ok sent =>
      rw [hrequest] at h
      dsimp only at h
      cases hreply : pageOfReply now sent reply with
      | error panic =>
        rw [hreply] at h
        cases h
      | ok shown =>
        cases shown with
        | error e' =>
          rw [hreply] at h
          cases h
          exact isInvalidRequest_pageOfReply hreply
        | ok answer =>
          rw [hreply] at h
          dsimp only at h
          by_cases hlast : isLastPage answer (collected ++ answer.runners).length = true
          · rw [if_pos hlast] at h
            cases h
          · rw [if_neg hlast] at h
            exact ih _ _ h

/-- Once its address is known, a listing never ends in an invalid request. -/
theorem isInvalidRequest_list {now : Int64} {url : String}
    (hurl : client.runnersUrl scope = .ok url) (n : Http.Network) {e : RegistryError}
    (h : (client.list now scope n).1 = .ok (.error e)) : e.isInvalidRequest = false := by
  unfold list at h
  rw [hurl] at h
  cases hd : client.destination (.ok url) with
  | error e' =>
    rw [hd] at h
    cases h
    exact isInvalidRequest_destination hd
  | ok d =>
    rw [hd] at h
    exact isInvalidRequest_collectPages d 1 [] n.replies h

/-- Once its address is known, a removal never ends in an invalid request. -/
theorem isInvalidRequest_remove {now : Int64} {url : String}
    (hurl : client.runnersUrl scope = .ok url) (id : Int64) (n : Http.Network) {e : RegistryError}
    (h : (client.remove now scope id n).1 = .ok (.error e)) : e.isInvalidRequest = false := by
  have hmap : (Except.ok url : Except RegistryError String).map (runnerUrl · id) =
      .ok (runnerUrl url id) := rfl
  unfold remove at h
  rw [hurl, hmap] at h
  cases hd : client.destination (.ok (runnerUrl url id)) with
  | error e' =>
    rw [hd] at h
    cases h
    exact isInvalidRequest_destination hd
  | ok d =>
    rw [hd] at h
    dsimp only [Except.bind] at h
    cases hrequest : request .delete d with
    | error e' =>
      rw [hrequest] at h
      cases h
      exact isInvalidRequest_request hrequest
    | ok sent =>
      rw [hrequest] at h
      exact isInvalidRequest_removalOfReply h

end RegistryClient

/-! ## Calls to the registry -/

/-- The failure that an answer of the registry reports. -/
def Call.registryFailure? : (c : Call) → c.Answer → Option RegistryError
  | .list _, .error e => some e
  | .remove _ _, .error e => some e
  | _, _ => none

/-- Calls to the registry are about that scope. -/
def Call.inScope (scope : Scope) : Call → Prop
  | .list s => s = scope
  | .remove s _ => s = scope
  | _ => True

namespace Services

variable {services : Services} {scope : Scope}

/-- A call that does not fail for making no sense is not answered so, whatever else it comes to. -/
theorem isInvalidRequest_concluding {α : Type} {c : Connection}
    {result : Except Panic (Except RegistryError α)} {network : Http.Network} {e : RegistryError}
    (hresult : ∀ e, result = .ok (.error e) → e.isInvalidRequest = false)
    (h : (c.concluding (result, network)).1 = .error e) : e.isInvalidRequest = false := by
  cases result with
  | error panic =>
    cases h
    rfl
  | ok answer => exact hresult e (congrArg Except.ok h)

/-- Under a scope that has an address no call fails for making no sense, whatever comes back. -/
theorem registryFailure?_addressable {url : String}
    (hurl : services.registry.runnersUrl scope = .ok url) {c : Call} (hc : c.inScope scope)
    (s : Connection) {e : RegistryError}
    (h : c.registryFailure? (services.answer c s).1 = some e) : e.isInvalidRequest = false := by
  cases c with
  | list scope' =>
    obtain rfl := hc
    have hfails : (services.answer (.list scope') s).1 = .error e := by
      cases hanswer : (services.answer (.list scope') s).1 with
      | error e' =>
        rw [hanswer] at h
        cases h
        rfl
      | ok runners =>
        rw [hanswer] at h
        cases h
    exact isInvalidRequest_concluding
      (fun _ => RegistryClient.isInvalidRequest_list hurl s.network) hfails
  | remove scope' id =>
    obtain rfl := hc
    have hfails : (services.answer (.remove scope' id) s).1 = .error e := by
      cases hanswer : (services.answer (.remove scope' id) s).1 with
      | error e' =>
        rw [hanswer] at h
        cases h
        rfl
      | ok u =>
        rw [hanswer] at h
        cases h
    exact isInvalidRequest_concluding
      (fun _ => RegistryClient.isInvalidRequest_remove hurl id s.network) hfails
  | get namespaceName name => cases h
  | patch pod more => cases h
  | delete pod => cases h
  | now => cases h

/-- Under a scope without an address every call fails, and nothing is sent. -/
theorem answer_unaddressable {e : RegistryError}
    (hurl : services.registry.runnersUrl scope = .error e) (s : Connection) :
    services.answer (.list scope) s = (.error e, s) ∧
      ∀ id, services.answer (.remove scope id) s = (.error e, s) := by
  refine ⟨?_, fun id => ?_⟩
  · show s.concluding (services.registry.list (unixNow s) scope s.network) = _
    unfold RegistryClient.list
    rw [hurl]
    rfl
  · show s.concluding (services.registry.remove (unixNow s) scope id s.network) = _
    unfold RegistryClient.remove
    rw [hurl]
    rfl

end Services

/-! ## The calls of a drain -/

namespace Drain

/-- The start of a drain asks about the scope of its target only. -/
theorem recordRegistration_inScope (plan : Plan) :
    (recordRegistration plan).Asks (Call.inScope plan.target.scope) := by
  refine ⟨trivial, fun answer => ?_⟩
  cases answer with
  | error e => trivial
  | ok pod =>
    cases pod with
    | none => trivial
    | some p =>
      refine Program.Asks.bind (p := ensureRegistered plan.target p) ?_ fun _ => trivial
      exact ensureRegistered_asks (by rfl) (fun _ _ => trivial) p

/-- So does every pass. -/
theorem pass_inScope (plan : Plan) (attempt : Nat) :
    (pass plan attempt).Asks (Call.inScope plan.target.scope) := by
  refine ⟨trivial, fun answer => ?_⟩
  cases answer with
  | error e => trivial
  | ok pod =>
    refine (tick_asks (by rfl) (fun _ => by rfl) trivial (fun _ _ _ => trivial) plan.timeout
      plan.retryDelay pod).bind fun outcome => ?_
    cases outcome with
    | requeue after cause => trivial
    | failed e => trivial
    | deletable pod' =>
      cases pod' with
      | none => trivial
      | some p =>
        refine ⟨trivial, fun answer => ?_⟩
        cases answer with
        | ok u => trivial
        | error e =>
          dsimp only
          cases e.isNotFound with
          | true => trivial
          | false => trivial

variable {σ : Type} {host : Host σ} {plan : Plan} {allowed : Call → Prop} {P : σ → Prop}

/-- What every allowed call and every sleep keeps, passes keep that make allowed calls only. -/
theorem runPasses_keeps (hpass : ∀ attempt, (pass plan attempt).Asks allowed)
    (hcall : ∀ c s, allowed c → P s → P (host.answer c s).2)
    (hsleep : ∀ d s, P s → P (host.sleep d s).2) (passes attempt : Nat) {s : σ} (hs : P s) :
    P (runPasses host plan passes attempt s).state := by
  induction passes generalizing attempt s with
  | zero => exact hs
  | succ passes ih =>
    have hpassed : P ((pass plan attempt).run host.answer s).state :=
      (hpass attempt).keeps hcall hs
    rw [runPasses]
    generalize (pass plan attempt).run host.answer s = o at hpassed
    dsimp only [Report.after]
    cases hnext : o.value.next with
    | none => exact hpassed
    | some wait =>
      have hslept := hsleep wait o.state hpassed
      cases hwoken : host.sleep wait o.state with
      | mk woken s' =>
        rw [hwoken] at hslept
        cases woken with
        | false =>
          dsimp only
          rw [hwoken]
          exact hslept
        | true =>
          dsimp only
          rw [hwoken]
          exact ih (attempt + 1) hslept

/-- **What every call and every wait of a drain keeps, the whole drain keeps.** -/
theorem run_keeps (hrecord : (recordRegistration plan).Asks allowed)
    (hpass : ∀ attempt, (pass plan attempt).Asks allowed)
    (hcall : ∀ c s, allowed c → P s → P (host.answer c s).2)
    (hsleep : ∀ d s, P s → P (host.sleep d s).2) (passes : Nat) {s : σ} (hs : P s) :
    P (run host plan passes s).state :=
  runPasses_keeps hpass hcall hsleep passes 1 (hrecord.keeps hcall hs)

/-! ## A record of failures -/

/-- The host with a record of the failures that the registry has answered, in their order. -/
def Host.recorded (host : Host σ) : Host (σ × List RegistryError) where
  answer c s :=
    ((host.answer c s.1).1, (host.answer c s.1).2,
      s.2 ++ (c.registryFailure? (host.answer c s.1).1).toList)
  elapsed s := host.elapsed s.1
  sleep d s := ((host.sleep d s.1).1, (host.sleep d s.1).2, s.2)

/-- Keeping a record of the failures does not change what a program does. -/
theorem program_recorded {α : Type} (host : Host σ) (p : Program α) (s : σ)
    (log : List RegistryError) :
    (p.run host.recorded.answer (s, log)).value = (p.run host.answer s).value ∧
      (p.run host.recorded.answer (s, log)).calls = (p.run host.answer s).calls ∧
      (p.run host.recorded.answer (s, log)).state.1 = (p.run host.answer s).state := by
  induction p generalizing s log with
  | done a => exact ⟨rfl, rfl, rfl⟩
  | call c next ih =>
    obtain ⟨hvalue, hcalls, hstate⟩ := ih (host.answer c s).1 (host.answer c s).2
      (log ++ (c.registryFailure? (host.answer c s).1).toList)
    exact ⟨hvalue, congrArg (c :: ·) hcalls, hstate⟩

/-- Keeping a record does not change what the passes do: they make the same notes and calls, in the
same number, and leave the same state behind. -/
theorem runPasses_recorded (host : Host σ) (plan : Plan) (passes attempt : Nat) (s : σ)
    (log : List RegistryError) :
    let report := runPasses host plan passes attempt s
    let recorded := runPasses host.recorded plan passes attempt (s, log)
    recorded.finished = report.finished ∧ recorded.notes = report.notes ∧
      recorded.calls = report.calls ∧ recorded.state.1 = report.state := by
  induction passes generalizing attempt s log with
  | zero => exact ⟨rfl, rfl, rfl, rfl⟩
  | succ passes ih =>
    obtain ⟨hvalue, hcalls, hstate⟩ := program_recorded host (pass plan attempt) s log
    -- The time stamps of the calls do not depend on the record.
    have hstamped : ∀ {α : Type} {o : Outcome (σ × List RegistryError) α} {o' : Outcome σ α},
        o.calls = o'.calls → stamped host.recorded (s, log) o = stamped host s o' := by
      intro α o o' h
      unfold stamped
      rw [h]
      rfl
    intro report recorded
    unfold report recorded
    rw [runPasses, runPasses]
    have hcalls' := hstamped hcalls
    generalize (pass plan attempt).run host.recorded.answer (s, log) = o at *
    generalize (pass plan attempt).run host.answer s = o' at *
    obtain ⟨value, calls, s₁, log₁⟩ := o
    obtain ⟨value', calls', s₁'⟩ := o'
    dsimp only at hvalue hstate
    subst hvalue hstate
    dsimp only [Report.after]
    rw [hcalls']
    cases value.next with
    | none => exact ⟨rfl, rfl, rfl, rfl⟩
    | some wait =>
      dsimp only
      cases hsleep : host.sleep wait s₁ with
      | mk woken s₂ =>
        have hsleep' : host.recorded.sleep wait (s₁, log₁) = (woken, s₂, log₁) := by
          show ((host.sleep wait s₁).1, (host.sleep wait s₁).2, log₁) = _
          rw [hsleep]
        rw [hsleep']
        cases woken with
        | false => exact ⟨rfl, rfl, rfl, rfl⟩
        | true =>
          -- woken: the next pass starts from states that differ by the record only
          obtain ⟨hfinished, hnotes, hcalls, hstate⟩ := ih (attempt + 1) s₂ log₁
          exact ⟨hfinished, congrArg _ hnotes, congrArg _ hcalls, hstate⟩

/-- **The record changes nothing else.** -/
theorem run_recorded (host : Host σ) (plan : Plan) (passes : Nat) (s : σ) :
    let report := run host plan passes s
    let recorded := run host.recorded plan passes (s, [])
    recorded.finished = report.finished ∧ recorded.notes = report.notes ∧
      recorded.calls = report.calls ∧ recorded.state.1 = report.state := by
  obtain ⟨hvalue, hcalls, hstate⟩ := program_recorded host (recordRegistration plan) s []
  intro report recorded
  unfold report recorded run
  generalize (recordRegistration plan).run host.recorded.answer (s, []) = o at *
  generalize (recordRegistration plan).run host.answer s = o' at *
  obtain ⟨value, calls, s₁, log⟩ := o
  obtain ⟨value', calls', s₁'⟩ := o'
  dsimp only at hvalue hcalls hstate
  subst hvalue hcalls hstate
  obtain ⟨hfinished, hnotes, hcalls, hstate⟩ := runPasses_recorded host plan passes 1 s₁ log
  exact ⟨hfinished, congrArg _ hnotes, congrArg _ hcalls, hstate⟩

end Drain

/-! ## Decisions under a scope without an address -/

/-- Where every call to the registry fails for making no sense, no pod is found deletable but one
that was confirmed before. -/
theorem ensureUnregistered_unaddressable {σ : Type} {handler : Handler σ} {target : Target}
    {e : RegistryError} (he : e.isInvalidRequest = true)
    (hlist : ∀ s, (handler (.list target.scope) s).1 = .error e)
    (hremove : ∀ s id, (handler (.remove target.scope id) s).1 = .error e)
    (timeout retryDelay : Duration) {pod : Option Pod}
    (hopen : pod.any (·.isMarked Pod.completeKey) = false) (s : σ) :
    ∃ failure, ((ensureUnregistered target timeout retryDelay pod).run handler s).value =
      .failed failure := by
  unfold ensureUnregistered
  rw [hopen, if_neg Bool.false_ne_true]
  cases recordedId pod with
  | error failure => exact ⟨failure, rfl⟩
  | ok id =>
    -- With a number the removal fails, without one the look-up does.
    have hremoval : ((unregister target id).run handler s).value = .failed e := by
      cases id with
      | some n =>
        show Removal.ofAnswer (handler (.remove target.scope n) s).1 = _
        rw [hremove]
        cases e with
        | invalidRequest text => rfl
        | _ => cases he
      | none =>
        unfold unregister findRunner
        simp only [Program.bind_eq, Program.call_bind, Program.done_bind]
        rw [Program.run_call, hlist]
        rfl
    dsimp only [Program.bind_eq]
    rw [Program.value_bind, hremoval]
    cases e with
    | invalidRequest text => exact ⟨.registry (.invalidRequest text), rfl⟩
    | _ => cases he

/-! ## The configuration -/

/-- A configuration that is valid names a level. -/
theorem Config.names_of_validate {c : Config} (h : c.validate = .ok ()) :
    c.scope.level?.isSome = true := by
  cases hnames : c.scope.level? with
  | some level => rfl
  | none =>
    unfold validate at h
    rw [hnames] at h
    by_cases hregistry : (!looksLikeWeb c.registryUrl) = true
    · rw [if_pos hregistry] at h
      cases h
    rw [if_neg hregistry] at h
    by_cases hcluster : (!looksLikeWeb c.clusterUrl) = true
    · rw [if_pos hcluster] at h
      cases h
    · rw [if_neg hcluster] at h
      cases h

/-- **What a validated configuration is good for.** Its scope has an address exactly if it does not
come down to a repository that lacks an owner or a name. If it has one, no call to the registry in a
drain fails for making no sense, whatever comes back over the network and however long the drain
goes on. If it has none, every such call fails so, at any time and without a request, and no pod is
found deletable that was not confirmed before. -/
theorem validated_config_acts (c : Config) (hvalid : c.validate = .ok ()) :
    let services := Services.ofConfig c
    ((∃ url, services.registry.runnersUrl c.scope = .ok url) ↔ c.scope.IsAddressable) ∧
      (c.scope.IsAddressable → ∀ host : Drain.Host Connection, host.answer = services.answer →
        ∀ passes s, ∀ e ∈ (Drain.run host.recorded c.plan passes (s, [])).state.2,
          e.isInvalidRequest = false) ∧
      (¬c.scope.IsAddressable → ∃ e : RegistryError, e.isInvalidRequest = true ∧
        (∀ s, services.answer (.list c.scope) s = (.error e, s) ∧
          ∀ id, services.answer (.remove c.scope id) s = (.error e, s)) ∧
        ∀ pod : Option Pod, pod.any (·.isMarked Pod.completeKey) = false → ∀ s, ∃ failure,
          ((ensureUnregistered c.plan.target c.plan.timeout c.plan.retryDelay pod).run
            services.answer s).value = .failed failure) := by
  intro services
  have hnames := Config.names_of_validate hvalid
  refine ⟨RegistryClient.exists_runnersUrl_iff hnames, fun haddress host hanswer passes s => ?_,
    fun hnone => ?_⟩
  · obtain ⟨url, hurl⟩ := services.registry.runnersUrl_addressable hnames haddress
    -- the record holds no such failure to begin with, and neither a call nor a sleep adds one
    let sensible : Connection × List RegistryError → Prop :=
      fun s => ∀ e ∈ s.2, e.isInvalidRequest = false
    refine Drain.run_keeps (P := sensible) (Drain.recordRegistration_inScope c.plan)
      (Drain.pass_inScope c.plan) (fun call s hcall hrecord e he => ?_)
      (fun _ _ hrecord => hrecord) passes fun e he => absurd he List.not_mem_nil
    rcases List.mem_append.1 he with he | he
    · exact hrecord e he
    · have hfailure := Option.mem_toList.1 he
      rw [hanswer] at hfailure
      exact Services.registryFailure?_addressable hurl hcall s.1 hfailure
  · obtain ⟨e, he, hurl⟩ := services.registry.runnersUrl_unaddressable hnone
    have hfails := Services.answer_unaddressable hurl
    refine ⟨e, he, hfails, fun pod hopen s => ?_⟩
    exact ensureUnregistered_unaddressable he (fun s => congrArg Prod.fst (hfails s).1)
      (fun s id => congrArg Prod.fst ((hfails s).2 id)) _ _ hopen s

/-- A configuration for the runner of a repository. -/
def repositoryConfig (repository : String) : Config :=
  .withDefaults "https://registry.test" "https://cluster.test" (.ofRepository repository)
    "runner-abc"

/-- A configuration for a repository with an owner and a name. -/
theorem validated_config_acts_on_repository :
    (repositoryConfig "acme/app").validate = .ok () ∧
      (∃ url, (Services.ofConfig (repositoryConfig "acme/app")).registry.runnersUrl
        (repositoryConfig "acme/app").scope = .ok url) ∧
      ∀ passes s, ∀ e ∈ (Drain.run (Services.ofConfig (repositoryConfig "acme/app")).host.recorded
        (repositoryConfig "acme/app").plan passes (s, [])).state.2, e.isInvalidRequest = false := by
  have hvalid : (repositoryConfig "acme/app").validate = .ok () := by rfl
  obtain ⟨hurl, hdrains, -⟩ := validated_config_acts (repositoryConfig "acme/app") hvalid
  have haddress : (repositoryConfig "acme/app").scope.IsAddressable := by
    intro r hr
    have hlevel : (repositoryConfig "acme/app").scope.level? = some (.repository "acme/app") := by
      decide
    rw [hlevel] at hr
    cases hr
    exact Scope.namesRepository_iff.1 (by decide)
  exact ⟨hvalid, hurl.2 haddress, hdrains haddress _ rfl⟩

/-- A repository without an owner is validated, and nothing comes of it: every call to the registry
fails at any time, among them the one that a drain makes which finds no pod. -/
theorem validated_config_fails_on_repository :
    let c := repositoryConfig "app"
    let services := Services.ofConfig c
    let failure : RegistryError :=
      .invalidRequest "repository must be in owner/name form, got \"app\""
    let absent : Http.Reply := .response ⟨404, [], some ""⟩
    c.validate = .ok () ∧ services.registry.runnersUrl c.scope = .error failure ∧
      (∀ s, services.answer (.list c.scope) s = (.error failure, s) ∧
        ∀ id, services.answer (.remove c.scope id) s = (.error failure, s)) ∧
      (Drain.run services.host.recorded c.plan 1
        (.running (.scripted [absent, absent]) .epoch, [])).state.2 = [failure] := by
  intro c services failure absent
  have hvalid : (repositoryConfig "app").validate = .ok () := by rfl
  have hurl : services.registry.runnersUrl c.scope = .error failure := by rfl
  exact ⟨hvalid, hurl, Services.answer_unaddressable hurl, by decide +kernel⟩

end Quiesce
