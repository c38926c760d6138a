import Quiesce.Proofs.Atomicity
import Quiesce.Proofs.Unregistered

/-!
# What an attempt to record a registration comes to

An attempt asks for nothing if there is nothing left to be recorded. Otherwise it lists the runners
once, and if a number is listed under the name of the runner, it writes that number on the pod,
once.

* `Pod.IsSettled` says that nothing is left to be recorded, and `ensureRegistered_settled` that then
  nothing is done.
* `ensureRegistered_unlisted` and `ensureRegistered_listed` are the runs of the other attempts, with
  any source of answers.
* `registration_attempt` is the main statement, in a simulated world.
-/

namespace Quiesce

/-! ## Pods that are settled -/

/-- Nothing is left to be recorded: the runner has stopped, or there is a number, whatever its
text. -/
def Pod.IsSettled (p : Pod) : Prop :=
  p.isStopped = true ∨ ∃ text, p.annotation? runnerIdKey = some text

theorem Pod.isSettled_iff {p : Pod} :
    p.IsSettled ↔ (p.isStopped || p.hasAnnotation runnerIdKey) = true := by
  rw [Bool.or_eq_true]
  exact or_congr Iff.rfl Option.isSome_iff_exists.symm

/-- A settled pod is left as it is, and nobody is asked. -/
theorem ensureRegistered_settled (target : Target) {pod : Pod} (h : pod.IsSettled) :
    ensureRegistered target pod = .done (.registered pod) := by
  unfold ensureRegistered
  rw [if_pos (Pod.isSettled_iff.1 h)]
  rfl

/-! ## Attempts -/

/-- The number that a listing gives the runner: that of the first runner of its name, if the listing
has succeeded. -/
def listedNumber? (target : Target) : Except RegistryError (List Runner) → Option Int64
  | .error _ => none
  | .ok runners => (firstNamed target.name runners).bind (·.id)

/-- The outcome after a listing without a number for the runner. -/
def RegistrationOutcome.ofListing : Except RegistryError (List Runner) → RegistrationOutcome
  | .error e => .requeue registrationPollDelay (some (.registry e))
  | .ok _ => .requeue registrationPollDelay none

/-- The outcome after the number was written. -/
def RegistrationOutcome.ofPatch : Except PodStoreError Pod → RegistrationOutcome
  | .error e => .requeue registrationPollDelay (some (.podStore e))
  | .ok pod => .registered pod

/-- The call that writes the number of the runner on its pod. -/
def recordingCall (pod : Pod) (id : Int64) : Call :=
  .patch pod (.single Pod.runnerIdKey (runnerIdText id))

section Runs

variable {σ : Type} {handler : Handler σ} {s s₁ s₂ : σ} {target : Target} {pod : Pod}
  {listing : Except RegistryError (List Runner)}

theorem run_ensureRegistered_settled (handler : Handler σ) (target : Target) (h : pod.IsSettled)
    (s : σ) : (ensureRegistered target pod).run handler s = ⟨.registered pod, [], s⟩ := by
  rw [ensureRegistered_settled target h]
  rfl

/-- An attempt on a pod that is not settled begins with a listing. -/
theorem ensureRegistered_unsettled (target : Target) (h : ¬pod.IsSettled) :
    ensureRegistered target pod = .call (.list target.scope) fun listing =>
      match listedNumber? target listing with
      | none => .done (.ofListing listing)
      | some id => .call (recordingCall pod id) fun written => .done (.ofPatch written) := by
  have hopen := fun hsettled => h (Pod.isSettled_iff.2 hsettled)
  have hlacks : pod.hasAnnotation Pod.runnerIdKey = false :=
    (Bool.or_eq_false_iff.1 (Bool.eq_false_iff.2 hopen)).2
  unfold ensureRegistered
  rw [if_neg hopen]
  refine congrArg (Program.call (.list target.scope)) (funext fun listing => ?_)
  cases listing with
  | error e => rfl
  | ok runners =>
    unfold listedNumber?
    simp only [Program.bind_eq, Program.done_bind]
    show (match (firstNamed target.name runners).bind (·.id) with
      | none => _
      | some id => _) = _
    cases (firstNamed target.name runners).bind (·.id) with
    | none => rfl
    | some id =>
      dsimp only
      rw [annotateOnce_absent _ hlacks]
      refine congrArg (Program.call (recordingCall pod id)) (funext fun written => ?_)
      cases written with
      | error e => rfl
      | ok q => rfl

/-- No number is listed, and no write is asked for. -/
theorem ensureRegistered_unlisted (h : ¬pod.IsSettled)
    (hlist : handler (.list target.scope) s = (listing, s₁))
    (hnumber : listedNumber? target listing = none) :
    (ensureRegistered target pod).run handler s =
      ⟨.ofListing listing, [.list target.scope], s₁⟩ := by
  rw [ensureRegistered_unsettled target h, Program.run_call, hlist]
  dsimp only
  rw [hnumber]
  rfl

/-- A number is listed, and it is written once. -/
theorem ensureRegistered_listed {id : Int64} {written : Except PodStoreError Pod}
    (h : ¬pod.IsSettled) (hlist : handler (.list target.scope) s = (listing, s₁))
    (hnumber : listedNumber? target listing = some id)
    (hwrite : handler (recordingCall pod id) s₁ = (written, s₂)) :
    (ensureRegistered target pod).run handler s =
      ⟨.ofPatch written, [.list target.scope, recordingCall pod id], s₂⟩ := by
  rw [ensureRegistered_unsettled target h, Program.run_call, hlist]
  dsimp only
  rw [hnumber]
  dsimp only
  rw [Program.run_call, hwrite]
  rfl

end Runs

/-! ## In a simulated world -/

/-- What can come of a patch of the stored pod. -/
theorem World.patch_stored {w : World} {pod : Pod}
    (hstored : w.store.find? pod.namespaceName pod.name = some pod) (more : Annotations) :
    (∃ e, (w.patch pod more).1 = .error e ∧ (w.patch pod more).2.store = w.store) ∨
      (w.patch pod more).1 = .ok (w.store.nextVersion (pod.annotate more)) ∧
        (w.patch pod more).2.store = w.store.put (pod.annotate more) := by
  have hpatched := w.patch_store pod more
  generalize (w.patch pod more).1 = answer at hpatched ⊢
  generalize (w.patch pod more).2.store = s at hpatched ⊢
  cases hpatched with
  | refused e => exact .inl ⟨e, rfl, rfl⟩
  | @written stored hfound hversion =>
    obtain rfl : stored = pod := Option.some.inj (hfound.symm.trans hstored)
    exact .inr ⟨rfl, rfl⟩

theorem World.runners_list (w : World) : w.list.2.runners = w.runners := by
  unfold World.list
  cases w.faults.list with
  | nil => rfl
  | cons e rest => rfl

/-- The annotations after the number of the runner is written. -/
def recordedTexts (pod : Pod) (id : Int64) (key : String) : Option String :=
  if key = Pod.runnerIdKey then some (runnerIdText id) else pod.annotation? key

/-- The answer to the write of a number, after the listing. -/
def World.written (w : World) (pod : Pod) (id : Int64) : Except PodStoreError Pod :=
  (w.list.2.patch pod (.single Pod.runnerIdKey (runnerIdText id))).1

/-- What an attempt comes to on the stored pod of a world that is not settled. -/
structure RegistrationAttempted (w : World) (target : Target) (pod : Pod)
    (o : Outcome World RegistrationOutcome) : Prop where
  /-- There is one listing, and one write if a number is listed for the runner. -/
  calls : o.calls = .list target.scope ::
    ((listedNumber? target w.list.1).map (recordingCall pod)).toList
  done_iff : ∀ q, o.value = .registered q ↔
    ∃ id, listedNumber? target w.list.1 = some id ∧ w.written pod id = .ok q
  /-- What is handed back is stored, with the number of the runner. -/
  stored : ∀ q, o.value = .registered q →
    o.state.store.find? pod.namespaceName pod.name = some q ∧
      ∃ id, listedNumber? target w.list.1 = some id ∧ pod.Reannotated q (recordedTexts pod id)
  /-- An attempt that is not done has left the store alone, and its cause is the failure of the
  listing or of the write. -/
  waits : (∀ q, o.value ≠ .registered q) → o.state.store = w.store ∧
    ∃ cause, o.value = .requeue registrationPollDelay cause ∧
      ∀ e, cause = some e ↔ (∃ f, w.list.1 = .error f ∧ e = .registry f) ∨
        ∃ id f, listedNumber? target w.list.1 = some id ∧ w.written pod id = .error f ∧
          e = .podStore f
  runners : o.state.runners = w.runners
  others : ∀ ns name, ¬(ns = pod.namespaceName ∧ name = pod.name) →
    o.state.store.find? ns name = w.store.find? ns name

section Attempts

variable {w : World} {target : Target} {pod : Pod}

/-- Without a number the attempt ends with the listing. -/
theorem registrationAttempted_unlisted (hsettled : ¬pod.IsSettled)
    (hnumber : listedNumber? target w.list.1 = none) :
    RegistrationAttempted w target pod ((ensureRegistered target pod).run World.answer w) := by
  have hstore : w.list.2.store = w.store := (World.afterRegistry_list w).store
  have hrun : (ensureRegistered target pod).run World.answer w =
      ⟨.ofListing w.list.1, [.list target.scope], w.list.2⟩ :=
    ensureRegistered_unlisted hsettled rfl hnumber
  have hwaits : ∀ q, RegistrationOutcome.ofListing w.list.1 ≠ .registered q := by
    intro q
    cases w.list.1 with
    | error f => nofun
    | ok runners => nofun
  rw [hrun]
  -- nothing is handed back, so only the calls, the cause and the frame are left to be said
  refine ⟨?_, fun q => ?_, fun q hq => absurd hq (hwaits q), fun _ => ⟨hstore, ?_⟩, w.runners_list,
    fun ns name _ => by rw [hstore]⟩
  · rw [hnumber]
    rfl
  · rw [hnumber]
    exact ⟨fun hq => absurd hq (hwaits q), nofun⟩
  · rw [hnumber]
    cases w.list.1 with
    | error f => exact ⟨_, rfl, fun e => by simp [eq_comm]⟩
    | ok runners => exact ⟨_, rfl, fun e => by simp⟩

/-- With a number the attempt ends with the write. -/
theorem registrationAttempted_listed (hstored : w.store.find? pod.namespaceName pod.name = some pod)
    (hsettled : ¬pod.IsSettled) {id : Int64}
    (hnumber : listedNumber? target w.list.1 = some id) :
    RegistrationAttempted w target pod ((ensureRegistered target pod).run World.answer w) := by
  have hstore : w.list.2.store = w.store := (World.afterRegistry_list w).store
  have hrun : (ensureRegistered target pod).run World.answer w =
      ⟨.ofPatch (w.written pod id), [.list target.scope, recordingCall pod id],
        (w.list.2.patch pod (.single Pod.runnerIdKey (runnerIdText id))).2⟩ :=
    ensureRegistered_listed hsettled rfl hnumber rfl
  have hrunners : (w.list.2.patch pod (.single Pod.runnerIdKey (runnerIdText id))).2.runners =
      w.runners :=
    (World.runners_answer (c := recordingCall pod id) trivial w.list.2).trans w.runners_list
  have hlisting : ∀ f, w.list.1 ≠ .error f := by
    intro f hf
    rw [hf] at hnumber
    cases hnumber
  have hcalls : [.list target.scope, recordingCall pod id] = .list target.scope ::
      ((listedNumber? target w.list.1).map (recordingCall pod)).toList := by
    rw [hnumber]
    rfl
  rw [hrun]
  rcases World.patch_stored (w := w.list.2) (by rwa [hstore])
    (.single Pod.runnerIdKey (runnerIdText id)) with ⟨f, hf, hkept⟩ | ⟨hq, hput⟩
  · -- the write is refused
    have hwritten : w.written pod id = .error f := hf
    rw [hwritten]
    refine ⟨hcalls, fun q => ⟨nofun, ?_⟩, nofun, fun _ => ⟨hkept.trans hstore, _, rfl, fun e => ?_⟩,
      hrunners, fun ns name _ => by rw [hkept, hstore]⟩
    · rintro ⟨id', hid', hq⟩
      obtain rfl : id = id' := Option.some.inj (hnumber.symm.trans hid')
      rw [hwritten] at hq
      cases hq
    · constructor
      · intro he
        exact .inr ⟨id, f, hnumber, hwritten, (Option.some.inj he).symm⟩
      · rintro (⟨f', hf', -⟩ | ⟨id', f', hid', hf', rfl⟩)
        · exact absurd hf' (hlisting f')
        · obtain rfl : id = id' := Option.some.inj (hnumber.symm.trans hid')
          rw [hwritten] at hf'
          rw [Except.error.inj hf']
  · -- the number is written
    have hwritten : w.written pod id =
        .ok (w.list.2.store.nextVersion (pod.annotate (.single Pod.runnerIdKey
          (runnerIdText id)))) := hq
    rw [hwritten]
    refine ⟨hcalls, fun q => ⟨fun he => ?_, ?_⟩, fun q he => ?_, fun hnot => absurd rfl (hnot _),
      hrunners, fun ns name hother => ?_⟩
    · cases he
      exact ⟨id, hnumber, hwritten⟩
    · rintro ⟨id', hid', hq'⟩
      obtain rfl : id = id' := Option.some.inj (hnumber.symm.trans hid')
      rw [hwritten] at hq'
      rw [Except.ok.inj hq']
      rfl
    · -- what is handed back is what the store has put
      cases he
      refine ⟨?_, id, hnumber, rfl, fun key => ?_⟩
      · dsimp only
        rw [hput]
        exact Store.find?_put_self w.list.2.store (pod.annotate (.single _ _))
      · rw [World.annotation?_written]
        exact if_congr eq_comm rfl rfl
    · dsimp only
      rw [hput, Store.find?_put, if_neg, hstore]
      intro hnamed
      obtain ⟨hns, hname⟩ := Store.isNamed_iff.1 hnamed
      exact hother ⟨hns.symm, hname.symm⟩

end Attempts

/-- **What an attempt to record a registration comes to**, on the pod as it is stored. If nothing is
left to be recorded, the pod is handed back as it is and nothing is asked for. Otherwise there is
one listing, and one write if a number is listed for the runner. The attempt is done exactly if the
write succeeds, and then the stored pod has the number, a new version and nothing else that it did
not have; if not, the next attempt is due after the usual wait, with the failure of the listing or
of the write for a cause, if there was one, and nothing is stored. No runner is removed, no other
pod is touched, and another attempt on the pod that is handed back does nothing. -/
theorem registration_attempt {w : World} (target : Target) {pod : Pod}
    (hstored : w.store.find? pod.namespaceName pod.name = some pod) :
    let o := (ensureRegistered target pod).run World.answer w
    (pod.IsSettled → o = ⟨.registered pod, [], w⟩) ∧
    (¬pod.IsSettled → RegistrationAttempted w target pod o) ∧
    (∀ scope id, Call.remove scope id ∉ o.calls) ∧
    ∀ q, o.value = .registered q → ∀ target' w',
      (ensureRegistered target' q).run World.answer w' = ⟨.registered q, [], w'⟩ := by
  intro o
  have hattempted : ¬pod.IsSettled → RegistrationAttempted w target pod o := by
    intro hsettled
    cases hnumber : listedNumber? target w.list.1 with
    | none => exact registrationAttempted_unlisted hsettled hnumber
    | some id => exact registrationAttempted_listed hstored hsettled hnumber
  refine ⟨fun h => run_ensureRegistered_settled _ target h w, hattempted, fun scope id => ?_,
    fun q hq => ?_⟩
  · have hasks : (ensureRegistered target pod).Asks (fun c => ∀ scope id, c ≠ .remove scope id) :=
      ensureRegistered_asks (fun _ _ => nofun) (fun _ _ _ _ => nofun) pod
    exact fun hmem => hasks.calls hmem scope id rfl
  · refine fun target' w' => run_ensureRegistered_settled _ target' ?_ w'
    by_cases hsettled : pod.IsSettled
    · -- the pod that is handed back is the given one
      have hrun : o = ⟨.registered pod, [], w⟩ := run_ensureRegistered_settled _ target hsettled w
      rw [hrun] at hq
      cases hq
      exact hsettled
    · obtain ⟨-, id, -, hsame⟩ := (hattempted hsettled).stored q hq
      exact .inr ⟨runnerIdText id, (hsame.text Pod.runnerIdKey).trans (if_pos rfl)⟩

/-! ### A write that is refused

The runner is listed, but its pod has been changed by somebody else when the number is written. -/

def unrecordedPod : Pod where
  namespaceName := "default"
  name := "runner-abc"
  version := some "1"
  annotations := .empty
  phase := .pending
  containers := [⟨"runner", .waiting⟩]
  conditions := []

def unrecordedTarget : Target :=
  ⟨.ofOrganization "acme", "runner-abc"⟩

/-- The world in which the write is going to be refused. -/
def refusingWorld : World :=
  { World.initial .epoch [⟨some 42, "runner-abc", "linux", .online, false, []⟩] [unrecordedPod] with
    faults := { Faults.none with patch := [.conflict "default/runner-abc"] } }

/-- A listed runner whose number cannot be written, because the pod has changed since it was read.
-/
theorem registration_attempt_refused :
    let o := (ensureRegistered unrecordedTarget unrecordedPod).run World.answer refusingWorld
    refusingWorld.store.find? "default" "runner-abc" = some unrecordedPod ∧
      o.calls = [.list unrecordedTarget.scope, recordingCall unrecordedPod 42] ∧
      o.value = .requeue registrationPollDelay
        (some (.podStore (.conflict "default/runner-abc"))) ∧
      o.state.store = refusingWorld.store := by
  intro o
  have hstored : refusingWorld.store.find? "default" "runner-abc" = some unrecordedPod := by
    decide +kernel
  have hsettled : ¬unrecordedPod.IsSettled := by
    rw [Pod.isSettled_iff]
    decide +kernel
  have hnumber : listedNumber? unrecordedTarget refusingWorld.list.1 = some 42 := by
    decide +kernel
  have hwritten : refusingWorld.written unrecordedPod 42 =
      .error (.conflict "default/runner-abc") := by rfl
  have hattempted := (registration_attempt unrecordedTarget hstored).2.1 hsettled
  have hnone : ∀ q, o.value ≠ .registered q := by
    intro q hq
    obtain ⟨id, hid, hanswer⟩ := (hattempted.done_iff q).1 hq
    obtain rfl : 42 = id := Option.some.inj (hnumber.symm.trans hid)
    rw [hwritten] at hanswer
    cases hanswer
  obtain ⟨hstore, cause, hvalue, hcause⟩ := hattempted.waits hnone
  refine ⟨hstored, ?_, ?_, hstore⟩
  · rw [hattempted.calls, hnumber]
    rfl
  · rw [hvalue, (hcause _).2 (.inr ⟨42, _, hnumber, hwritten, rfl⟩)]

end Quiesce
