import Quiesce.Proofs.Independence
import Quiesce.Proofs.Registering
import Quiesce.Proofs.RunnerIds
import Quiesce.Proofs.StepEffects
import Quiesce.Proofs.Unregistered

/-!
# The number that is recorded is the number that is removed

The number of a runner is written on its pod when it registers and read again when it is stopped, by
other code and maybe much later, after the list of the registry has changed. What ties the two ends
together is a text: every number of 64 bits is read back from the text that it is written as, and an
annotation keeps its text.

* `ensureRegistered_records` is the one end: what an attempt to record a listed number leaves.
* `tick_removes_recorded` is the other: what a step on a pod with a number asks the registry.
* `recorded_number_is_removed` puts the ends together, with any run of a race between them.
-/

namespace Quiesce

/-! ## Recording -/

/-- A pod records the number that its annotation is read as. -/
theorem recordedId_of_text {pod : Pod} {text : String} {id : Int64}
    (htext : pod.annotation? Pod.runnerIdKey = some text) (hread : Text.readInt64 text = .ok id) :
    recordedId (some pod) = .ok (some id) := by
  unfold recordedId
  rw [Option.bind_some, htext]
  dsimp only
  rw [hread]

/-- The number that is listed under the name of a runner is written on its stored pod, if nothing
fails and the pod is without. -/
theorem ensureRegistered_records {w : World} (hlist : w.faults.list = [])
    (hpatch : w.faults.patch = []) {target : Target} {runner : Runner} {id : Int64}
    (hlisted : firstNamed target.name w.runners = some runner) (hid : runner.id = some id)
    {pod : Pod} (hstored : w.store.find? pod.namespaceName pod.name = some pod)
    (hrunning : pod.isStopped = false) (hlacks : pod.hasAnnotation Pod.runnerIdKey = false) :
    (ensureRegistered target pod).run World.answer w =
      ⟨.registered (w.store.nextVersion
          (pod.annotate (.single Pod.runnerIdKey (runnerIdText id)))),
        [.list target.scope, .patch pod (.single Pod.runnerIdKey (runnerIdText id))],
        { w with
          store := w.store.put (pod.annotate (.single Pod.runnerIdKey (runnerIdText id))) }⟩ := by
  have hsettled : ¬pod.IsSettled := by
    rw [Pod.isSettled_iff, hrunning, hlacks]
    nofun
  have hnumber : listedNumber? target (.ok w.runners) = some id := by
    show (firstNamed target.name w.runners).bind (·.id) = some id
    rw [hlisted, Option.bind_some, hid]
  have hwrite : World.answer (recordingCall pod id) w =
      (.ok (w.store.nextVersion (pod.annotate (.single Pod.runnerIdKey (runnerIdText id)))),
        { w with
          store := w.store.put (pod.annotate (.single Pod.runnerIdKey (runnerIdText id))) }) := by
    show w.patch pod _ = _
    unfold World.patch Store.patch
    rw [hpatch, hstored]
    dsimp only
    rw [if_pos rfl]
    rfl
  exact ensureRegistered_listed hsettled (World.list_unfailing hlist) hnumber hwrite

/-! ## Removing -/

section Removing

variable {σ : Type}

/-- What the registry is asked after it has answered a removal: nothing, but for the listing after
a refusal for the state of a runner whose container has terminated. -/
inductive FollowUp (target : Target) (pod : Option Pod) :
    Except RegistryError Unit → List Call → Prop
  | record {e : RegistryError} (h : RefusedForGood pod e) :
      FollowUp target pod (.error e) [.list target.scope]
  | nothing {answer : Except RegistryError Unit}
      (h : ∀ e, answer = .error e → ¬RefusedForGood pod e) : FollowUp target pod answer []

/-- What follows a removal depends on the exit code of the runner and on nothing else of the pod. -/
theorem FollowUp.congr {target : Target} {p q : Pod} {answer : Except RegistryError Unit}
    {calls : List Call} (h : FollowUp target (some p) answer calls)
    (hexit : q.exitCode? = p.exitCode?) : FollowUp target (some q) answer calls := by
  have hsame : ∀ e, RefusedForGood (some q) e ↔ RefusedForGood (some p) e := by
    intro e
    unfold RefusedForGood
    rw [Option.bind_some, Option.bind_some, hexit]
  cases h with
  | record hrefused => exact .record ((hsame _).2 hrefused)
  | nothing hnot => exact .nothing fun e he hrefused => hnot e he ((hsame e).1 hrefused)

/-- A program that spares the runners makes no call to the registry. -/
theorem Program.Asks.registryCalls_eq_nil {α : Type} {p : Program α}
    (hp : p.Asks Call.sparesRunners) (handler : Handler σ) (s : σ) :
    (p.run handler s).calls.filter Call.isRegistry = [] := by
  refine List.filter_eq_nil_iff.2 fun c hc hregistry => ?_
  have hspared := hp.calls hc
  cases c with
  | list scope => exact hspared
  | remove scope id => exact hspared
  | _ => cases hregistry

/-- The end of a step asks the registry for nothing. -/
theorem finish_sparesRunners (retryDelay : Duration) (pod : Option Pod) (decision : Decision) :
    (finish retryDelay pod decision).Asks Call.sparesRunners := by
  cases decision with
  | requeue after cause => trivial
  | failed e => trivial
  | deletable =>
    refine (markPod_sparesRunners Pod.completeKey pod).bind fun marked => ?_
    cases marked with
    | error e => trivial
    | ok pod' => trivial

/-- The registry is asked again only for the record, after a refusal for good. -/
theorem decideRemoval_followUp {handler : Handler σ} {target : Target}
    {timeout retryDelay : Duration} (pod : Option Pod) (answer : Except RegistryError Unit)
    (s : σ) :
    FollowUp target pod answer
      (((decideRemoval target timeout retryDelay pod (.ofAnswer answer)).run handler s).calls.filter
        Call.isRegistry) := by
  cases answer with
  | ok u =>
    refine .nothing fun e he => ?_
    cases he
  | error e =>
    cases hfound : e.isNotFound with
    | true =>
      have hremoval : Removal.ofAnswer (.error e) = .notFound := if_pos hfound
      have hclock : (decideNotFound timeout retryDelay pod).Asks Call.sparesRunners :=
        (decideNotFound_asksClock timeout retryDelay pod).mono fun c hc => by
          subst hc
          trivial
      rw [hremoval]
      show FollowUp _ _ _
        (((decideNotFound timeout retryDelay pod).run handler s).calls.filter Call.isRegistry)
      rw [hclock.registryCalls_eq_nil]
      -- a runner that is not found is no refusal for its state
      refine .nothing fun e' he hrefused => ?_
      cases he
      cases e with
      | notFound text => cases hrefused.1
      | _ => cases hfound
    | false =>
      have hremoval : Removal.ofAnswer (.error e) = .failed e := if_neg (by simp [hfound])
      rw [hremoval]
      show FollowUp _ _ _
        (((decideFailure target pod e).run handler s).calls.filter Call.isRegistry)
      by_cases hrefused : RefusedForGood pod e
      · rw [decideFailure_for_good target hrefused]
        exact .record hrefused
      · obtain ⟨d, -, hd⟩ := decideFailure_otherwise target hrefused
        rw [hd]
        refine .nothing fun e' he => ?_
        cases he
        exact hrefused

/-- A decision about a pod that records a number removes that number and looks nobody up. -/
theorem ensureUnregistered_removes_recorded (handler : Handler σ) (s : σ) (target : Target)
    (timeout retryDelay : Duration) {pod : Pod} {id : Int64}
    (hopen : pod.isMarked Pod.completeKey = false) (hid : recordedId (some pod) = .ok (some id)) :
    ∃ rest,
      ((ensureUnregistered target timeout retryDelay (some pod)).run handler s).calls.filter
        Call.isRegistry = .remove target.scope id :: rest ∧
      FollowUp target (some pod) (handler (.remove target.scope id) s).1 rest := by
  rw [ensureUnregistered_open target timeout retryDelay hopen hid]
  exact ⟨_, rfl, decideRemoval_followUp (some pod) _ _⟩

/-- **A step on a pod that records a number asks the registry to remove that number.** The marks on
both sides of the decision ask the registry nothing. -/
theorem tick_removes_recorded {handler : Handler σ} {s s₁ : σ} {pod marked : Pod} {id : Int64}
    {calls : List Call} (target : Target) (timeout retryDelay : Duration)
    (start : (markPod Pod.startKey (some pod)).run handler s = ⟨.ok (some marked), calls, s₁⟩)
    (hopen : marked.isMarked Pod.completeKey = false)
    (hid : recordedId (some marked) = .ok (some id)) :
    ∃ rest,
      ((tick target timeout retryDelay (some pod)).run handler s).calls.filter Call.isRegistry =
        .remove target.scope id :: rest ∧
      FollowUp target (some marked) (handler (.remove target.scope id) s₁).1 rest := by
  obtain ⟨rest, hcalls, hrest⟩ :=
    ensureUnregistered_removes_recorded handler s₁ target timeout retryDelay hopen hid
  refine ⟨rest, ?_, hrest⟩
  have hquiet : calls.filter Call.isRegistry = [] := by
    have := (markPod_sparesRunners Pod.startKey (some pod)).registryCalls_eq_nil handler s
    rwa [start] at this
  rw [tick_eq, Program.calls_bind, start, List.filter_append, hquiet, List.nil_append,
    Program.calls_bind, List.filter_append, hcalls,
    (finish_sparesRunners retryDelay (some marked) _).registryCalls_eq_nil, List.append_nil]

end Removing

/-! ## From the one end to the other -/

namespace Race

/-- The race goes on after a registration that was recorded in one go. -/
theorem sound_registered {r : Race} (h : r.Sound) (pod : Pod) :
    Sound ⟨{ r.world with store := r.world.store.put pod },
      r.world.store.nextVersion pod :: r.seen, r.running⟩ where
  trusts := (h.trusts.put pod).see (Store.find?_put_self r.world.store pod)
  careful p hp := (h.careful p hp).mono (List.subset_cons_self _ _) fun _ _ _ _ _ => trivial

end Race

/-- **The number that is recorded is the number that is removed.** A runner that is listed under its
name is recorded on its pod by a text that is read back as its number, whatever the number; and
however the world goes on, as long as nobody from outside writes or drops the pod, a step on the pod
as it is stored later, if it gets past its start mark and the pod is not complete, asks the registry
to remove that number and looks nobody up. -/
theorem recorded_number_is_removed {r : Race} (hreach : r.Reachable)
    (hlist : r.world.faults.list = []) (hpatch : r.world.faults.patch = []) {target : Target}
    {runner : Runner} {id : Int64}
    (hlisted : firstNamed target.name r.world.runners = some runner) (hid : runner.id = some id)
    {pod : Pod} (hstored : r.world.store.find? pod.namespaceName pod.name = some pod)
    (hrunning : pod.isStopped = false) (hlacks : pod.hasAnnotation Pod.runnerIdKey = false) :
    ∃ q text w,
      (ensureRegistered target pod).run World.answer r.world =
        ⟨.registered q, [.list target.scope, .patch pod (.single Pod.runnerIdKey text)], w⟩ ∧
      w.store.find? pod.namespaceName pod.name = some q ∧
      pod.Reannotated q (fun key =>
        if key = Pod.runnerIdKey then some text else pod.annotation? key) ∧
      Text.readInt64 text = .ok id ∧
      ∀ events r', Race.Run ⟨w, q :: r.seen, r.running⟩ events r' →
        (∀ e ∈ events, e.spares pod.namespaceName pod.name) →
        ∀ later, r'.world.store.find? pod.namespaceName pod.name = some later →
          later.isMarked Pod.completeKey = false →
          ∀ target' timeout retryDelay marked calls w₁,
            (markPod Pod.startKey (some later)).run World.answer r'.world =
              ⟨.ok marked, calls, w₁⟩ →
            ∃ rest,
              ((tick target' timeout retryDelay (some later)).run World.answer
                r'.world).calls.filter Call.isRegistry = .remove target'.scope id :: rest ∧
              FollowUp target' (some later) (w₁.remove id).1 rest := by
  have hregistered := ensureRegistered_records hlist hpatch hlisted hid hstored hrunning hlacks
  have hnow := Store.find?_put_self r.world.store
    (pod.annotate (.single Pod.runnerIdKey (runnerIdText id)))
  have htexts := World.annotation?_written r.world.store pod Pod.runnerIdKey (runnerIdText id)
  refine ⟨_, _, _, hregistered, hnow, ⟨rfl, fun key => ?_⟩, readInt64_runnerIdText id, ?_⟩
  · rw [htexts]
    exact if_congr eq_comm rfl rfl
  · intro events r' hrun hspares later hlater hopen target' timeout retryDelay marked calls w₁
      hstart
    have hsound := Race.sound_registered (Race.sound_of_reachable hreach)
      (pod.annotate (.single Pod.runnerIdKey (runnerIdText id)))
    -- the text is there after the registration, so it is still there later
    have htext : later.annotation? Pod.runnerIdKey = some (runnerIdText id) := by
      have hkept := (Race.annotation_run Pod.runnerIdKey hsound hrun hspares).1 (runnerIdText id)
      unfold Race.annotation? at hkept
      rw [hlater, Option.bind_some] at hkept
      refine hkept ?_
      rw [show Store.find? _ pod.namespaceName pod.name = some _ from hnow, Option.bind_some,
        htexts, if_pos rfl]
    have hcurrent : r'.world.store.find? later.namespaceName later.name = some later := by
      obtain ⟨hns, hname⟩ := Store.isNamed_of_find? hlater
      rwa [hns, hname]
    obtain ⟨-, answered, hanswered, hmarked⟩ :=
      World.markPod_copy (Store.copies_of_stored hcurrent) hstart
    cases answered with
    | error e => cases hanswered
    | ok p =>
      cases hanswered
      -- the start mark leaves the complete mark, the number and the containers as they are
      have hexit : p.exitCode? = later.exitCode? := by
        rw [(hmarked.current hcurrent).2.same]
        rfl
      have hpopen : p.isMarked Pod.completeKey = false :=
        (Pod.isMarked_congr (hmarked.annotation?_other (by decide))).trans hopen
      have hpid : recordedId (some p) = .ok (some id) :=
        (recordedId_congr (hmarked.annotation?_other (by decide))).trans
          (recordedId_of_text htext (readInt64_runnerIdText id))
      obtain ⟨rest, hcalls, hrest⟩ :=
        tick_removes_recorded target' timeout retryDelay hstart hpopen hpid
      exact ⟨rest, hcalls, hrest.congr hexit.symm⟩

/-! ### The least number

It is recorded for a runner that is listed under its name; then another runner of that name takes
its place in the list, and an hour goes by. -/

def leastPod : Pod where
  namespaceName := "default"
  name := "runner-abc"
  version := some "1"
  annotations := .empty
  phase := .running
  containers := []
  conditions := []

def leastTarget : Target :=
  ⟨.ofOrganization "acme", "runner-abc"⟩

/-- The race before the registration. -/
def leastRace : Race :=
  .initial .epoch [⟨some Int64.minValue, "runner-abc", "linux", .online, true, []⟩] [leastPod]

/-- What happens between the registration and the step. -/
def leastChanges : List World.Change :=
  [.setRunners [⟨some 7, "runner-abc", "linux", .online, true, []⟩], .advance (.ofSeconds 3600)]

/-- The least number that there is goes from the listing to the pod and from there to the removal.
-/
theorem recorded_number_is_removed_least :
    ∃ q text w,
      (ensureRegistered leastTarget leastPod).run World.answer leastRace.world =
        ⟨.registered q,
          [.list leastTarget.scope, .patch leastPod (.single Pod.runnerIdKey text)], w⟩ ∧
      Text.readInt64 text = .ok Int64.minValue ∧
      ∃ rest,
        ((tick leastTarget (.ofSeconds 60) (.ofSeconds 10) (some q)).run World.answer
          (leastChanges.foldl World.apply w)).calls.filter Call.isRegistry =
            .remove leastTarget.scope Int64.minValue :: rest := by
  have hreach : leastRace.Reachable := ⟨_, _, _, [], .nil _⟩
  have hlisted : firstNamed leastTarget.name leastRace.world.runners = some _ := rfl
  have hstored : leastRace.world.store.find? leastPod.namespaceName leastPod.name = some leastPod :=
    rfl
  obtain ⟨q, text, w, hrun, hq, htexts, hread, hlater⟩ :=
    recorded_number_is_removed hreach rfl rfl hlisted rfl hstored rfl rfl
  refine ⟨q, text, w, hrun, hread, ?_⟩
  have hpatch : w.faults.patch = [] := by
    rw [← show ((ensureRegistered leastTarget leastPod).run World.answer
      leastRace.world).state = w from congrArg Outcome.state hrun]
    rfl
  have hopen : q.isMarked Pod.completeKey = false :=
    (Pod.isMarked_congr (htexts.text Pod.completeKey)).trans rfl
  have hafter : Race.Run ⟨w, q :: leastRace.seen, leastRace.running⟩
      (leastChanges.map .changed)
      ⟨leastChanges.foldl World.apply w, q :: leastRace.seen, leastRace.running⟩ :=
    .cons (.change _) (.cons (.change _) (.nil _))
  have hspares : ∀ e ∈ leastChanges.map Race.Event.changed,
      e.spares leastPod.namespaceName leastPod.name := by
    intro e he
    simp only [leastChanges, List.map_cons, List.map_nil, List.mem_cons, List.not_mem_nil,
      or_false] at he
    rcases he with rfl | rfl <;> trivial
  have hcurrent : w.store.find? q.namespaceName q.name = some q := by
    obtain ⟨hns, hname⟩ := Store.isNamed_of_find? hq
    rwa [hns, hname]
  obtain ⟨marked, s, calls, hstart, -⟩ := World.markPod_unfailing Pod.startKey
    (w := leastChanges.foldl World.apply w) hpatch hcurrent
  obtain ⟨rest, hcalls, -⟩ := hlater _ _ hafter hspares q hq hopen leastTarget (.ofSeconds 60)
    (.ofSeconds 10) _ _ _ hstart
  exact ⟨rest, hcalls⟩

end Quiesce
