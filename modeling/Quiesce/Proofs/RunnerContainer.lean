import Mathlib.Logic.Relation
import Quiesce.Proofs.ObjectParts
import Quiesce.Proofs.Registering
import Quiesce.Services

/-!
# Only the container of the runner counts

The status of a pod lists its containers. What is read off them is the exit code of the first of the
runner's own containers that has terminated; sidecars may be listed in any number, in any order and
in any state.

* `SidecarEdit` is a change of the listed containers that leaves those of the runner alone, and
  `SidecarEdits.filter_eq` says what any number of them leaves.
* `Pod.Alike` are pods that a decision cannot tell apart, and `Pod.Alike.decidedAlike` says that it
  cannot.
* `only_runner_container_counts` is the main statement.
-/

namespace Quiesce

/-! ## Changes of the sidecars -/

/-- A change of the listed containers that leaves those of the runner alone. -/
inductive SidecarEdit : List Json → List Json → Prop where
  | insert (before after : List Json) {entry : Json}
      (h : ContainerEntry.isOfRunner entry = false) :
      SidecarEdit (before ++ after) (before ++ entry :: after)
  | remove (before after : List Json) {entry : Json}
      (h : ContainerEntry.isOfRunner entry = false) :
      SidecarEdit (before ++ entry :: after) (before ++ after)
  | change (before after : List Json) {entry entry' : Json}
      (h : ContainerEntry.isOfRunner entry = false)
      (h' : ContainerEntry.isOfRunner entry' = false) :
      SidecarEdit (before ++ entry :: after) (before ++ entry' :: after)
  | moveOn (before between after : List Json) {entry : Json}
      (h : ContainerEntry.isOfRunner entry = false) :
      SidecarEdit (before ++ entry :: between ++ after) (before ++ between ++ entry :: after)
  | moveBack (before between after : List Json) {entry : Json}
      (h : ContainerEntry.isOfRunner entry = false) :
      SidecarEdit (before ++ between ++ entry :: after) (before ++ entry :: between ++ after)

/-- Any number of such changes. -/
abbrev SidecarEdits : List Json → List Json → Prop :=
  Relation.ReflTransGen SidecarEdit

/-- Changing the entries of other containers leaves those of the runner in their order. -/
theorem SidecarEdit.filter_eq {entries entries' : List Json} (h : SidecarEdit entries entries') :
    entries'.filter ContainerEntry.isOfRunner = entries.filter ContainerEntry.isOfRunner := by
  cases h with
  | insert before after h => simp [List.filter_append, h]
  | remove before after h => simp [List.filter_append, h]
  | change before after h h' => simp [List.filter_append, h, h']
  | moveOn before between after h => simp [List.filter_append, h]
  | moveBack before between after h => simp [List.filter_append, h]

/-- The entries of the runner stay the same, and in their order. -/
theorem SidecarEdits.filter_eq {entries entries' : List Json} (h : SidecarEdits entries entries') :
    entries'.filter ContainerEntry.isOfRunner = entries.filter ContainerEntry.isOfRunner := by
  induction h with
  | refl => rfl
  | tail _ hstep ih => exact hstep.filter_eq.trans ih

/-- The exit code depends on the entries of the runner only. -/
theorem SidecarEdits.runnerExitCode? {entries entries' : List Json}
    (h : SidecarEdits entries entries') :
    PodObject.runnerExitCode? entries' = PodObject.runnerExitCode? entries := by
  unfold PodObject.runnerExitCode? PodObject.firstTerminated?
  -- the first that is of the runner and has terminated is the first terminated of the runner's
  rw [← List.find?_filter, ← List.find?_filter, h.filter_eq]

/-- Two objects that say the same about the metadata and the phase, and whose listed containers
differ in sidecars only. -/
structure PodObject.DifferInSidecars (j j' : Json) : Prop where
  metadata : j'.part? names "metadata" = j.part? names "metadata"
  phase : phaseText? j' = phaseText? j
  containers : SidecarEdits (containerEntries j) (containerEntries j')

/-! ## Pods that are decided on alike -/

/-- Two pods that differ in nothing that a decision looks at. -/
structure Pod.Alike (p p' : Pod) : Prop where
  namespaceName : p'.namespaceName = p.namespaceName
  name : p'.name = p.name
  version : p'.version = p.version
  annotations : p'.annotations = p.annotations
  phase : p'.phase = p.phase
  exitCode : p'.exitCode? = p.exitCode?

/-- Objects that differ in sidecars are read as pods that are alike. -/
theorem PodObject.DifferInSidecars.alike {j j' : Json} {p p' : Pod}
    (h : PodObject.DifferInSidecars j j') (hp : p.ReadFrom j) (hp' : p'.ReadFrom j') :
    p.Alike p' := by
  obtain ⟨m, hm, hns, hname, hversion, htexts⟩ := hp.metadata
  obtain ⟨m', hm', hns', hname', hversion', htexts'⟩ := hp'.metadata
  rw [h.metadata, hm] at hm'
  cases hm'
  -- the codes are compared as the integers that the objects give, and those are alike
  have hcodes : p'.exitCode?.map Int32.toInt = p.exitCode?.map Int32.toInt := by
    rw [hp.exitCode, hp'.exitCode, h.containers.runnerExitCode?]
  exact {
    namespaceName := hns'.trans hns.symm
    name := hname'.trans hname.symm
    version := hversion'.trans hversion.symm
    annotations := htexts'.trans htexts.symm
    phase := by rw [hp.phase, hp'.phase, h.phase]
    exitCode := Option.map_injective (fun _ _ => Int32.toInt_inj.1) hcodes }

/-- A source of answers that answers the patches of two pods alike. -/
def Handler.Confuses {σ : Type} (handler : Handler σ) (p p' : Pod) : Prop :=
  ∀ more s, handler (.patch p' more) s = handler (.patch p more) s

/-- The call with this pod in the place of the one that is patched. -/
def Call.patching (p : Pod) : Call → Call
  | .patch _ more => .patch p more
  | c => c

namespace Pod.Alike

variable {p p' : Pod}

theorem isStopped (h : p.Alike p') : p'.isStopped = p.isStopped := by
  unfold Pod.isStopped
  rw [h.phase, h.exitCode]

theorem annotation? (h : p.Alike p') (key : String) : p'.annotation? key = p.annotation? key :=
  congrArg (·.get? key) h.annotations

theorem mark? (h : p.Alike p') (key : String) : p'.mark? key = p.mark? key := by
  unfold Pod.mark?
  rw [h.annotation?]

theorem isSettled_iff (h : p.Alike p') : p'.IsSettled ↔ p.IsSettled := by
  unfold Pod.IsSettled
  simp only [h.isStopped, h.annotation?]

/-- Unregistration is one and the same program for both pods. -/
theorem ensureUnregistered_eq (h : p.Alike p') (target : Target) (timeout retryDelay : Duration) :
    ensureUnregistered target timeout retryDelay (some p') =
      ensureUnregistered target timeout retryDelay (some p) := by
  have hnotFound : decideNotFound timeout retryDelay (some p') =
      decideNotFound timeout retryDelay (some p) := by
    unfold decideNotFound
    dsimp only
    rw [h.isStopped, h.mark?]
  have hfailure : ∀ e, decideFailure target (some p') e = decideFailure target (some p) e := by
    intro e
    unfold decideFailure
    rw [Option.bind_some, Option.bind_some, h.exitCode]
  have hid : recordedId (some p') = recordedId (some p) := by
    unfold recordedId
    rw [Option.bind_some, Option.bind_some, h.annotation?]
  unfold ensureUnregistered isMarked
  rw [Option.any_some, Option.any_some, h.mark?, hid, hnotFound]
  simp only [hfailure]

/-- The world answers alike about pods that differ in other containers only. -/
theorem confuses_world (h : p.Alike p') : Handler.Confuses World.answer p p' := by
  intro more w
  show w.patch p' more = w.patch p more
  -- the stored pod is patched, and the given one says which and of what version
  unfold World.patch Store.patch qualifiedName
  rw [h.namespaceName, h.name, h.version]

/-- So do the services. -/
theorem confuses_services (h : p.Alike p') (services : Services) :
    Handler.Confuses services.answer p p' := by
  intro more c
  have hpatch : services.cluster.patch p' more c.network =
      services.cluster.patch p more c.network := by
    unfold ClusterClient.patch annotationPatch qualifiedName
    rw [h.namespaceName, h.name, h.version]
  unfold Services.answer
  dsimp only
  rw [hpatch]
  rfl

end Pod.Alike

/-- Two pods on which every decision is the same. -/
structure Pod.DecidedAlike (p p' : Pod) : Prop where
  exitCode : p'.exitCode? = p.exitCode?
  isStopped : p'.isStopped = p.isStopped
  /-- Unregistration asks the same and decides the same, whatever is answered. -/
  unregistration : ∀ target timeout retryDelay,
    ensureUnregistered target timeout retryDelay (some p') =
      ensureUnregistered target timeout retryDelay (some p)
  /-- Registration asks the same and comes to the same; if nothing is left to be recorded, each pod
  is handed back. -/
  registration : ∀ {σ : Type} (handler : Handler σ), handler.Confuses p p' → ∀ target s,
    let o := (ensureRegistered target p).run handler s
    let o' := (ensureRegistered target p').run handler s
    o'.state = o.state ∧ o'.calls = o.calls.map (Call.patching p') ∧
      (p.IsSettled ∧ o.value = .registered p ∧ o'.value = .registered p' ∨
        ¬p.IsSettled ∧ o'.value = o.value)
  world : Handler.Confuses World.answer p p'
  services : ∀ services : Services, Handler.Confuses services.answer p p'

/-- Pods that are alike are decided alike, by every source of answers that does not tell them apart.
-/
theorem Pod.Alike.decidedAlike {p p' : Pod} (h : p.Alike p') : p.DecidedAlike p' where
  exitCode := h.exitCode
  isStopped := h.isStopped
  unregistration := h.ensureUnregistered_eq
  registration := by
    intro σ handler hconfuses target s o o'
    by_cases hsettled : p.IsSettled
    · have ho : o = ⟨.registered p, [], s⟩ := run_ensureRegistered_settled handler target hsettled s
      have ho' : o' = ⟨.registered p', [], s⟩ :=
        run_ensureRegistered_settled handler target (h.isSettled_iff.2 hsettled) s
      rw [ho, ho']
      exact ⟨rfl, rfl, .inl ⟨hsettled, rfl, rfl⟩⟩
    · -- the listing is the same call, and so is the write but for its pod
      have hsettled' : ¬p'.IsSettled := fun hs => hsettled (h.isSettled_iff.1 hs)
      obtain ⟨listing, s₁, hlist⟩ : ∃ listing s₁, handler (.list target.scope) s = (listing, s₁) :=
        ⟨_, _, rfl⟩
      cases hnumber : listedNumber? target listing with
      | none =>
        have ho : o = _ := ensureRegistered_unlisted hsettled hlist hnumber
        have ho' : o' = _ := ensureRegistered_unlisted hsettled' hlist hnumber
        rw [ho, ho']
        exact ⟨rfl, rfl, .inr ⟨hsettled, rfl⟩⟩
      | some id =>
        have ho : o = _ := ensureRegistered_listed hsettled hlist hnumber rfl
        have ho' : o' = _ :=
          ensureRegistered_listed hsettled' hlist hnumber (hconfuses _ s₁)
        rw [ho, ho']
        exact ⟨rfl, rfl, .inr ⟨hsettled, rfl⟩⟩
  world := h.confuses_world
  services := h.confuses_services

/-- **Only the container of the runner counts.** The pod that an object is read as has stopped
exactly if the phase of the object is `Succeeded` or `Failed`, or it is `Running` and the first
entry of the runner's container with something about a termination gives the exit code 0. Whatever
is done to the entries of other containers, the exit code and every decision stay the same. -/
theorem only_runner_container_counts {j : Json} {p : Pod} (h : Pod.ofObject? j = some p) :
    (p.isStopped = true ↔
      PodObject.phaseText? j = some "Succeeded" ∨ PodObject.phaseText? j = some "Failed" ∨
        PodObject.phaseText? j = some "Running" ∧
          PodObject.runnerExitCode? (PodObject.containerEntries j) = some 0) ∧
    ∀ {j' : Json} {p' : Pod}, Pod.ofObject? j' = some p' → PodObject.DifferInSidecars j j' →
      p.DecidedAlike p' := by
  have hread := Pod.readFrom_ofObject? h
  refine ⟨hread.isStopped_iff, fun {j' p'} h' hdiffer => ?_⟩
  exact (hdiffer.alike hread (Pod.readFrom_ofObject? h')).decidedAlike

/-! ### A proxy that has left

The proxy in front of the runner has left with exit code 0, and the runner with exit code 1. -/

def entryOf (name : String) (state : List (String × Json)) : Json :=
  .ofFields [("name", .ofText name), ("state", .ofFields state)]

/-- What there is to say about a termination. -/
def terminatedWith (code : Int) : String × Json :=
  ("terminated", .ofFields [("exitCode", .ofInt code)])

/-- The entry of a proxy that has left. -/
def proxyLeft : Json := entryOf "proxy" [terminatedWith 0]

/-- The entry of a proxy that is still to start. -/
def proxyWaiting : Json := entryOf "proxy" []

/-- The entry of the runner, which has failed although there is something about its running. -/
def runnerFailed : Json := entryOf "runner" [("running", .ofFields []), terminatedWith 1]

/-- A running pod with these entries of containers. -/
def proxiedObject (entries : List Json) : Json :=
  .ofFields [
    ("metadata", .ofFields [("name", .ofText "runner-abc"), ("namespace", .ofText "ci")]),
    ("status", .ofFields [
      ("phase", .ofText "Running"), ("containerStatuses", .array entries)])]

def proxiedPod (containers : List Pod.Container) : Pod :=
  ⟨"ci", "runner-abc", none, .empty, .running, containers, []⟩

/-- A running pod whose proxy has left with exit code 0 is not stopped, since its runner has failed.
-/
theorem only_runner_container_counts_proxied :
    let p := proxiedPod [⟨"proxy", .terminated 0⟩, ⟨"runner", .terminated 1⟩]
    let p' := proxiedPod [⟨"runner", .terminated 1⟩, ⟨"proxy", .waiting⟩]
    Pod.ofObject? (proxiedObject [proxyLeft, runnerFailed]) = some p ∧
      Pod.ofObject? (proxiedObject [runnerFailed, proxyWaiting]) = some p' ∧
      p.isStopped = false ∧ p.DecidedAlike p' := by
  intro p p'
  have hp : Pod.ofObject? (proxiedObject [proxyLeft, runnerFailed]) = some p := by decide +kernel
  have hp' : Pod.ofObject? (proxiedObject [runnerFailed, proxyWaiting]) = some p' := by
    decide +kernel
  obtain ⟨hstopped, halike⟩ := only_runner_container_counts hp
  refine ⟨hp, hp', Bool.eq_false_iff.2 fun h => ?_, halike hp' ⟨rfl, rfl, ?_⟩⟩
  · exact absurd (hstopped.1 h) (by decide +kernel)
  · -- the proxy is moved behind the runner, and started anew
    exact .tail (.single (.moveOn [] [runnerFailed] [] (by decide +kernel)))
      (.change [runnerFailed] [] (by decide +kernel) (by decide +kernel))

end Quiesce
