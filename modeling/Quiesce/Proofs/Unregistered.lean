import Mathlib.Data.List.Nodup
import Quiesce.Proofs.TickCases
import Quiesce.Proofs.WorldSteps

/-!
# What a deletable pod says of the registry

A step that finds its pod deletable has asked the registry to remove one number: the recorded one
or, if the pod records none, that of the runner listed under the name. In a world that answers
truthfully the registry then lists nobody under that number. Whether it still lists somebody under
the *name* is another question: a pod that records a number is not looked up by its name again, so a
runner that has registered anew under another number stays listed.

* `ensureUnregistered_runners` says which runners a deletable decision leaves.
* `deletable_means_unregistered` is the main statement, with the exact condition under which the
  name is free as well.
-/

namespace Quiesce

/-! ## The registry during a step -/

/-- Calls to the store of pods and to the clock. -/
def Call.sparesRunners : Call → Prop
  | .list _ => False
  | .remove _ _ => False
  | _ => True

theorem markPod_sparesRunners (key : String) (pod : Option Pod) :
    (markPod key pod).Asks Call.sparesRunners :=
  markPod_asks trivial (fun _ _ _ => trivial) key pod

namespace World

/-- Calls that spare the runners leave them as they are. -/
theorem runners_answer {c : Call} (hc : c.sparesRunners) (w : World) :
    (answer c w).2.runners = w.runners := by
  cases c with
  | list scope => exact hc.elim
  | remove scope id => exact hc.elim
  | get namespaceName name =>
    show (w.get namespaceName name).2.runners = w.runners
    unfold World.get
    cases w.faults.get with
    | nil => rfl
    | cons e rest => rfl
  | patch pod more => exact (World.patch_frame w pod more).2.1
  | delete pod =>
    show (w.delete pod).2.runners = w.runners
    unfold World.delete
    cases w.faults.delete with
    | nil => rfl
    | cons e rest => rfl
  | now => rfl

/-- So do programs of such calls. -/
theorem runners_run {α : Type} {p : Program α} (hp : p.Asks Call.sparesRunners) (w : World) :
    (p.run answer w).state.runners = w.runners :=
  hp.keeps (P := fun w' => w'.runners = w.runners)
    (fun _ w' hc h => (runners_answer hc w').trans h) rfl

/-- A world that answers its registry's calls from its list of runners. -/
structure Truthful (w : World) : Prop where
  list : w.faults.list = []
  remove : w.faults.remove = []

/-- The runners that are left when the one with a number is removed; all of them without a
number. -/
def runnersWithout (w : World) (id : Option Int64) : List Runner :=
  w.runners.filter fun r => r.id.isNone || r.id ≠ id

theorem runnersWithout_none (w : World) : w.runnersWithout none = w.runners := by
  unfold runnersWithout
  rw [List.filter_eq_self]
  intro r _
  cases r.id <;> simp

theorem runnersWithout_some (w : World) (n : Int64) :
    w.runnersWithout (some n) = w.runners.filter fun r => r.id ≠ some n := by
  unfold runnersWithout
  congr 1
  funext r
  cases r.id <;> simp

/-- A truthful removal leaves nobody under the number, and fails only if there was nobody. -/
theorem removeById_truthful {w : World} (hw : w.Truthful) (scope : Scope) (n : Int64) :
    (∀ e, ((removeById scope n).run answer w).value ≠ .failed e) ∧
      ((removeById scope n).run answer w).state.runners = w.runnersWithout (some n) := by
  show (∀ e, Removal.ofAnswer (w.remove n).1 ≠ .failed e) ∧
    (w.remove n).2.runners = w.runnersWithout (some n)
  rw [runnersWithout_some]
  unfold World.remove
  rw [hw.remove]
  dsimp only
  by_cases hlisted : w.runners.any (·.id = some n) = true
  · rw [if_pos hlisted]
    refine ⟨fun e h => ?_, rfl⟩
    cases h
  · rw [if_neg hlisted]
    refine ⟨fun e h => ?_, ?_⟩
    · cases h
    symm
    rw [List.filter_eq_self]
    intro r hr
    simp only [List.any_eq_true, decide_eq_true_eq, not_exists, not_and] at hlisted
    exact decide_eq_true (hlisted r hr)

/-- The number that a truthful world looks up for a target. -/
def listedId (w : World) (target : Target) : Option Int64 :=
  (firstNamed target.name w.runners).bind (·.id)

/-- A truthful removal takes the recorded number off the list or, without one, the number that is
listed under the name. -/
theorem unregister_truthful {w : World} (hw : w.Truthful) (target : Target) (id : Option Int64) :
    (∀ e, ((unregister target id).run answer w).value ≠ .failed e) ∧
      ((unregister target id).run answer w).state.runners =
        w.runnersWithout (id.or (w.listedId target)) := by
  cases id with
  | some n => exact removeById_truthful hw target.scope n
  | none =>
    unfold unregister
    simp only [Program.bind_eq, Program.run_bind, findRunner_unfailing hw.list, Option.none_or]
    cases hid : (firstNamed target.name w.runners).bind (·.id) with
    | none =>
      refine ⟨fun e h => ?_, ?_⟩
      · cases h
      show w.runners = w.runnersWithout (w.listedId target)
      rw [show w.listedId target = none from hid, runnersWithout_none]
    | some n =>
      rw [show w.listedId target = some n from hid]
      exact removeById_truthful hw target.scope n

end World

/-- **Which runners a deletable decision leaves.** An unconfirmed pod is deletable only after the
number was removed that it records or, if it records none, that the registry lists. -/
theorem ensureUnregistered_runners {w : World} (hw : w.Truthful) (target : Target)
    (timeout retryDelay : Duration) (pod : Pod) (hopen : pod.isMarked Pod.completeKey = false)
    (hdecided : ((ensureUnregistered target timeout retryDelay (some pod)).run
      World.answer w).value = .deletable) :
    ∃ id, recordedId (some pod) = .ok id ∧
      ((ensureUnregistered target timeout retryDelay (some pod)).run World.answer w).state.runners =
        w.runnersWithout (id.or (w.listedId target)) := by
  unfold ensureUnregistered at hdecided ⊢
  have hunmarked : ¬(some pod).any (·.isMarked Pod.completeKey) = true := by simp [hopen]
  rw [if_neg hunmarked] at hdecided ⊢
  cases hid : recordedId (some pod) with
  | error e => simp [hid] at hdecided
  | ok id =>
    refine ⟨id, rfl, ?_⟩
    rw [hid] at hdecided
    simp only [Program.bind_eq, Program.value_bind] at hdecided
    simp only [Program.bind_eq, Program.state_bind]
    obtain ⟨hnofail, hrunners⟩ := World.unregister_truthful hw target id
    rw [← hrunners]
    cases hremoval : ((unregister target id).run World.answer w).value with
    | removed => rfl
    | failed e => exact absurd hremoval (hnofail e)
    | notFound =>
      -- what is left reads the clock only
      refine World.runners_run (Program.Asks.mono (fun c hc => ?_)
        (decideNotFound_asksClock timeout retryDelay (some pod))) _
      subst hc
      trivial

/-! ## The step -/

/-- The start mark leaves the pod with its number and as confirmed as it was, and the registry as it
was. -/
theorem markPod_start {w w' : World} (hq : w.faults.patch = []) {pod : Pod} {calls : List Call}
    {result : Except PodStoreError (Option Pod)}
    (hstored : w.store.find? pod.namespaceName pod.name = some pod)
    (hrun : (markPod Pod.startKey (some pod)).run World.answer w = ⟨result, calls, w'⟩) :
    ∃ p, result = .ok (some p) ∧ recordedId (some p) = recordedId (some pod) ∧
      p.isMarked Pod.completeKey = pod.isMarked Pod.completeKey ∧
      w'.runners = w.runners ∧ w'.faults = w.faults := by
  obtain ⟨answered, rfl, hannotated⟩ := World.markPod_current hstored hrun
  cases hannotated with
  | present h => exact ⟨pod, rfl, rfl, rfl, rfl, rfl⟩
  | refused h e rest hq' => rw [hq] at hq'; cases hq'
  | written h hq' =>
    have hother : ∀ name, Pod.startKey ≠ name →
        (w.store.nextVersion (pod.annotate (.single Pod.startKey (markText w.clock)))).annotation?
          name = pod.annotation? name := by
      intro name hname
      rw [World.annotation?_written, if_neg hname]
    refine ⟨_, rfl, ?_, ?_, rfl, rfl⟩
    · exact recordedId_congr (hother _ (by decide))
    · exact Pod.isMarked_congr (hother _ (by decide))

/-- What the registry lists after a step that found its pod deletable: the two marks leave it as it
was, so that the decision between them says it all. -/
theorem tick_runners {w : World} {target : Target} {timeout retryDelay : Duration} {pod : Pod}
    (hfaults : w.faults = .none)
    (hstored : w.store.find? pod.namespaceName pod.name = some pod)
    (hopen : pod.isMarked Pod.completeKey = false)
    (hdeletable : ((tick target timeout retryDelay (some pod)).run
      World.answer w).value.isDeletable = true) :
    ∃ id, recordedId (some pod) = .ok id ∧
      ((tick target timeout retryDelay (some pod)).run World.answer w).state.runners =
        w.runnersWithout (id.or (w.listedId target)) := by
  have hticked := tick_cases World.answer target timeout retryDelay w (some pod)
  generalize (tick target timeout retryDelay (some pod)).run World.answer w = o at *
  obtain ⟨outcome, calls, w₃⟩ := o
  dsimp only at hdeletable hticked ⊢
  -- No patch is refused, so only a step with both marks in place finds the pod deletable.
  cases hticked with
  | startRefused start =>
    obtain ⟨p, hp, -⟩ := markPod_start (by rw [hfaults]; rfl) hstored start
    cases hp
  | requeued start decided => cases hdeletable
  | failed start decided => cases hdeletable
  | completeRefused start decided complete =>
    rw [TickOutcome.isDeletable_ofPatchError] at hdeletable
    cases hdeletable
  | @deletable pod' pod'' _ _ _ w₁ w₂ _ start decided complete =>
    obtain ⟨p, hp, hid, hmark, hrunners, hfaults'⟩ :=
      markPod_start (by rw [hfaults]; rfl) hstored start
    cases hp
    -- The registry is asked after the start mark, which changes neither its runners nor its
    -- answers.
    have htruthful : w₁.Truthful := by
      constructor
      · rw [hfaults', hfaults]; rfl
      · rw [hfaults', hfaults]; rfl
    have hlast : w₃.runners = w₂.runners := by
      have := World.runners_run (markPod_sparesRunners Pod.completeKey (some p)) w₂
      rwa [complete] at this
    obtain ⟨id, hrecorded, hleft⟩ := ensureUnregistered_runners htruthful target timeout
      retryDelay p (hmark.trans hopen) (by rw [decided])
    rw [decided] at hleft
    refine ⟨id, hid ▸ hrecorded, ?_⟩
    rw [hlast, hleft]
    unfold World.runnersWithout World.listedId
    rw [hrunners]

/-- The runner listed under a name, if no name is listed twice. -/
theorem firstNamed_eq_of_mem {runners : List Runner} (hnames : (runners.map (·.name)).Nodup)
    {r : Runner} (hr : r ∈ runners) : firstNamed r.name runners = some r := by
  unfold firstNamed
  cases hfound : runners.find? fun q => q.name = r.name with
  | none =>
    have := List.find?_eq_none.1 hfound r hr
    simp at this
  | some r' =>
    have hname := List.find?_some hfound
    rw [List.inj_on_of_nodup_map hnames (List.mem_of_find?_eq_some hfound) hr
      (of_decide_eq_true hname)]

/-- **Deletable means unregistered, as far as the pod knows its runner.** In a truthful world whose
runners have different names, a step that finds a stored and unconfirmed pod deletable leaves nobody
listed under the number that the pod records; and it leaves nobody with a number under the name of
the runner exactly if nobody was listed under that name with another number than the recorded one. A
pod that records none has no such other number. -/
theorem deletable_means_unregistered (w : World) (target : Target) (timeout retryDelay : Duration)
    (pod : Pod) (hfaults : w.faults = .none) (hnames : (w.runners.map (·.name)).Nodup)
    (hstored : w.store.find? pod.namespaceName pod.name = some pod)
    (hopen : pod.isMarked Pod.completeKey = false)
    (hdeletable : ((tick target timeout retryDelay (some pod)).run
      World.answer w).value.isDeletable = true) :
    let after := ((tick target timeout retryDelay (some pod)).run World.answer w).state.runners
    (∀ n, recordedId (some pod) = .ok (some n) → ∀ r ∈ after, r.id ≠ some n) ∧
      ((∀ r ∈ after, r.name = target.name → r.id = none) ↔
        ∀ r ∈ w.runners, r.name = target.name →
          ∀ n, recordedId (some pod) = .ok (some n) → r.id = none ∨ r.id = some n) := by
  intro after
  have hafter : ∃ id, recordedId (some pod) = .ok id ∧
      after = w.runnersWithout (id.or (w.listedId target)) :=
    tick_runners hfaults hstored hopen hdeletable
  obtain ⟨id, hid, hafter⟩ := hafter
  rw [hafter]
  have hmem : ∀ r, r ∈ w.runnersWithout (id.or (w.listedId target)) ↔
      r ∈ w.runners ∧ (r.id = none ∨ r.id ≠ id.or (w.listedId target)) := by
    intro r
    unfold World.runnersWithout
    simp [List.mem_filter]
  cases id with
  | none =>
    refine ⟨fun n hn => ?_, fun _ r _ _ n hn => ?_, fun _ r hr hname => ?_⟩
    · rw [hid] at hn; cases hn
    · rw [hid] at hn; cases hn
    · -- the runner of the name is the one that was looked up
      obtain ⟨hr, hnumber⟩ := (hmem r).1 hr
      have hlisted : w.listedId target = r.id := by
        unfold World.listedId
        rw [← hname, firstNamed_eq_of_mem hnames hr, Option.bind_some]
      rcases hnumber with hnone | hother
      · exact hnone
      · exact absurd hlisted.symm hother
  | some n =>
    refine ⟨fun m hm r hr => ?_, fun hfree r hr hname m hm => ?_, fun honly r hr hname => ?_⟩
    · rw [hid] at hm
      cases hm
      rcases ((hmem r).1 hr).2 with hnone | hother
      · rw [hnone]; exact nofun
      · exact hother
    · rw [hid] at hm
      cases hm
      by_cases hnumber : r.id = some n
      · exact Or.inr hnumber
      · exact Or.inl (hfree r ((hmem r).2 ⟨hr, Or.inr hnumber⟩) hname)
    · obtain ⟨hr, hnumber⟩ := (hmem r).1 hr
      rcases honly r hr hname n hid with hnone | hrecorded
      · exact hnone
      · rcases hnumber with hnone | hother
        · exact hnone
        · exact absurd hrecorded hother

/-! ### A runner that registered again

The pod records number 7, but its runner has registered again and is now number 11. Removing number
7 finds nobody, the grace window is over, and the pod is deletable with number 11 still listed. -/

/-- The runner under its new number. -/
def reregisteredRunner : Runner := ⟨some 11, "runner-abc", "linux", .online, false, []⟩

/-- Its pod, which still records the old one. -/
def reregisteredPod : Pod where
  namespaceName := "default"
  name := "runner-abc"
  version := some "1"
  annotations := .ofList [(Pod.runnerIdKey, "7"), (Pod.startKey, "2026-10-18T11:50:00Z")]
  phase := .running
  containers := [⟨"runner", .running⟩]
  conditions := []

/-- Noon of the day on which unregistration began ten minutes ago. -/
def reregisteredWorld : World where
  clock := Instant.epoch.after (.ofSeconds 1792324800)
  runners := [reregisteredRunner]
  store := ⟨1, [reregisteredPod]⟩
  faults := .none

def reregisteredTarget : Target := ⟨.ofOrganization "acme", "runner-abc"⟩

/-- The pod is deletable, and nobody has the number that it records. -/
theorem deletable_means_unregistered_reregistered :
    reregisteredWorld.faults = .none ∧ (reregisteredWorld.runners.map (·.name)).Nodup ∧
      reregisteredWorld.store.find? "default" "runner-abc" = some reregisteredPod ∧
      reregisteredPod.isMarked Pod.completeKey = false ∧
      ((tick reregisteredTarget (.ofSeconds 300) (.ofSeconds 10) (some reregisteredPod)).run
        World.answer reregisteredWorld).value.isDeletable = true ∧
      ∀ r ∈ ((tick reregisteredTarget (.ofSeconds 300) (.ofSeconds 10)
          (some reregisteredPod)).run World.answer reregisteredWorld).state.runners,
        r.id ≠ some 7 := by
  have hfaults : reregisteredWorld.faults = .none := rfl
  have hnames : (reregisteredWorld.runners.map (·.name)).Nodup := by decide
  have hstored : reregisteredWorld.store.find? "default" "runner-abc" = some reregisteredPod := by
    decide
  have hopen : reregisteredPod.isMarked Pod.completeKey = false := by decide
  have hdeletable : ((tick reregisteredTarget (.ofSeconds 300) (.ofSeconds 10)
      (some reregisteredPod)).run World.answer reregisteredWorld).value.isDeletable = true := by
    decide
  have hrecorded : recordedId (some reregisteredPod) = .ok (some 7) := by decide
  exact ⟨hfaults, hnames, hstored, hopen, hdeletable,
    (deletable_means_unregistered reregisteredWorld reregisteredTarget (.ofSeconds 300)
      (.ofSeconds 10) reregisteredPod hfaults hnames hstored hopen hdeletable).1 7 hrecorded⟩

/-- The name is not free: the pod is deletable, and its runner is listed under the new number. -/
theorem deletable_while_reregistered :
    reregisteredWorld.faults = .none ∧ (reregisteredWorld.runners.map (·.name)).Nodup ∧
      (reregisteredWorld.runners.map (·.id)).Nodup ∧
      reregisteredWorld.store.find? "default" "runner-abc" = some reregisteredPod ∧
      reregisteredPod.hasAnnotation Pod.completeKey = false ∧
      ((tick reregisteredTarget (.ofSeconds 300) (.ofSeconds 10) (some reregisteredPod)).run
        World.answer reregisteredWorld).value.isDeletable = true ∧
      ∃ r ∈ ((tick reregisteredTarget (.ofSeconds 300) (.ofSeconds 10)
          (some reregisteredPod)).run World.answer reregisteredWorld).state.runners,
        r.name = reregisteredTarget.name ∧ r.id = some 11 := by
  refine ⟨rfl, by decide, by decide, by decide, by decide, by decide, ?_⟩
  exact ⟨reregisteredRunner, by decide, rfl, rfl⟩

end Quiesce
