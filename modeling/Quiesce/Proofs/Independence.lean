import Quiesce.Proofs.Atomicity
import Quiesce.Proofs.Spending
import Quiesce.Proofs.Unregistered

/-!
# Steps on different pods

Two runners that are stopped at the same time share the registry and the store of pods, and through
both of them each could get in the way of the other: a removal shortens the list in which the other
runner is looked up, and a write takes the version that the other one would have been given. Neither
makes a difference but to the versions, if the two runners have different numbers.

* `Visit.Ran` says everything that a step on a stored pod does in a world without failures, as a
  function of the clock, of the pod and of what is listed of its runner. `Visit.ran` shows it of
  every step, and what else holds of steps here follows from it.
* `Visit.SeesSame` says of two worlds that they agree in all that a step depends on, and
  `Visit.seesSame_after` that a step on another pod changes nothing of it.
* `steps_are_independent` is the main statement.
-/

namespace Quiesce

/-! ## Contents

What is stored of a pod apart from its version, which is another one in every order of writes. -/

/-- The pod without its version. -/
def Pod.content (p : Pod) : Pod :=
  { p with version := none }

/-- The outcome without the version of its pod. -/
def TickOutcome.content : TickOutcome → TickOutcome
  | .deletable pod => .deletable (pod.map Pod.content)
  | .requeue after cause => .requeue after cause
  | .failed e => .failed e

/-- The pod with a mark at that instant, unless it has one. -/
def Pod.withMark (p : Pod) (key : String) (now : Instant) : Pod :=
  if p.hasAnnotation key then p else p.annotate (.single key (markText now))

/-- A marked pod has the content of the pod before, with the mark added if it was not there. -/
theorem Store.Marked.content_eq {s s' : Store} {pod q : Pod} {key : String} {now : Instant}
    (h : s.Marked pod key (markText now) (.ok q) s') :
    q.content = pod.content.withMark key now := by
  unfold Pod.withMark
  cases h with
  | present hhas => exact (if_pos hhas).symm
  | written hlacks hcurrent =>
    rw [if_neg (show ¬pod.content.hasAnnotation key = true from Bool.not_eq_true _ ▸ hlacks)]
    rfl

namespace World

variable {w : World} {target : Target} {pod : Pod}

/-- Without a failure to come for it the stored pod is marked, and nothing else happens. -/
theorem markPod_unfailing (key : String) (hqueue : w.faults.patch = [])
    (hcurrent : w.store.find? pod.namespaceName pod.name = some pod) :
    ∃ q s calls, (markPod key (some pod)).run answer w =
        ⟨.ok (some q), calls, { w with store := s }⟩ ∧
      w.store.Marked pod key (markText w.clock) (.ok q) s ∧
      ∀ scope n, Call.remove scope n ∉ calls := by
  have hspared : ∀ c ∈ ((markPod key (some pod)).run answer w).calls, c.sparesRunners :=
    fun c hc => (markPod_sparesRunners key (some pod)).calls hc
  cases hrun : (markPod key (some pod)).run answer w with
  | mk result calls w' =>
    rw [hrun] at hspared
    have hremovals : ∀ scope n, Call.remove scope n ∉ calls := fun scope n => hspared _
    obtain ⟨answered, rfl, hannotated⟩ := markPod_current hcurrent hrun
    cases hannotated with
    | present hhas => exact ⟨pod, w.store, calls, rfl, .present hhas, hremovals⟩
    | refused hlacks e rest hq =>
      rw [hqueue] at hq
      cases hq
    | written hlacks hq => exact ⟨_, _, calls, rfl, .written hlacks hcurrent, hremovals⟩

/-! ## The removal -/

/-- The number that the runner of a pod goes by: the recorded one or, if none is recorded, the one
that is listed under its name. A text that is no number stands for none. -/
def numberOf (w : World) (target : Target) (pod : Pod) : Option Int64 :=
  match recordedId (some pod) with
  | .ok id => id.or (w.listedId target)
  | .error _ => none

/-- Whether a runner is listed under that number. -/
def lists (w : World) (id : Option Int64) : Bool :=
  id.any fun n => w.runners.any (·.id = some n)

/-- Without failures a removal by number removes the runner if it is listed. -/
theorem removeById_listed (hw : w.Truthful) (scope : Scope) (n : Int64) :
    (removeById scope n).run answer w =
      ⟨if w.lists (some n) then .removed else .notFound, [.remove scope n],
        { w with runners := w.runnersWithout (some n) }⟩ := by
  have hrunners := (removeById_truthful hw scope n).2
  show Outcome.mk (Removal.ofAnswer (w.remove n).1) [.remove scope n] (w.remove n).2 = _
  change (w.remove n).2.runners = _ at hrunners
  unfold World.remove at hrunners ⊢
  rw [hw.remove] at hrunners ⊢
  dsimp only at hrunners ⊢
  by_cases hlisted : w.runners.any (·.id = some n) = true
  · rw [if_pos hlisted] at hrunners ⊢
    rw [if_pos (show w.lists (some n) = true from hlisted), ← hrunners]
    rfl
  · rw [if_neg hlisted] at hrunners ⊢
    rw [if_neg (show ¬w.lists (some n) = true from hlisted), ← hrunners]
    rfl

/-- A truthful removal finds the runner exactly if its number is listed, and removes no other. -/
theorem unregister_listed (hw : w.Truthful) (target : Target) (id : Option Int64) :
    ∃ calls, (unregister target id).run answer w =
        ⟨if w.lists (id.or (w.listedId target)) then .removed else .notFound, calls,
          { w with runners := w.runnersWithout (id.or (w.listedId target)) }⟩ ∧
      ∀ scope n, Call.remove scope n ∈ calls → id.or (w.listedId target) = some n := by
  cases id with
  | some m =>
    refine ⟨_, removeById_listed hw target.scope m, fun scope n hcall => ?_⟩
    cases List.mem_singleton.1 hcall
    rfl
  | none =>
    unfold unregister
    simp only [Program.bind_eq, Program.run_bind, findRunner_unfailing hw.list, Option.none_or]
    cases hid : w.listedId target with
    | none =>
      have hnone : (firstNamed target.name w.runners).bind (·.id) = none := hid
      rw [hnone, runnersWithout_none]
      refine ⟨_, rfl, fun scope n hcall => ?_⟩
      cases List.mem_singleton.1 hcall
    | some m =>
      have hsome : (firstNamed target.name w.runners).bind (·.id) = some m := hid
      rw [hsome]
      dsimp only
      rw [removeById_listed hw target.scope m]
      refine ⟨_, rfl, fun scope n hcall => ?_⟩
      rcases List.mem_cons.1 hcall with hcall | hcall
      · cases hcall
      · cases List.mem_singleton.1 hcall
        rfl

end World

/-! ## The decision -/

/-- What is decided on a pod at an instant, `listed` telling whether its runner is. -/
def decided (timeout retryDelay : Duration) (now : Instant) (listed : Bool) (pod : Pod) :
    Decision :=
  if pod.isMarked Pod.completeKey then .deletable
  else
    match recordedId (some pod) with
    | .error e => .failed e
    | .ok _ =>
      if listed then .deletable
      else ((decideNotFound timeout retryDelay (some pod)).run World.answer
        (.initial now [] [])).value

/-- A decision does not look at the version. -/
theorem decided_content (timeout retryDelay : Duration) (now : Instant) (listed : Bool)
    (pod : Pod) :
    decided timeout retryDelay now listed pod.content =
      decided timeout retryDelay now listed pod := rfl

/-- The number that a decision on the pod takes off the list. -/
def World.removedNumber (w : World) (target : Target) (pod : Pod) : Option Int64 :=
  if pod.isMarked Pod.completeKey then none else w.numberOf target pod

/-- A program that only reads the clock changes nothing. -/
theorem Program.Asks.state_eq {α : Type} {p : Program α} (hp : p.Asks (· = .now)) (w : World) :
    (p.run World.answer w).state = w := by
  refine hp.keeps (P := (· = w)) (fun c w' hc hw' => ?_) rfl
  subst hc
  exact hw'

/-- **What a decision does in a truthful world.** -/
theorem ensureUnregistered_decided {w : World} (hw : w.Truthful) (target : Target)
    (timeout retryDelay : Duration) (pod : Pod) :
    ∃ calls, (ensureUnregistered target timeout retryDelay (some pod)).run World.answer w =
        ⟨decided timeout retryDelay w.clock (w.lists (w.numberOf target pod)) pod, calls,
          { w with runners := w.runnersWithout (w.removedNumber target pod) }⟩ ∧
      ∀ scope n, Call.remove scope n ∈ calls → w.numberOf target pod = some n := by
  unfold World.removedNumber decided
  by_cases hcomplete : pod.isMarked Pod.completeKey = true
  · rw [if_pos hcomplete, if_pos hcomplete, World.runnersWithout_none]
    refine ⟨[], ensureUnregistered_confirmed World.answer w target timeout retryDelay hcomplete, ?_⟩
    exact fun _ _ hcall => nomatch hcall
  rw [if_neg hcomplete, if_neg hcomplete]
  unfold World.numberOf
  cases hid : recordedId (some pod) with
  | error e =>
    rw [World.runnersWithout_none]
    refine ⟨[], ?_, fun _ _ hcall => nomatch hcall⟩
    rw [ensureUnregistered_of_malformed target timeout retryDelay
      (Bool.not_eq_true _ ▸ hcomplete) hid]
    rfl
  | ok id =>
    obtain ⟨calls, hrun, hcalls⟩ := World.unregister_listed hw target id
    rw [ensureUnregistered_open target timeout retryDelay (Bool.not_eq_true _ ▸ hcomplete) hid,
      Program.run_bind, hrun]
    dsimp only
    by_cases hlisted : w.lists (id.or (w.listedId target)) = true
    · rw [if_pos hlisted, if_pos hlisted]
      refine ⟨calls ++ [], rfl, fun scope n hcall => hcalls scope n ?_⟩
      rwa [List.append_nil] at hcall
    · rw [if_neg hlisted, if_neg hlisted]
      -- what is left reads the clock only
      have hasks := decideNotFound_asksClock timeout retryDelay (some pod)
      let w' : World := { w with runners := w.runnersWithout (id.or (w.listedId target)) }
      have hvalue : ((decideNotFound timeout retryDelay (some pod)).run World.answer w').value =
          ((decideNotFound timeout retryDelay (some pod)).run World.answer
            (.initial w.clock [] [])).value := hasks.value_eq rfl
      refine ⟨calls ++ ((decideNotFound timeout retryDelay (some pod)).run World.answer w').calls,
        ?_, fun scope n hcall => ?_⟩
      · show Outcome.mk ((decideNotFound timeout retryDelay (some pod)).run World.answer w').value _
          ((decideNotFound timeout retryDelay (some pod)).run World.answer w').state = _
        rw [hvalue, hasks.state_eq]
        rfl
      · rcases List.mem_append.1 hcall with hcall | hcall
        · exact hcalls scope n hcall
        · cases hasks.calls hcall

/-! ## The step -/

/-- A step that is made on a pod as it is stored. -/
structure Visit where
  target : Target
  timeout : Duration
  retryDelay : Duration
  pod : Pod

namespace Visit

/-- The run of the step in a world. -/
def run (v : Visit) (w : World) : Outcome World TickOutcome :=
  (tick v.target v.timeout v.retryDelay (some v.pod)).run World.answer w

/-- The world after the step. -/
def after (v : Visit) (w : World) : World :=
  (v.run w).state

/-- The pod is stored as it is. -/
def Current (v : Visit) (w : World) : Prop :=
  w.store.find? v.pod.namespaceName v.pod.name = some v.pod

/-- The number that the runner goes by. -/
def number (v : Visit) (w : World) : Option Int64 :=
  w.numberOf v.target v.pod

/-- The pod with its start mark. -/
def started (v : Visit) (now : Instant) : Pod :=
  v.pod.content.withMark Pod.startKey now

/-- What is decided on it. -/
def decision (v : Visit) (now : Instant) (listed : Bool) : Decision :=
  decided v.timeout v.retryDelay now listed (v.started now)

/-- The pod that the step leaves stored. -/
def left (v : Visit) (now : Instant) (listed : Bool) : Pod :=
  if v.decision now listed = .deletable then (v.started now).withMark Pod.completeKey now
  else v.started now

/-- The outcome of the step. -/
def outcome (v : Visit) (now : Instant) (listed : Bool) : TickOutcome :=
  match v.decision now listed with
  | .deletable => .deletable (some (v.left now listed))
  | .requeue after cause => .requeue after cause
  | .failed e => .failed e

/-- What a step on a stored pod does without failures, all of it. -/
structure Ran (v : Visit) (w : World) (o : Outcome World TickOutcome) : Prop where
  outcome : o.value.content = v.outcome w.clock (w.lists (v.number w))
  clock : o.state.clock = w.clock
  faults : o.state.faults = w.faults
  runners : o.state.runners = w.runnersWithout (w.removedNumber v.target v.pod)
  stored : (o.state.store.find? v.pod.namespaceName v.pod.name).map Pod.content =
    some (v.left w.clock (w.lists (v.number w)))
  others : ∀ ns name, ¬(ns = v.pod.namespaceName ∧ name = v.pod.name) →
    o.state.store.find? ns name = w.store.find? ns name
  removals : ∀ scope n, Call.remove scope n ∈ o.calls → v.number w = some n

/-- The first two parts of a step: the start mark and, on the pod that it leaves, the decision. -/
structure Halfway (v : Visit) (w : World) (p : Pod) (s : Store) (calls calls' : List Call) :
    Prop where
  start : (markPod Pod.startKey (some v.pod)).run World.answer w =
    ⟨.ok (some p), calls, { w with store := s }⟩
  content : p.content = v.started w.clock
  namespaceName : p.namespaceName = v.pod.namespaceName
  name : p.name = v.pod.name
  stored : s.find? v.pod.namespaceName v.pod.name = some p
  others : ∀ ns name, ¬(ns = v.pod.namespaceName ∧ name = v.pod.name) →
    s.find? ns name = w.store.find? ns name
  decides : (ensureUnregistered v.target v.timeout v.retryDelay (some p)).run World.answer
      { w with store := s } =
    ⟨v.decision w.clock (w.lists (v.number w)), calls',
      { w with store := s, runners := w.runnersWithout (w.removedNumber v.target v.pod) }⟩
  removals : ∀ scope n, Call.remove scope n ∈ calls ++ calls' → v.number w = some n

section Parts

variable {v : Visit} {w : World}

/-- The start mark leaves the pod with its number and as confirmed as it was, and the decision does
not look at its version. -/
theorem exists_halfway (hfaults : w.faults = .none) (hcurrent : v.Current w) :
    ∃ p s calls calls', v.Halfway w p s calls calls' := by
  obtain ⟨p, s, calls, hstart, hmarked, hspared⟩ :=
    World.markPod_unfailing Pod.startKey (show w.faults.patch = [] by rw [hfaults]; rfl) hcurrent
  let w₁ : World := { w with store := s }
  have htruthful : w₁.Truthful := by
    constructor
    · show w.faults.list = []
      rw [hfaults]
      rfl
    · show w.faults.remove = []
      rw [hfaults]
      rfl
  obtain ⟨-, hns, hname⟩ := hmarked.copies (Store.copies_of_stored hcurrent)
  have hstarted : p.content = v.started w.clock := hmarked.content_eq
  -- The start mark changes neither the recorded number nor what the registry lists.
  have hnumber : w₁.numberOf v.target p = v.number w := by
    show w₁.numberOf v.target p = w.numberOf v.target v.pod
    unfold World.numberOf
    rw [recordedId_congr (hmarked.annotation?_other (by decide))]
    rfl
  have hremoved : w₁.removedNumber v.target p = w.removedNumber v.target v.pod := by
    unfold World.removedNumber
    rw [Pod.isMarked_congr (hmarked.annotation?_other (by decide)), hnumber]
    rfl
  obtain ⟨calls', hdecides, hremovals⟩ :=
    ensureUnregistered_decided htruthful v.target v.timeout v.retryDelay p
  rw [hnumber, hremoved, ← decided_content, hstarted] at hdecides
  rw [hnumber] at hremovals
  refine ⟨p, s, calls, calls', hstart, hstarted, hns, hname, (hmarked.current hcurrent).1,
    fun ns name => hmarked.find?_other, hdecides, fun scope n hcall => ?_⟩
  rcases List.mem_append.1 hcall with hcall | hcall
  · exact absurd hcall (hspared scope n)
  · exact hremovals scope n hcall

variable {p : Pod} {s : Store} {calls calls' : List Call}

/-- Without a decision to delete, the start mark is all that is written. -/
theorem Halfway.ran_open (h : v.Halfway w p s calls calls')
    (hopen : v.decision w.clock (w.lists (v.number w)) ≠ .deletable) {outcome : TickOutcome}
    (houtcome : outcome.content = v.outcome w.clock (w.lists (v.number w)))
    (hrun : v.run w = ⟨outcome, calls ++ calls',
      { w with store := s, runners := w.runnersWithout (w.removedNumber v.target v.pod) }⟩) :
    v.Ran w (v.run w) := by
  rw [hrun]
  refine ⟨houtcome, rfl, rfl, rfl, ?_, h.others, h.removals⟩
  show (s.find? v.pod.namespaceName v.pod.name).map Pod.content = _
  rw [h.stored, Option.map_some, h.content]
  unfold left
  rw [if_neg hopen]

/-- With a decision to delete, the complete mark is written after the start mark. -/
theorem Halfway.ran_deletable (h : v.Halfway w p s calls calls') (hfaults : w.faults = .none)
    (hdecision : v.decision w.clock (w.lists (v.number w)) = .deletable) :
    v.Ran w (v.run w) := by
  have hdecides := h.decides
  rw [hdecision] at hdecides
  let w₂ : World :=
    { w with store := s, runners := w.runnersWithout (w.removedNumber v.target v.pod) }
  have hcurrent : w₂.store.find? p.namespaceName p.name = some p := by
    rw [h.namespaceName, h.name]
    exact h.stored
  obtain ⟨q, s', calls'', hcomplete, hmarked, hspared⟩ :=
    World.markPod_unfailing Pod.completeKey (show w₂.faults.patch = [] by
      show w.faults.patch = []
      rw [hfaults]
      rfl) hcurrent
  have hrun : v.run w = ⟨.deletable (some q), calls ++ (calls' ++ calls''),
      { w₂ with store := s' }⟩ := tick_completes h.start hdecides hcomplete
  -- The complete mark is the one thing that the pod has gained since the decision.
  have hleft : q.content = v.left w.clock (w.lists (v.number w)) := by
    unfold left
    rw [if_pos hdecision, hmarked.content_eq, h.content]
  rw [hrun]
  refine ⟨?_, rfl, rfl, rfl, ?_, fun ns name hother => ?_, fun scope n hcall => ?_⟩
  · unfold outcome
    show TickOutcome.deletable (some q.content) = _
    rw [hdecision, hleft]
  · have hstored := (hmarked.current hcurrent).1
    rw [h.namespaceName, h.name] at hstored
    show (s'.find? v.pod.namespaceName v.pod.name).map Pod.content = _
    rw [hstored, Option.map_some, hleft]
  · have hother' : ¬(ns = p.namespaceName ∧ name = p.name) := by
      rw [h.namespaceName, h.name]
      exact hother
    exact (hmarked.find?_other hother').trans (h.others ns name hother)
  · -- a removal is among the calls of the decision, for the second mark makes none
    rw [← List.append_assoc] at hcall
    rcases List.mem_append.1 hcall with hcall | hcall
    · exact h.removals scope n hcall
    · exact absurd hcall (hspared scope n)

/-- **What a step does**, from what its parts do. -/
theorem ran (hfaults : w.faults = .none) (hcurrent : v.Current w) : v.Ran w (v.run w) := by
  obtain ⟨p, s, calls, calls', h⟩ := exists_halfway hfaults hcurrent
  have hdecides := h.decides
  cases hdecision : v.decision w.clock (w.lists (v.number w)) with
  | requeue after cause =>
    rw [hdecision] at hdecides
    refine h.ran_open (by rw [hdecision]; exact nofun) ?_ (tick_waits h.start hdecides)
    unfold outcome
    rw [hdecision]
    rfl
  | failed e =>
    rw [hdecision] at hdecides
    refine h.ran_open (by rw [hdecision]; exact nofun) ?_ (tick_fails h.start hdecides)
    unfold outcome
    rw [hdecision]
    rfl
  | deletable => exact h.ran_deletable hfaults hdecision

end Parts

/-! ## Two steps -/

end Visit

namespace World

variable {w w' : World} {own : Option Int64} {target : Target} {pod : Pod}

theorem find?_filter_of_found {α : Type} {keep found : α → Bool} {items : List α}
    (h : ∀ a, items.find? found = some a → keep a = true) :
    (items.filter keep).find? found = items.find? found := by
  induction items with
  | nil => rfl
  | cons a items ih =>
    by_cases hfound : found a = true
    · rw [List.find?_cons_of_pos hfound] at h ⊢
      rw [List.filter_cons_of_pos (h a rfl), List.find?_cons_of_pos hfound]
    · rw [List.find?_cons_of_neg hfound] at h ⊢
      by_cases hkeep : keep a = true
      · rw [List.filter_cons_of_pos hkeep, List.find?_cons_of_neg hfound, ih h]
      · rw [List.filter_cons_of_neg hkeep, ih h]

/-- A runner that goes by another number than the one that is taken off the list is found by the
number that it has been found by. -/
theorem numberOf_without (hleft : w'.runners = w.runnersWithout own)
    (hother : ∀ n, own = some n → w.numberOf target pod ≠ some n) :
    w'.numberOf target pod = w.numberOf target pod := by
  unfold numberOf at hother ⊢
  cases hid : recordedId (some pod) with
  | error e => rfl
  | ok id =>
    rw [hid] at hother
    cases id with
    | some n => rfl
    | none =>
      show w'.listedId target = w.listedId target
      unfold listedId firstNamed
      rw [hleft]
      unfold runnersWithout
      rw [find?_filter_of_found]
      intro r hr
      have hlisted : w.listedId target = r.id := by
        unfold listedId firstNamed
        rw [hr]
        rfl
      cases hnumber : r.id with
      | none => rfl
      | some n =>
        have hne : own ≠ some n := fun hown => hother n hown (hlisted.trans hnumber)
        simp [hne.symm]

/-- Removing one number leaves every other number listed. -/
theorem lists_without {id : Option Int64} (hleft : w'.runners = w.runnersWithout own)
    (hother : ∀ n, own = some n → id ≠ some n) : w'.lists id = w.lists id := by
  cases id with
  | none => rfl
  | some n =>
    have hne : own ≠ some n := fun hown => hother n hown rfl
    show w'.runners.any (·.id = some n) = w.runners.any (·.id = some n)
    rw [hleft]
    unfold runnersWithout
    rw [List.any_filter]
    congr 1
    funext r
    by_cases hr : r.id = some n
    · simp [hr, hne.symm]
    · simp [hr]

end World

namespace Visit

variable {a b v : Visit} {w : World}

/-- What a step takes off the list is the number of its runner, or nothing. -/
theorem removedNumber_cases (v : Visit) (w : World) :
    w.removedNumber v.target v.pod = none ∨ w.removedNumber v.target v.pod = v.number w := by
  unfold World.removedNumber
  by_cases hconfirmed : v.pod.isMarked Pod.completeKey = true
  · rw [if_pos hconfirmed]
    exact Or.inl rfl
  · rw [if_neg hconfirmed]
    exact Or.inr rfl

/-- The runners of the two pods go by different numbers, or one of them by none. -/
def Apart (a b : Visit) (w : World) : Prop :=
  ∀ n, a.number w = some n → b.number w ≠ some n

theorem Apart.symm (h : a.Apart b w) : b.Apart a w :=
  fun n hb ha => h n ha hb

/-- The pods have different names. -/
def OnOtherPod (a b : Visit) : Prop :=
  ¬(a.pod.namespaceName = b.pod.namespaceName ∧ a.pod.name = b.pod.name)

/-- That part of a world on which a step depends is the same in another world. -/
structure SeesSame (v : Visit) (w w' : World) : Prop where
  clock : w'.clock = w.clock
  faults : w'.faults = w.faults
  current : v.Current w → v.Current w'
  number : v.number w' = v.number w
  listed : w'.lists (v.number w) = w.lists (v.number w)

/-- **A step on another pod makes no difference to a step.** -/
theorem seesSame_after (hran : a.Ran w (a.run w)) (hpods : a.OnOtherPod b) (hids : a.Apart b w) :
    b.SeesSame w (a.after w) := by
  have hother : ∀ n, w.removedNumber a.target a.pod = some n → b.number w ≠ some n := by
    intro n hn
    rcases removedNumber_cases a w with hnone | hown
    · rw [hnone] at hn
      cases hn
    · exact hids n (hown ▸ hn)
  refine ⟨hran.clock, hran.faults, fun hcurrent => ?_, World.numberOf_without hran.runners hother,
    World.lists_without hran.runners hother⟩
  refine (hran.others _ _ fun hsame => hpods ?_).trans hcurrent
  exact ⟨hsame.1.symm, hsame.2.symm⟩

/-- A step changes the outcome of another one in nothing but the version of its pod. -/
theorem SeesSame.outcome {w' : World} (h : v.SeesSame w w') (hran : v.Ran w (v.run w))
    (hran' : v.Ran w' (v.run w')) : (v.run w').value.content = (v.run w).value.content := by
  rw [hran.outcome, hran'.outcome, h.clock, h.number, h.listed]

/-- It leaves the same pod stored. -/
theorem SeesSame.stored {w' : World} (h : v.SeesSame w w') (hran : v.Ran w (v.run w))
    (hran' : v.Ran w' (v.run w')) :
    ((v.after w').store.find? v.pod.namespaceName v.pod.name).map Pod.content =
      ((v.after w).store.find? v.pod.namespaceName v.pod.name).map Pod.content := by
  refine hran'.stored.trans ?_
  rw [h.clock, h.number, h.listed]
  exact hran.stored.symm

/-- A visit that sees the same removes the same number. -/
theorem SeesSame.removedNumber {w' : World} (h : v.SeesSame w w') :
    w'.removedNumber v.target v.pod = w.removedNumber v.target v.pod := by
  have hnumber : w'.numberOf v.target v.pod = w.numberOf v.target v.pod := h.number
  unfold World.removedNumber
  rw [hnumber]

/-- A step leaves the pod of another one alone, and takes nobody off the list but under its own
number. -/
structure Spares (v : Visit) (w : World) (own : Option Int64) (other : Visit) : Prop where
  pod : (v.after w).store.find? other.pod.namespaceName other.pod.name =
    w.store.find? other.pod.namespaceName other.pod.name
  runners : (v.after w).runners = w.runners ∨ (v.after w).runners = w.runnersWithout own
  removals : ∀ scope n, Call.remove scope n ∈ (v.run w).calls → own = some n

/-- A visit leaves other pods alone and removes no number but its own. -/
theorem Ran.spares {other : Visit} (h : v.Ran w (v.run w)) (hpods : other.OnOtherPod v) :
    v.Spares w (v.number w) other := by
  refine ⟨h.others _ _ hpods, ?_, h.removals⟩
  rcases removedNumber_cases v w with hnone | hown
  · refine Or.inl (h.runners.trans ?_)
    rw [hnone, World.runnersWithout_none]
  · refine Or.inr (h.runners.trans ?_)
    rw [hown]

/-- Two steps that may be made in either order. -/
structure Independent (a b : Visit) (w : World) : Prop where
  firstOutcome : (a.run (b.after w)).value.content = (a.run w).value.content
  secondOutcome : (b.run (a.after w)).value.content = (b.run w).value.content
  runners : (b.after (a.after w)).runners = (a.after (b.after w)).runners
  pods : ∀ ns name, ((b.after (a.after w)).store.find? ns name).map Pod.content =
    ((a.after (b.after w)).store.find? ns name).map Pod.content
  /-- Each step spares the other, whether it is made before it or after it. -/
  firstSpares : a.Spares w (a.number w) b ∧ a.Spares (b.after w) (a.number w) b
  secondSpares : b.Spares w (b.number w) a ∧ b.Spares (a.after w) (b.number w) a

end Visit

open Visit in
/-- **Steps on different pods are independent**, if their runners go by different numbers or one of
them by none: in either order each comes to the same, and so do both together. -/
theorem steps_are_independent {w : World} {a b : Visit} (hfaults : w.faults = .none)
    (hfirst : a.Current w) (hsecond : b.Current w) (hpods : a.OnOtherPod b) (hids : a.Apart b w) :
    a.Independent b w := by
  have hpods' : b.OnOtherPod a := fun hsame => hpods ⟨hsame.1.symm, hsame.2.symm⟩
  -- each step, and what the other one then still sees
  have hran := Visit.ran hfaults hfirst
  have hran' := Visit.ran hfaults hsecond
  have hsees := seesSame_after hran hpods hids
  have hsees' := seesSame_after hran' hpods' hids.symm
  -- each step after the other one
  have hlate := Visit.ran (hsees'.faults.trans hfaults) (hsees'.current hfirst)
  have hlate' := Visit.ran (hsees.faults.trans hfaults) (hsees.current hsecond)
  have hspares := hlate.spares hpods'
  have hspares' := hlate'.spares hpods
  rw [hsees'.number] at hspares
  rw [hsees.number] at hspares'
  refine ⟨hsees'.outcome hran hlate, hsees.outcome hran' hlate', ?_, fun ns name => ?_,
    ⟨hran.spares hpods', hspares⟩, ⟨hran'.spares hpods, hspares'⟩⟩
  · calc (b.after (a.after w)).runners
      _ = (a.after w).runnersWithout (w.removedNumber b.target b.pod) :=
          hsees.removedNumber ▸ hlate'.runners
      _ = (b.after w).runnersWithout (w.removedNumber a.target a.pod) := by
          have hleft : (a.after w).runners = _ := hran.runners
          have hleft' : (b.after w).runners = _ := hran'.runners
          unfold World.runnersWithout at hleft hleft' ⊢
          rw [hleft, hleft', List.filter_filter, List.filter_filter]
          congr 1
          funext r
          exact Bool.and_comm _ _
      _ = (a.after (b.after w)).runners := (hsees'.removedNumber ▸ hlate.runners).symm
  · by_cases hown : ns = a.pod.namespaceName ∧ name = a.pod.name
    · obtain ⟨rfl, rfl⟩ := hown
      have hspared := hlate'.others _ _ hpods
      exact (congrArg _ hspared).trans (hsees'.stored hran hlate).symm
    by_cases hown' : ns = b.pod.namespaceName ∧ name = b.pod.name
    · obtain ⟨rfl, rfl⟩ := hown'
      have hspared := hlate.others _ _ hpods'
      exact (hsees.stored hran' hlate').trans (congrArg _ hspared).symm
    -- nobody touches any other pod
    · have hfirst := (hlate'.others ns name hown').trans (hran.others ns name hown)
      have hsecond := (hlate.others ns name hown).trans (hran'.others ns name hown')
      exact congrArg _ (hfirst.trans hsecond.symm)

/-! ### Namesakes

Two pods of one name in different namespaces. The runner of the one is recorded under number 7; that
of the other is found by its name, among runners that the first step has thinned out. -/

/-- What is to be stopped first. -/
def namesake : Visit where
  target := ⟨.ofOrganization "acme", "runner-abc"⟩
  timeout := .ofSeconds 300
  retryDelay := .ofSeconds 10
  pod := {
    namespaceName := "blue"
    name := "runner"
    version := some "1"
    annotations := .ofList [(Pod.runnerIdKey, "7")]
    phase := .running
    containers := [⟨"runner", .running⟩]
    conditions := [] }

/-- What is to be stopped second. -/
def otherNamesake : Visit where
  target := ⟨.ofOrganization "acme", "runner-xyz"⟩
  timeout := .ofSeconds 300
  retryDelay := .ofSeconds 10
  pod := {
    namespaceName := "green"
    name := "runner"
    version := some "2"
    annotations := .empty
    phase := .running
    containers := [⟨"runner", .running⟩]
    conditions := [] }

def namesakeWorld : World where
  clock := .epoch
  runners := [⟨some 7, "runner-xyz-old", "linux", .online, false, []⟩,
    ⟨some 11, "runner-xyz", "linux", .online, false, []⟩]
  store := ⟨2, [namesake.pod, otherNamesake.pod]⟩
  faults := .none

/-- Two pods of one name in two namespaces, the second of them for the namesake of a runner that is
gone. -/
theorem steps_of_namesakes_are_independent :
    namesakeWorld.faults = .none ∧ namesake.Current namesakeWorld ∧
      otherNamesake.Current namesakeWorld ∧ namesake.OnOtherPod otherNamesake ∧
      namesake.number namesakeWorld = some 7 ∧ otherNamesake.number namesakeWorld = some 11 ∧
      namesake.Independent otherNamesake namesakeWorld := by
  have hfirst : namesake.Current namesakeWorld := by rfl
  have hsecond : otherNamesake.Current namesakeWorld := by rfl
  have hpods : namesake.OnOtherPod otherNamesake := by
    rintro ⟨hns, -⟩
    revert hns
    decide
  have hnumber : namesake.number namesakeWorld = some 7 := by decide
  have hnumber' : otherNamesake.number namesakeWorld = some 11 := by decide
  refine ⟨rfl, hfirst, hsecond, hpods, hnumber, hnumber', ?_⟩
  refine steps_are_independent rfl hfirst hsecond hpods fun n hn hn' => ?_
  rw [hnumber] at hn
  rw [hnumber'] at hn'
  cases hn
  cases hn'

end Quiesce
