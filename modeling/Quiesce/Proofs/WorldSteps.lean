import Quiesce.Proofs.Runs
import Quiesce.Stop.Registration
import Quiesce.Stop.Tick
import Quiesce.World.Basic

/-!
# Steps in a simulated world

What the parts of a step do to a simulated world, each in one statement that later proofs cite
instead of running the part again.

* `World.AfterRegistry` is the frame of everything that only asks the registry and the clock, as
  the whole decision does: `World.afterRegistry_run`, `ensureUnregistered_sparesPods`.
* `World.Annotated` lists the three ways in which an annotation of the stored pod can end, and
  `annotateOnce_current` and `mark_current` show that there is no fourth.
-/

namespace Quiesce

/-! ## Failures of the registry -/

/-- A refusal for the state of the runner is one by its status alone. -/
theorem RegistryError.isStillRegistering_iff {e : RegistryError} :
    e.isStillRegistering = true ↔ e.status? = some unprocessable := by
  simp [isStillRegistering]

/-- The failure is a refusal for the state of a runner whose container has terminated. -/
def RefusedForGood (pod : Option Pod) (e : RegistryError) : Prop :=
  e.status? = some RegistryError.unprocessable ∧ (pod.bind (·.exitCode?)).isSome = true

/-- A refusal for good is not a rate limit, which has no status. -/
theorem RefusedForGood.isRateLimited {pod : Option Pod} {e : RegistryError}
    (h : RefusedForGood pod e) : e.isRateLimited = false := by
  cases e with
  | rateLimited text reset => cases h.1
  | _ => rfl

/-- **The three ways to decide a failure.** A rate limit is waited out. A refusal for good lets the
pod go, after a look-up for the record whose answer is dropped. Whatever else has failed is
reported. -/
theorem decideFailure_cases (target : Target) (pod : Option Pod) (e : RegistryError) :
    (e.isRateLimited = true ∧
        decideFailure target pod e = .done (.requeue rateLimitDelay (some (.registry e)))) ∨
      (RefusedForGood pod e ∧
        decideFailure target pod e = .call (.list target.scope) fun _ => .done .deletable) ∨
      (e.isRateLimited = false ∧ ¬RefusedForGood pod e ∧
        decideFailure target pod e = .done (.failed (.registry e))) := by
  unfold decideFailure
  by_cases hlimited : e.isRateLimited = true
  · rw [if_pos hlimited]
    exact Or.inl ⟨hlimited, rfl⟩
  rw [if_neg hlimited]
  have hgood : (e.isStillRegistering && (pod.bind (·.exitCode?)).isSome) = true ↔
      RefusedForGood pod e := by
    rw [Bool.and_eq_true, RegistryError.isStillRegistering_iff]
    exact Iff.rfl
  by_cases hrefused : RefusedForGood pod e
  · rw [if_pos (hgood.2 hrefused)]
    exact Or.inr (Or.inl ⟨hrefused, rfl⟩)
  · rw [if_neg (mt hgood.1 hrefused)]
    exact Or.inr (Or.inr ⟨Bool.eq_false_iff.2 hlimited, hrefused, rfl⟩)

theorem decideFailure_for_good (target : Target) {pod : Option Pod} {e : RegistryError}
    (h : RefusedForGood pod e) :
    decideFailure target pod e = .call (.list target.scope) fun _ => .done .deletable := by
  rcases decideFailure_cases target pod e with ⟨hlimited, -⟩ | ⟨-, hd⟩ | ⟨-, hother, -⟩
  · exact absurd h.isRateLimited (by simp [hlimited])
  · exact hd
  · exact absurd h hother

/-- Any other failure leaves the pod where it is, and asks for nothing. -/
theorem decideFailure_otherwise (target : Target) {pod : Option Pod} {e : RegistryError}
    (h : ¬RefusedForGood pod e) :
    ∃ d, d ≠ .deletable ∧ decideFailure target pod e = .done d := by
  rcases decideFailure_cases target pod e with ⟨-, hd⟩ | ⟨hgood, -⟩ | ⟨-, -, hd⟩
  · exact ⟨.requeue rateLimitDelay (some (.registry e)), nofun, hd⟩
  · exact absurd hgood h
  · exact ⟨.failed (.registry e), nofun, hd⟩

/-! ## Asking the registry

A look-up and a removal call the registry about the scope of the target, and nothing else. -/

section Registry

variable {allowed : Call → Prop} {target : Target}

theorem findRunner_asks (hlist : allowed (.list target.scope)) :
    (findRunner target).Asks allowed :=
  ⟨hlist, fun _ => trivial⟩

theorem removeById_asks {scope : Scope} (hremove : ∀ id, allowed (.remove scope id)) (id : Int64) :
    (removeById scope id).Asks allowed :=
  ⟨hremove id, fun _ => trivial⟩

/-- A removal asks for a listing and for the removal of a number, both in the scope of the target.
-/
theorem unregister_asks (hlist : allowed (.list target.scope))
    (hremove : ∀ id, allowed (.remove target.scope id)) (id : Option Int64) :
    (unregister target id).Asks allowed := by
  cases id with
  | some id => exact removeById_asks hremove id
  | none =>
    refine (findRunner_asks hlist).bind fun answer => ?_
    cases answer with
    | error e => trivial
    | ok found =>
      dsimp only
      cases found.bind (·.id) with
      | none => trivial
      | some id => exact removeById_asks hremove id

/-- Deciding a failure asks for a listing at most. -/
theorem decideFailure_asks (hlist : allowed (.list target.scope)) (pod : Option Pod)
    (e : RegistryError) : (decideFailure target pod e).Asks allowed := by
  rcases decideFailure_cases target pod e with ⟨-, hd⟩ | ⟨-, hd⟩ | ⟨-, -, hd⟩
  · rw [hd]
    trivial
  · rw [hd]
    exact ⟨hlist, fun _ => trivial⟩
  · rw [hd]
    trivial

end Registry

theorem findRunner_asksRegistry (target : Target) :
    (findRunner target).Asks (·.isRegistry = true) :=
  findRunner_asks rfl

theorem unregister_asksRegistry (target : Target) (id : Option Int64) :
    (unregister target id).Asks (·.isRegistry = true) :=
  unregister_asks (by rfl) (fun _ => by rfl) id

theorem decideFailure_asksRegistry (target : Target) (pod : Option Pod) (e : RegistryError) :
    (decideFailure target pod e).Asks (·.isRegistry = true) :=
  decideFailure_asks (by rfl) pod e

/-! ## Deciding without the registry

A runner that is not found is decided by the marks on its pod, and by the clock if there is a start
mark that can be read. -/

/-- A start mark that can be read leaves the decision to one reading of the clock. -/
theorem decideByStart_eq (timeout retryDelay : Duration) {text : String} {start : Instant}
    (hread : Timestamp.read text = .ok start) :
    decideByStart timeout retryDelay text = .call .now fun now =>
      .done (if now.elapsed start < timeout then .requeue retryDelay none else .deletable) := by
  unfold decideByStart
  rw [hread]
  refine congrArg (Program.call .now) (funext fun now => ?_)
  exact (apply_ite Program.done _ _ _).symm

/-- A start mark that cannot be read is reported with its text. -/
theorem decideByStart_unread (timeout retryDelay : Duration) {text : String}
    {reason : Timestamp.ReadError} (hread : Timestamp.read text = .error reason) :
    decideByStart timeout retryDelay text =
      .done (.failed (.invalidTimestamp Pod.startKey text reason)) := by
  unfold decideByStart
  rw [hread]
  rfl

/-- A pod that has stopped may go, whatever its marks say. -/
theorem decideNotFound_stopped (timeout retryDelay : Duration) {p : Pod}
    (hstopped : p.isStopped = true) :
    decideNotFound timeout retryDelay (some p) = .done .deletable := by
  unfold decideNotFound
  dsimp only
  rw [if_pos hstopped]
  rfl

/-- Without a start mark there is nothing to count from, so the pod is looked at again. -/
theorem decideNotFound_unmarked (timeout retryDelay : Duration) {p : Pod}
    (hlive : p.isStopped = false) (hmark : p.mark? Pod.startKey = none) :
    decideNotFound timeout retryDelay (some p) = .done (.requeue retryDelay none) := by
  unfold decideNotFound
  dsimp only
  rw [hlive, if_neg (by decide), hmark]
  rfl

theorem decideNotFound_marked (timeout retryDelay : Duration) {p : Pod} {text : String}
    (hlive : p.isStopped = false) (hmark : p.mark? Pod.startKey = some text) :
    decideNotFound timeout retryDelay (some p) = decideByStart timeout retryDelay text := by
  unfold decideNotFound
  dsimp only
  rw [hlive, if_neg (by decide), hmark]

/-- Either there is nothing to ask, and no cause to wait, or the clock decides. -/
theorem decideNotFound_cases (timeout retryDelay : Duration) (pod : Option Pod) :
    (∃ d, decideNotFound timeout retryDelay pod = .done d ∧
      ∀ after cause, d ≠ .requeue after (some cause)) ∨
    ∃ p text start, pod = some p ∧ p.mark? Pod.startKey = some text ∧
      Timestamp.read text = .ok start ∧
      decideNotFound timeout retryDelay pod = decideByStart timeout retryDelay text := by
  cases pod with
  | none => exact Or.inl ⟨.deletable, rfl, by simp⟩
  | some p =>
    cases hstopped : p.isStopped with
    | true => exact Or.inl ⟨_, decideNotFound_stopped timeout retryDelay hstopped, by simp⟩
    | false =>
      cases htext : p.mark? Pod.startKey with
      | none =>
        exact Or.inl ⟨_, decideNotFound_unmarked timeout retryDelay hstopped htext, by simp⟩
      | some text =>
        have hprogram := decideNotFound_marked timeout retryDelay hstopped htext
        cases hread : Timestamp.read text with
        | ok start => exact Or.inr ⟨p, text, start, rfl, htext, hread, hprogram⟩
        | error reason =>
          rw [decideByStart_unread timeout retryDelay hread] at hprogram
          exact Or.inl ⟨_, hprogram, by simp⟩

theorem decideByStart_asksClock (timeout retryDelay : Duration) (started : String) :
    (decideByStart timeout retryDelay started).Asks (· = .now) := by
  cases hread : Timestamp.read started with
  | error reason =>
    rw [decideByStart_unread timeout retryDelay hread]
    trivial
  | ok start =>
    rw [decideByStart_eq timeout retryDelay hread]
    exact ⟨rfl, fun now => trivial⟩

/-- Deciding about a runner that is not known asks for the time at most. -/
theorem decideNotFound_asksClock (timeout retryDelay : Duration) (pod : Option Pod) :
    (decideNotFound timeout retryDelay pod).Asks (· = .now) := by
  rcases decideNotFound_cases timeout retryDelay pod with
    ⟨d, hprogram, -⟩ | ⟨p, text, start, -, -, -, hprogram⟩
  · rw [hprogram]
    trivial
  · rw [hprogram]
    exact decideByStart_asksClock timeout retryDelay text

/-- The decision asks for listings and removals in the scope of the target, and for the time. -/
theorem ensureUnregistered_asks {allowed : Call → Prop} {target : Target}
    (hlist : allowed (.list target.scope)) (hremove : ∀ id, allowed (.remove target.scope id))
    (hnow : allowed .now) (timeout retryDelay : Duration) (pod : Option Pod) :
    (ensureUnregistered target timeout retryDelay pod).Asks allowed := by
  unfold ensureUnregistered
  by_cases hconfirmed : pod.any (·.isMarked Pod.completeKey) = true
  · rw [if_pos hconfirmed]
    trivial
  rw [if_neg hconfirmed]
  cases recordedId pod with
  | error e => trivial
  | ok id =>
    refine (unregister_asks hlist hremove id).bind fun removal => ?_
    cases removal with
    | removed => trivial
    | notFound =>
      refine (decideNotFound_asksClock timeout retryDelay pod).mono fun c hc => ?_
      subst hc
      exact hnow
    | failed e => exact decideFailure_asks hlist pod e

/-! ## Sparing the pods

Neither the registry nor the clock has anything to do with pods, so whatever only asks them leaves
the store alone, and all it can take from the queues are entries for listings and removals. -/

/-- Calls to the registry and to the clock. -/
def Call.sparesPods : Call → Prop
  | .list _ => True
  | .remove _ _ => True
  | .now => True
  | _ => False

theorem Call.sparesPods_of_isRegistry {c : Call} (h : c.isRegistry = true) : c.sparesPods := by
  cases c with
  | list scope => trivial
  | remove scope id => trivial
  | now => trivial
  | get namespaceName name => cases h
  | patch pod more => cases h
  | delete pod => cases h

/-- Calls to the registry alone leave the pods alone. -/
theorem Program.Asks.sparesPods {α : Type} {p : Program α} (hp : p.Asks (·.isRegistry = true)) :
    p.Asks Call.sparesPods :=
  hp.mono fun _ => Call.sparesPods_of_isRegistry

/-- The decision leaves the pods alone. -/
theorem ensureUnregistered_sparesPods (target : Target) (timeout retryDelay : Duration)
    (pod : Option Pod) :
    (ensureUnregistered target timeout retryDelay pod).Asks Call.sparesPods :=
  ensureUnregistered_asks trivial (fun _ => trivial) trivial timeout retryDelay pod

/-! ## What operations ask for

A frame condition has to know of an operation which calls it can make: those that spare the pods,
and the patches that write its marks. -/

section Operations

variable {allowed : Call → Prop}

theorem annotateOnce_asks {pod : Pod} {key value : String}
    (hpatch : allowed (.patch pod (.single key value))) :
    (annotateOnce pod key value).Asks allowed := by
  unfold annotateOnce
  cases pod.hasAnnotation key with
  | true => trivial
  | false => exact ⟨hpatch, fun _ => trivial⟩

/-- Marking a pod asks for the time and for one patch. -/
theorem markPod_asks (hnow : allowed .now)
    (hpatch : ∀ pod key t, allowed (.patch pod (.single key (markText t)))) (key : String)
    (pod : Option Pod) : (markPod key pod).Asks allowed := by
  cases pod with
  | none => trivial
  | some p =>
    refine Program.Asks.bind (p := mark p key) ⟨hnow, fun now => ?_⟩ fun _ => trivial
    exact annotateOnce_asks (hpatch p key now)

/-- A step asks the registry and the clock, and it writes marks. -/
theorem tick_asks {target : Target} (hlist : allowed (.list target.scope))
    (hremove : ∀ id, allowed (.remove target.scope id)) (hnow : allowed .now)
    (hpatch : ∀ pod key t, allowed (.patch pod (.single key (markText t))))
    (timeout retryDelay : Duration) (pod : Option Pod) :
    (tick target timeout retryDelay pod).Asks allowed := by
  have hmark := markPod_asks hnow hpatch
  unfold tick
  refine (hmark Pod.startKey pod).bind fun started => ?_
  cases started with
  | error e => trivial
  | ok pod' =>
    refine (ensureUnregistered_asks hlist hremove hnow timeout retryDelay pod').bind
      fun decision => ?_
    cases decision with
    | requeue after cause => trivial
    | failed e => trivial
    | deletable =>
      refine (hmark Pod.completeKey pod').bind fun completed => ?_
      cases completed with
      | error e => trivial
      | ok pod'' => trivial

/-- Recording a registration asks the registry, and it writes the number of the runner. -/
theorem ensureRegistered_asks {target : Target} (hlist : allowed (.list target.scope))
    (hpatch : ∀ pod id, allowed (.patch pod (.single Pod.runnerIdKey (runnerIdText id))))
    (pod : Pod) : (ensureRegistered target pod).Asks allowed := by
  unfold ensureRegistered
  by_cases hsettled : (pod.isStopped || pod.hasAnnotation Pod.runnerIdKey) = true
  · rw [if_pos hsettled]
    trivial
  · rw [if_neg hsettled]
    refine (findRunner_asks hlist).bind fun found => ?_
    cases found with
    | error e => trivial
    | ok found =>
      dsimp only
      cases found.bind (·.id) with
      | none => trivial
      | some id =>
        refine (annotateOnce_asks (hpatch pod id)).bind fun written => ?_
        cases written with
        | ok q => trivial
        | error e => trivial

end Operations

/-! ## Reading annotations

An annotation that stays the same is read the same way, as what it is, as a mark or as a number. -/

theorem Pod.annotation?_eq_none {p : Pod} {key : String} (h : p.hasAnnotation key = false) :
    p.annotation? key = none :=
  Option.isNone_iff_eq_none.1 (Option.isSome_eq_false_iff.1 h)

theorem Pod.hasAnnotation_of_some {p : Pod} {key text : String}
    (h : p.annotation? key = some text) : p.hasAnnotation key = true :=
  Option.isSome_iff_exists.2 ⟨text, h⟩

theorem Pod.hasAnnotation_congr {p q : Pod} {key : String}
    (h : q.annotation? key = p.annotation? key) : q.hasAnnotation key = p.hasAnnotation key :=
  congrArg Option.isSome h

theorem Pod.isMarked_congr {p q : Pod} {key : String} (h : q.annotation? key = p.annotation? key) :
    q.isMarked key = p.isMarked key := by
  unfold isMarked mark?
  rw [h]

/-- A mark is an annotation that is not empty. -/
theorem Pod.isMarked_iff {p : Pod} {key : String} :
    p.isMarked key = true ↔ ∃ text, p.annotation? key = some text ∧ text ≠ "" := by
  unfold isMarked mark?
  cases htext : p.annotation? key with
  | none => simp
  | some text => simp [Option.filter]

theorem Pod.mark?_eq_some {p : Pod} {key text : String} :
    p.mark? key = some text ↔ p.annotation? key = some text ∧ text ≠ "" := by
  unfold mark?
  rw [Option.filter_eq_some_iff]
  simp

/-- A mark is not empty. -/
theorem markText_ne_empty (t : Instant) : markText t ≠ "" := by
  intro hempty
  have hchars : Timestamp.writeChars t .seconds = [] := by
    have := congrArg String.toList hempty
    rwa [markText, Timestamp.write, String.toList_ofList] at this
  unfold Timestamp.writeChars at hchars
  simp at hchars

/-- An empty annotation is no mark, although it is there. -/
theorem Pod.mark?_empty {p : Pod} {key : String} (h : p.annotation? key = some "") :
    p.mark? key = none := by
  unfold mark?
  rw [h]
  rfl

/-- The number that a pod records depends on one annotation. -/
theorem recordedId_congr {p q : Pod}
    (h : q.annotation? Pod.runnerIdKey = p.annotation? Pod.runnerIdKey) :
    recordedId (some q) = recordedId (some p) := by
  unfold recordedId
  rw [Option.bind_some, Option.bind_some, h]

namespace World

/-- A world after calls to its registry and its clock: time stands still, the pods are as they were,
and no entries are gone but those for listings and removals. -/
structure AfterRegistry (w w' : World) : Prop where
  clock : w'.clock = w.clock
  store : w'.store = w.store
  get : w'.faults.get = w.faults.get
  patch : w'.faults.patch = w.faults.patch
  delete : w'.faults.delete = w.faults.delete
  list : w'.faults.list <:+ w.faults.list
  remove : w'.faults.remove <:+ w.faults.remove

theorem AfterRegistry.refl (w : World) : AfterRegistry w w :=
  ⟨rfl, rfl, rfl, rfl, rfl, List.suffix_rfl, List.suffix_rfl⟩

theorem AfterRegistry.trans {w w' w'' : World} (h : AfterRegistry w w')
    (h' : AfterRegistry w' w'') : AfterRegistry w w'' where
  clock := h'.clock.trans h.clock
  store := h'.store.trans h.store
  get := h'.get.trans h.get
  patch := h'.patch.trans h.patch
  delete := h'.delete.trans h.delete
  list := h'.list.trans h.list
  remove := h'.remove.trans h.remove

/-- A listing changes nothing but its queue of failures. -/
theorem afterRegistry_list (w : World) : AfterRegistry w w.list.2 := by
  unfold World.list
  cases hq : w.faults.list with
  | nil => exact .refl w
  | cons e rest => exact ⟨rfl, rfl, rfl, rfl, rfl, by simp [hq], List.suffix_rfl⟩

/-- A removal changes nothing but the runners and its queue. -/
theorem afterRegistry_remove (w : World) (id : Int64) : AfterRegistry w (w.remove id).2 := by
  unfold World.remove
  cases hq : w.faults.remove with
  | cons result rest => exact ⟨rfl, rfl, rfl, rfl, rfl, List.suffix_rfl, by simp [hq]⟩
  | nil =>
    dsimp only
    by_cases hlisted : w.runners.any (·.id = some id) = true
    · rw [if_pos hlisted]
      exact ⟨rfl, rfl, rfl, rfl, rfl, List.suffix_rfl, List.suffix_rfl⟩
    · rw [if_neg hlisted]
      exact .refl w

/-- Fetching a pod leaves the store as it is. -/
theorem store_get (w : World) (namespaceName name : String) :
    (w.get namespaceName name).2.store = w.store := by
  unfold World.get
  cases w.faults.get with
  | nil => rfl
  | cons e rest => rfl

/-- Annotating a pod has nothing to do with the clock and the registry. -/
theorem patch_frame (w : World) (pod : Pod) (more : Annotations) :
    (w.patch pod more).2.clock = w.clock ∧ (w.patch pod more).2.runners = w.runners ∧
      (w.patch pod more).2.faults.list = w.faults.list ∧
      (w.patch pod more).2.faults.remove = w.faults.remove := by
  unfold World.patch
  cases w.faults.patch with
  | nil => exact ⟨rfl, rfl, rfl, rfl⟩
  | cons e rest => exact ⟨rfl, rfl, rfl, rfl⟩

theorem afterRegistry_answer {c : Call} (hc : c.sparesPods) (w : World) :
    AfterRegistry w (answer c w).2 := by
  cases c with
  | list scope => exact afterRegistry_list w
  | remove scope id => exact afterRegistry_remove w id
  | now => exact .refl w
  | get namespaceName name => exact hc.elim
  | patch pod more => exact hc.elim
  | delete pod => exact hc.elim

/-- **The frame of the registry.** -/
theorem afterRegistry_run {α : Type} {p : Program α} (hp : p.Asks Call.sparesPods) (w : World) :
    AfterRegistry w (p.run answer w).state :=
  hp.keeps (P := AfterRegistry w) (fun _ w' hc h => h.trans (afterRegistry_answer hc w')) (.refl w)

/-! ### Listings without failures -/

theorem list_unfailing {w : World} (h : w.faults.list = []) : w.list = (.ok w.runners, w) := by
  unfold World.list
  rw [h]

/-- Without failures a look-up finds the first runner of the name. -/
theorem findRunner_unfailing {w : World} (h : w.faults.list = []) (target : Target) :
    (findRunner target).run answer w =
      ⟨.ok (firstNamed target.name w.runners), [.list target.scope], w⟩ := by
  show Outcome.mk (w.list.1.map (firstNamed target.name)) _ w.list.2 = _
  rw [list_unfailing h]
  rfl

/-! ## Annotating the stored pod

An annotation is written unless it is there. On the pod as it is stored the version cannot be
refused, so that the one way to fail is a queued failure. -/

/-- How the attempt to annotate the stored pod of a world ends: in an answer and another world. -/
inductive Annotated (w : World) (pod : Pod) (key value : String) :
    Except PodStoreError Pod → World → Prop
  /-- The annotation is there, and nothing is called. -/
  | present (h : pod.hasAnnotation key = true) : Annotated w pod key value (.ok pod) w
  /-- A queued failure is taken. -/
  | refused (h : pod.hasAnnotation key = false) (e : PodStoreError) (rest : List PodStoreError)
      (hq : w.faults.patch = e :: rest) :
      Annotated w pod key value (.error e) { w with faults := { w.faults with patch := rest } }
  /-- The annotation is written, under the next version. -/
  | written (h : pod.hasAnnotation key = false) (hq : w.faults.patch = []) :
      Annotated w pod key value
        (.ok (w.store.nextVersion (pod.annotate (.single key value))))
        { w with store := w.store.put (pod.annotate (.single key value)) }

/-- What an annotation that was written leaves of the others. -/
theorem annotation?_written (s : Store) (pod : Pod) (key value name : String) :
    (s.nextVersion (pod.annotate (.single key value))).annotation? name =
      if key = name then some value else pod.annotation? name :=
  Annotations.get?_insert pod.annotations key value name

/-- **The three ways to annotate the pod as it is stored.** -/
theorem annotateOnce_current {w : World} {pod : Pod} (key value : String)
    (hcurrent : w.store.find? pod.namespaceName pod.name = some pod) :
    Annotated w pod key value ((annotateOnce pod key value).run answer w).value
      ((annotateOnce pod key value).run answer w).state := by
  unfold annotateOnce
  cases hkey : pod.hasAnnotation key with
  | true => exact .present hkey
  | false =>
    show Annotated w pod key value (w.patch pod (.single key value)).1
      (w.patch pod (.single key value)).2
    unfold World.patch
    cases hq : w.faults.patch with
    | cons e rest => exact .refused hkey e rest hq
    | nil =>
      have hpatch : w.store.patch pod (.single key value) =
          (.ok (w.store.nextVersion (pod.annotate (.single key value))),
            w.store.put (pod.annotate (.single key value))) := by
        unfold Store.patch
        rw [hcurrent]
        simp
      show Annotated w pod key value (w.store.patch pod (.single key value)).1
        { w with store := (w.store.patch pod (.single key value)).2 }
      rw [hpatch]
      exact .written hkey hq

/-- A mark is annotated with the time of the clock. -/
theorem mark_current {w : World} {pod : Pod} (key : String)
    (hcurrent : w.store.find? pod.namespaceName pod.name = some pod) :
    Annotated w pod key (markText w.clock) ((mark pod key).run answer w).value
      ((mark pod key).run answer w).state :=
  annotateOnce_current key (markText w.clock) hcurrent

theorem markPod_current {w w' : World} {pod : Pod} {key : String} {calls : List Call}
    {result : Except PodStoreError (Option Pod)}
    (hcurrent : w.store.find? pod.namespaceName pod.name = some pod)
    (hrun : (markPod key (some pod)).run answer w = ⟨result, calls, w'⟩) :
    ∃ answered, result = answered.map some ∧
      Annotated w pod key (markText w.clock) answered w' := by
  change ((mark pod key).bind fun answered => .done (Except.map some answered)).run answer w = _
    at hrun
  rw [Program.run_bind] at hrun
  simp only [Program.run_done, Outcome.mk.injEq] at hrun
  obtain ⟨hvalue, -, hstate⟩ := hrun
  refine ⟨((mark pod key).run answer w).value, hvalue.symm, ?_⟩
  rw [← hstate]
  exact mark_current key hcurrent

end World
end Quiesce
