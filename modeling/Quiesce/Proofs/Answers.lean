import Quiesce.Proofs.StepEffects

/-!
# What a pod is let go for

A pod may only be deleted if the registry has said something about its runner: it has removed the
runner, does not know it, refuses to remove it for the state that it is in, or has listed its
runners without it. All of these but one are what a decision rests on. A refusal is looked for in
whatever failure comes back, be it that of the removal or that of the listing before it, so that a
listing that fails with the same status lets the pod go as well.

* `AnsweredFor` is what the registry can have said about the runner in a dialogue.
* `deletable_needs_answer` is the main statement: there is such an answer unless the look-up failed
  in that way. `deletable_without_answer` is a pod that is let go without one.
-/

namespace Quiesce

variable {target : Target} {timeout retryDelay : Duration} {pod : Option Pod}
  {talk : List Exchange} {decision : Decision}

/-! ## Answers about a runner -/

/-- The number stands for the runner of a pod: the pod records it or, if it records none, it is the
one listed under the name. -/
def IsNumberOf (target : Target) (pod : Option Pod) (talk : List Exchange) (n : Int64) : Prop :=
  recordedId pod = .ok (some n) ∨
    recordedId pod = .ok none ∧ ∃ runners, ⟨.list target.scope, .ok runners⟩ ∈ talk ∧
      (firstNamed target.name runners).bind (·.id) = some n

/-- The answers to a removal that tell what has become of a runner. -/
inductive Settles : Except RegistryError Unit → Prop
  | removed : Settles (.ok ())
  | unknown (text : String) : Settles (.error (.notFound text))
  | refused (text : String) : Settles (.error (.api 422 text))

/-- The registry has answered for the runner of a pod: a removal of its number is settled, or a
listing shows no number under its name. -/
inductive AnsweredFor (target : Target) (pod : Option Pod) (talk : List Exchange) : Prop
  | removal {n : Int64} {answer : Except RegistryError Unit}
      (asked : ⟨.remove target.scope n, answer⟩ ∈ talk) (number : IsNumberOf target pod talk n)
      (settled : Settles answer)
  | listing {runners : List Runner} (asked : ⟨.list target.scope, .ok runners⟩ ∈ talk)
      (absent : ∀ r, firstNamed target.name runners = some r → r.id = none)

/-! ## What a decision rests on -/

/-- A refusal for good settles what becomes of the runner. -/
theorem settles_of_refused {e : RegistryError} (h : RefusedForGood pod e) : Settles (.error e) := by
  cases e with
  | api status text =>
    obtain rfl : status = 422 := Option.some.inj h.1
    exact .refused text
  | _ => cases h.1

/-- A failure lets a pod go exactly if it is a refusal that the pod's container has outlived. -/
theorem decideFailure_deletable_iff {e : RegistryError}
    (h : (decideFailure target pod e).Dialogue talk decision) :
    decision = .deletable ↔ RefusedForGood pod e := by
  by_cases hgood : RefusedForGood pod e
  · rw [decideFailure_for_good target hgood] at h
    cases h with
    | call answer rest =>
      cases rest
      exact iff_of_true rfl hgood
  · refine iff_of_false ?_ hgood
    obtain ⟨d, hkept, hd⟩ := decideFailure_otherwise target hgood
    rw [hd] at h
    cases h
    exact hkept

/-- A pod that is let go after a removal has it settled. -/
theorem settles_of_deletable {answer : Except RegistryError Unit}
    (h : (decideRemoval target timeout retryDelay pod (.ofAnswer answer)).Dialogue talk
      .deletable) : Settles answer := by
  cases answer with
  | ok u => exact .removed
  | error e =>
    by_cases hfound : e.isNotFound = true
    · cases e with
      | notFound text => exact .unknown text
      | _ => cases hfound
    · have hfailed : Removal.ofAnswer (.error e) = .failed e := if_neg hfound
      rw [hfailed] at h
      exact settles_of_refused ((decideFailure_deletable_iff h).1 rfl)

/-- The dialogue of a decision that is open begins with an attempt to remove the runner, unless what
the pod records for it is not a number. -/
theorem ensureUnregistered_attempts (hopen : pod.any (·.isMarked Pod.completeKey) = false)
    (h : (ensureUnregistered target timeout retryDelay pod).Dialogue talk decision) :
    (∃ e, recordedId pod = .error e ∧ talk = [] ∧ decision = .failed e) ∨
      ∃ id first second removal, recordedId pod = .ok id ∧ talk = first ++ second ∧
        Attempt target id first removal ∧
        (decideRemoval target timeout retryDelay pod removal).Dialogue second decision := by
  cases hid : recordedId pod with
  | error e =>
    rw [ensureUnregistered_of_malformed target timeout retryDelay hopen hid] at h
    cases h
    exact Or.inl ⟨e, rfl, rfl, rfl⟩
  | ok id =>
    rw [ensureUnregistered_unconfirmed target timeout retryDelay hopen hid] at h
    obtain ⟨first, second, removal, rfl, hremoved, hdecided⟩ := Program.dialogue_bind.1 h
    exact Or.inr ⟨id, first, second, removal, rfl, rfl, unregister_attempt hremoved, hdecided⟩

/-- **A pod is let go for an answer about its runner or for a look-up that was refused.** One case
for each way that the attempt can have gone. -/
theorem answered_of_deletable (hopen : pod.any (·.isMarked Pod.completeKey) = false)
    (h : (ensureUnregistered target timeout retryDelay pod).Dialogue talk .deletable) :
    AnsweredFor target pod talk ∨
      ∃ e rest, talk = ⟨.list target.scope, .error e⟩ :: rest ∧ RefusedForGood pod e := by
  rcases ensureUnregistered_attempts hopen h with
    ⟨e, -, -, hfailed⟩ | ⟨id, first, second, removal, hid, rfl, hattempt, hdecided⟩
  · cases hfailed
  · cases hattempt with
    | known n answer =>
      exact Or.inl (.removal (by simp) (Or.inl hid) (settles_of_deletable hdecided))
    | unlisted e =>
      -- the failure of the look-up is decided like that of a removal
      exact Or.inr ⟨e, second, rfl, (decideFailure_deletable_iff hdecided).1 rfl⟩
    | @absent runners hnone =>
      exact Or.inl (.listing (by simp) (Option.bind_eq_none_iff.1 hnone))
    | @found runners n answer hsome =>
      exact Or.inl (.removal (by simp) (Or.inr ⟨hid, runners, by simp, hsome⟩)
        (settles_of_deletable hdecided))

/-- A look-up that fails is followed by no removal, and it lets the pod go exactly if it is refused
as a removal can be. -/
theorem lookup_failed (hopen : pod.any (·.isMarked Pod.completeKey) = false)
    {e : RegistryError} {rest : List Exchange}
    (h : (ensureUnregistered target timeout retryDelay pod).Dialogue
      (⟨.list target.scope, .error e⟩ :: rest) decision) :
    (decision = .deletable ↔ RefusedForGood pod e) ∧ ∀ x ∈ rest, x.call = .list target.scope := by
  rcases ensureUnregistered_attempts hopen h with
    ⟨_, -, hnothing, -⟩ | ⟨id, first, second, removal, hid, htalk, hattempt, hdecided⟩
  · cases hnothing
  · cases hattempt with
    | known n answer => cases htalk
    | unlisted e' =>
      cases htalk
      have hlists : (decideFailure target pod e).Asks (· = .list target.scope) :=
        decideFailure_asks (by rfl) pod e
      exact ⟨decideFailure_deletable_iff hdecided, hlists.dialogue hdecided⟩
    | absent hnone => cases htalk
    | found answer hsome => cases htalk

/-- **Whoever may be deleted has been answered for, unless the look-up was refused.** Take a pod
without a complete mark and a decision on it, whatever the registry and the clock answer. If the pod
may be deleted, then the removal of its runner was answered by a success, by the runner being
unknown or by a refusal for its state, or a listing has shown no number under its name; or else the
look-up failed with the status of such a refusal and the container of the runner has terminated.
No other failure of the look-up lets the pod go, and after none is a removal asked for. -/
theorem deletable_needs_answer {σ : Type} (handler : Handler σ) (s : σ) (target : Target)
    (timeout retryDelay : Duration) (pod : Option Pod)
    (hopen : pod.any (·.isMarked Pod.completeKey) = false) :
    let talk := (ensureUnregistered target timeout retryDelay pod).exchanges handler s
    let decision := ((ensureUnregistered target timeout retryDelay pod).run handler s).value
    (decision = .deletable → AnsweredFor target pod talk ∨
      ∃ e rest, talk = ⟨.list target.scope, .error e⟩ :: rest ∧ RefusedForGood pod e) ∧
    ∀ e rest, talk = ⟨.list target.scope, .error e⟩ :: rest →
      (decision = .deletable ↔ RefusedForGood pod e) ∧
        ∀ x ∈ rest, x.call = .list target.scope := by
  intro talk decision
  have htalk : (ensureUnregistered target timeout retryDelay pod).Dialogue talk decision :=
    Program.dialogue_exchanges handler _ s
  refine ⟨fun hdeletable => ?_, fun e rest hfailed => ?_⟩
  · rw [hdeletable] at htalk
    exact answered_of_deletable hopen htalk
  · rw [hfailed] at htalk
    exact lookup_failed hopen htalk

/-! ### A pod whose runner has left with an error

Its runner is still listed. Once the removal is refused, which is an answer; once the listing is
refused, which is none. -/

def exitedRunner : Runner := ⟨some 11, "runner-abc", "linux", .offline, false, []⟩

/-- Its pod, with that number or with none. -/
def exitedPod (annotations : Annotations) : Pod where
  namespaceName := "default"
  name := "runner-abc"
  version := some "1"
  annotations := annotations
  phase := .running
  containers := [⟨"runner", .terminated 1⟩]
  conditions := []

def exitedTarget : Target := ⟨.ofOrganization "acme", "runner-abc"⟩

/-- A world in which these failures are to come. -/
def exitedWorld (faults : Faults) : World := ⟨.epoch, [exitedRunner], .empty, faults⟩

/-- The removal of a recorded number is refused, and the container has terminated: the refusal is
the answer that lets the pod go. -/
theorem deletable_needs_answer_refused :
    let pod := some (exitedPod (.single Pod.runnerIdKey "11"))
    let refusal : RegistryError := .api 422 "Runner is still running a job"
    let program := ensureUnregistered exitedTarget (.ofSeconds 60) (.ofSeconds 10) pod
    let w := exitedWorld { Faults.none with remove := [.error refusal] }
    pod.any (·.isMarked Pod.completeKey) = false ∧ (program.run World.answer w).value = .deletable ∧
      AnsweredFor exitedTarget pod (program.exchanges World.answer w) := by
  intro pod refusal program w
  have hopen : pod.any (·.isMarked Pod.completeKey) = false := by decide
  have hdeletable : (program.run World.answer w).value = .deletable := by decide
  obtain ⟨hneeds, -⟩ := deletable_needs_answer World.answer w exitedTarget (.ofSeconds 60)
    (.ofSeconds 10) pod hopen
  refine ⟨hopen, hdeletable, (hneeds hdeletable).resolve_right ?_⟩
  -- the number is recorded, so that nothing is looked up
  rintro ⟨e, rest, htalk, -⟩
  cases congrArg (List.map (·.call)) htalk

/-- The listing is refused, nobody is asked to remove the runner, and the second listing shows it
with its number: the pod is let go without an answer. -/
theorem deletable_without_answer :
    let pod := exitedPod .empty
    let refusal : RegistryError := .api 422 "Validation Failed"
    let program := ensureUnregistered exitedTarget (.ofSeconds 60) (.ofSeconds 10) (some pod)
    let w := exitedWorld { Faults.none with list := [refusal] }
    pod.hasAnnotation Pod.completeKey = false ∧
      (program.run World.answer w).value = .deletable ∧
      (program.run World.answer w).calls = [.list exitedTarget.scope, .list exitedTarget.scope] ∧
      ¬AnsweredFor exitedTarget (some pod) (program.exchanges World.answer w) := by
  intro pod refusal program w
  have htalk : program.exchanges World.answer w =
      [⟨.list exitedTarget.scope, .error refusal⟩,
        ⟨.list exitedTarget.scope, .ok [exitedRunner]⟩] := rfl
  refine ⟨by decide, by decide, by decide, fun hanswered => ?_⟩
  rw [htalk] at hanswered
  cases hanswered with
  | removal asked number settled =>
    rcases List.mem_cons.1 asked with h | h
    · cases h
    · cases List.mem_singleton.1 h
  | listing asked absent =>
    rcases List.mem_cons.1 asked with h | h
    · cases h
    · cases List.mem_singleton.1 h
      cases absent exitedRunner rfl

end Quiesce
