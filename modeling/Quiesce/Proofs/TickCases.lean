import Quiesce.Proofs.Runs
import Quiesce.Stop.Tick

/-!
# How a step can end

A step writes the start mark, decides, and writes the complete mark, and any of the three can be the
last thing it does. `Ticked` lists the five ways in which a step can end, each with the runs of the
parts that led there, and `tick_cases` shows that every run of a step is one of them. What holds of
a step is proved from these cases, never by running the step again.
-/

namespace Quiesce

variable {σ : Type} {handler : Handler σ} {target : Target} {timeout retryDelay : Duration}

theorem TickOutcome.isDeletable_ofPatchError (retryDelay : Duration) (e : PodStoreError) :
    (ofPatchError retryDelay e).isDeletable = false := by
  unfold ofPatchError
  cases e.isConflict with
  | true => rfl
  | false => rfl

/-- How a step on a pod ends that begins in state `s`: in an outcome, after calls, in a state. -/
inductive Ticked (handler : Handler σ) (target : Target) (timeout retryDelay : Duration) (s : σ)
    (pod : Option Pod) : TickOutcome → List Call → σ → Prop
  /-- The start mark could not be written. -/
  | startRefused {e : PodStoreError} {calls : List Call} {s' : σ}
      (start : (markPod Pod.startKey pod).run handler s = ⟨.error e, calls, s'⟩) :
      Ticked handler target timeout retryDelay s pod (.ofPatchError retryDelay e) calls s'
  /-- The decision is to wait. -/
  | requeued {pod' : Option Pod} {after : Duration} {cause : Option StopError}
      {calls calls' : List Call} {s' s'' : σ}
      (start : (markPod Pod.startKey pod).run handler s = ⟨.ok pod', calls, s'⟩)
      (decided : (ensureUnregistered target timeout retryDelay pod').run handler s' =
        ⟨.requeue after cause, calls', s''⟩) :
      Ticked handler target timeout retryDelay s pod (.requeue after cause) (calls ++ calls') s''
  /-- There is no decision. -/
  | failed {pod' : Option Pod} {e : StopError} {calls calls' : List Call} {s' s'' : σ}
      (start : (markPod Pod.startKey pod).run handler s = ⟨.ok pod', calls, s'⟩)
      (decided : (ensureUnregistered target timeout retryDelay pod').run handler s' =
        ⟨.failed e, calls', s''⟩) :
      Ticked handler target timeout retryDelay s pod (.failed e) (calls ++ calls') s''
  /-- The complete mark could not be written. -/
  | completeRefused {pod' : Option Pod} {e : PodStoreError} {calls calls' calls'' : List Call}
      {s' s'' s''' : σ}
      (start : (markPod Pod.startKey pod).run handler s = ⟨.ok pod', calls, s'⟩)
      (decided : (ensureUnregistered target timeout retryDelay pod').run handler s' =
        ⟨.deletable, calls', s''⟩)
      (complete : (markPod Pod.completeKey pod').run handler s'' = ⟨.error e, calls'', s'''⟩) :
      Ticked handler target timeout retryDelay s pod (.ofPatchError retryDelay e)
        (calls ++ (calls' ++ calls'')) s'''
  /-- All three parts went through. -/
  | deletable {pod' pod'' : Option Pod} {calls calls' calls'' : List Call} {s' s'' s''' : σ}
      (start : (markPod Pod.startKey pod).run handler s = ⟨.ok pod', calls, s'⟩)
      (decided : (ensureUnregistered target timeout retryDelay pod').run handler s' =
        ⟨.deletable, calls', s''⟩)
      (complete : (markPod Pod.completeKey pod').run handler s'' = ⟨.ok pod'', calls'', s'''⟩) :
      Ticked handler target timeout retryDelay s pod (.deletable pod'')
        (calls ++ (calls' ++ calls'')) s'''

/-- **Every run of a step ends in one of the five ways.** One case split for each part of the step,
in the order of the step. -/
theorem tick_cases (handler : Handler σ) (target : Target) (timeout retryDelay : Duration) (s : σ)
    (pod : Option Pod) :
    Ticked handler target timeout retryDelay s pod
      ((tick target timeout retryDelay pod).run handler s).value
      ((tick target timeout retryDelay pod).run handler s).calls
      ((tick target timeout retryDelay pod).run handler s).state := by
  unfold tick
  simp only [Program.bind_eq, Program.run_bind]
  cases hstart : (markPod Pod.startKey pod).run handler s with
  | mk marked calls s' =>
    cases marked with
    | error e =>
      show Ticked _ _ _ _ _ _ _ (calls ++ []) _
      rw [List.append_nil]
      exact .startRefused hstart
    | ok pod' =>
      dsimp only
      rw [Program.run_bind]
      cases hdecided : (ensureUnregistered target timeout retryDelay pod').run handler s' with
      | mk decision calls' s'' =>
        cases decision with
        | requeue after cause =>
          show Ticked _ _ _ _ _ _ _ (calls ++ (calls' ++ [])) _
          rw [List.append_nil]
          exact .requeued hstart hdecided
        | failed e =>
          show Ticked _ _ _ _ _ _ _ (calls ++ (calls' ++ [])) _
          rw [List.append_nil]
          exact .failed hstart hdecided
        | deletable =>
          dsimp only
          rw [Program.run_bind]
          cases hcomplete : (markPod Pod.completeKey pod').run handler s'' with
          | mk marked' calls'' s''' =>
            cases marked' with
            | error e =>
              show Ticked _ _ _ _ _ _ _ (calls ++ (calls' ++ (calls'' ++ []))) _
              rw [List.append_nil]
              exact .completeRefused hstart hdecided hcomplete
            | ok pod'' =>
              show Ticked _ _ _ _ _ _ _ (calls ++ (calls' ++ (calls'' ++ []))) _
              rw [List.append_nil]
              exact .deletable hstart hdecided hcomplete

/-! ## From the parts to the step -/

variable {s s₁ s₂ s₃ : σ} {p p₁ p₂ : Option Pod} {calls calls₁ calls₂ : List Call}

/-- An annotation that is not there is written in one call. -/
theorem annotateOnce_absent {pod : Pod} {key : String} (value : String)
    (hlacks : pod.hasAnnotation key = false) :
    annotateOnce pod key value = .call (.patch pod (.single key value)) .done :=
  if_neg (by simp [hlacks])

/-- A mark that is there is left alone. -/
theorem markPod_present (handler : Handler σ) (s : σ) {pod : Pod} {key : String}
    (hhas : pod.hasAnnotation key = true) :
    (markPod key (some pod)).run handler s = ⟨.ok (some pod), [.now], (handler .now s).2⟩ := by
  have hprogram : markPod key (some pod) = .call .now fun _ => .done (.ok (some pod)) := by
    have hmark : mark pod key = .call .now fun _ => .done (.ok pod) :=
      congrArg (Program.call Call.now) (funext fun now => if_pos hhas)
    show (mark pod key).bind (fun answered => .done (Except.map some answered)) = _
    rw [hmark]
    rfl
  rw [hprogram]
  rfl

/-- A decision to wait is the outcome of the step. -/
theorem tick_waits {after : Duration} {cause : Option StopError}
    (start : (markPod Pod.startKey p).run handler s = ⟨.ok p₁, calls, s₁⟩)
    (decided : (ensureUnregistered target timeout retryDelay p₁).run handler s₁ =
      ⟨.requeue after cause, calls₁, s₂⟩) :
    (tick target timeout retryDelay p).run handler s =
      ⟨.requeue after cause, calls ++ calls₁, s₂⟩ := by
  unfold tick
  simp only [Program.bind_eq, Program.run_bind, start, decided]
  show Outcome.mk _ (calls ++ (calls₁ ++ [])) _ = _
  rw [List.append_nil]
  rfl

/-- So is a decision that fails. -/
theorem tick_fails {e : StopError}
    (start : (markPod Pod.startKey p).run handler s = ⟨.ok p₁, calls, s₁⟩)
    (decided : (ensureUnregistered target timeout retryDelay p₁).run handler s₁ =
      ⟨.failed e, calls₁, s₂⟩) :
    (tick target timeout retryDelay p).run handler s = ⟨.failed e, calls ++ calls₁, s₂⟩ := by
  unfold tick
  simp only [Program.bind_eq, Program.run_bind, start, decided]
  show Outcome.mk _ (calls ++ (calls₁ ++ [])) _ = _
  rw [List.append_nil]
  rfl

/-- A deletable pod is marked as complete before the step ends. -/
theorem tick_completes (start : (markPod Pod.startKey p).run handler s = ⟨.ok p₁, calls, s₁⟩)
    (decided : (ensureUnregistered target timeout retryDelay p₁).run handler s₁ =
      ⟨.deletable, calls₁, s₂⟩)
    (complete : (markPod Pod.completeKey p₁).run handler s₂ = ⟨.ok p₂, calls₂, s₃⟩) :
    (tick target timeout retryDelay p).run handler s =
      ⟨.deletable p₂, calls ++ (calls₁ ++ calls₂), s₃⟩ := by
  unfold tick
  simp only [Program.bind_eq, Program.run_bind, start, decided, complete]
  show Outcome.mk _ (calls ++ (calls₁ ++ (calls₂ ++ []))) _ = _
  rw [List.append_nil]
  rfl

/-! ## From the removal to the decision -/

/-- What is left of a decision once it is known what came of the removal. -/
def decideRemoval (target : Target) (timeout retryDelay : Duration) (pod : Option Pod) :
    Removal → Program Decision
  | .removed => .done .deletable
  | .notFound => decideNotFound timeout retryDelay pod
  | .failed e => decideFailure target pod e

/-- A confirmed pod is deletable at once. -/
theorem ensureUnregistered_of_confirmed (target : Target) (timeout retryDelay : Duration)
    {pod : Option Pod} (hconfirmed : pod.any (·.isMarked Pod.completeKey) = true) :
    ensureUnregistered target timeout retryDelay pod = .done .deletable := by
  unfold ensureUnregistered
  rw [if_pos hconfirmed]
  rfl

/-- A number that cannot be read fails the decision at once. -/
theorem ensureUnregistered_of_malformed (target : Target) (timeout retryDelay : Duration)
    {pod : Option Pod} {e : StopError} (hopen : pod.any (·.isMarked Pod.completeKey) = false)
    (hid : recordedId pod = .error e) :
    ensureUnregistered target timeout retryDelay pod = .done (.failed e) := by
  unfold ensureUnregistered
  rw [if_neg (by simp [hopen]), hid]
  rfl

/-- Without a complete mark a decision is a removal, by the recorded number if there is one, and
what is made of it. -/
theorem ensureUnregistered_unconfirmed (target : Target) (timeout retryDelay : Duration)
    {pod : Option Pod} {id : Option Int64} (hopen : pod.any (·.isMarked Pod.completeKey) = false)
    (hid : recordedId pod = .ok id) :
    ensureUnregistered target timeout retryDelay pod =
      (unregister target id).bind (decideRemoval target timeout retryDelay pod) := by
  unfold ensureUnregistered
  rw [if_neg (by simp [hopen]), hid]
  refine congrArg (unregister target id).bind (funext fun removal => ?_)
  cases removal with
  | removed => rfl
  | notFound => rfl
  | failed e => rfl

/-- For any other pod the runner is removed first, and the decision goes by what came of that. -/
theorem ensureUnregistered_open (target : Target) (timeout retryDelay : Duration) {pod : Pod}
    {id : Option Int64} (hopen : pod.isMarked Pod.completeKey = false)
    (hid : recordedId (some pod) = .ok id) :
    ensureUnregistered target timeout retryDelay (some pod) =
      (unregister target id).bind (decideRemoval target timeout retryDelay (some pod)) :=
  ensureUnregistered_unconfirmed target timeout retryDelay hopen hid

/-! ## Pods with both marks -/

/-- The pod has a start mark, be it empty, and a complete mark that is seen. -/
structure Pod.Confirmed (pod : Pod) : Prop where
  start : pod.hasAnnotation startKey = true
  complete : pod.isMarked completeKey = true

theorem ensureUnregistered_confirmed (handler : Handler σ) (s : σ) (target : Target)
    (timeout retryDelay : Duration) {pod : Pod} (h : pod.isMarked Pod.completeKey = true) :
    (ensureUnregistered target timeout retryDelay (some pod)).run handler s =
      ⟨.deletable, [], s⟩ := by
  have hconfirmed : (some pod).any (·.isMarked Pod.completeKey) = true := h
  rw [ensureUnregistered_of_confirmed target timeout retryDelay hconfirmed]
  rfl

/-- A step on a pod that has both marks reads the clock for each of them and leaves it at that. -/
theorem tick_confirmed (handler : Handler σ) (s : σ) (target : Target)
    (timeout retryDelay : Duration) {pod : Pod} (h : pod.Confirmed) :
    (tick target timeout retryDelay (some pod)).run handler s =
      ⟨.deletable (some pod), [.now, .now], (handler .now (handler .now s).2).2⟩ := by
  have hhas : pod.hasAnnotation Pod.completeKey = true := by
    obtain ⟨text, htext⟩ := Option.isSome_iff_exists.1 h.complete
    exact Option.isSome_iff_exists.2 ⟨text, (Option.filter_eq_some_iff.1 htext).1⟩
  exact tick_completes (markPod_present handler s h.start)
    (ensureUnregistered_confirmed handler _ target timeout retryDelay h.complete)
    (markPod_present handler _ hhas)

end Quiesce
