import Quiesce.Proofs.TickCases
import Quiesce.Proofs.WorldSteps
import Quiesce.World.Timeline

/-!
# What a step spends

A world holds finitely many queued entries, and nothing that asks it anything adds to them. A
decision that is not the one on a runner that was not found has taken an entry, or it is final.

* `World.Spent` says that time stands still and that entries can only go.
* `unregister_failed`: a removal that fails has taken an entry.
* `ensureUnregistered_settles`: the decision is final, has taken an entry, or is that on a runner
  that was not found.
-/

namespace Quiesce

open Timeline (queued)

namespace World

/-- The clock stands still, and entries can only have gone from the queues. -/
structure Spent (w w' : World) : Prop where
  clock : w'.clock = w.clock
  queued : queued w'.faults ≤ queued w.faults
  delete : w'.faults.delete <:+ w.faults.delete

theorem Spent.refl (w : World) : Spent w w := ⟨rfl, Nat.le_refl _, List.suffix_rfl⟩

theorem Spent.trans {w w' w'' : World} (h : Spent w w') (h' : Spent w' w'') : Spent w w'' :=
  ⟨h'.clock.trans h.clock, Nat.le_trans h'.queued h.queued, h'.delete.trans h.delete⟩

/-- Asking the registry takes failures from the queues and puts none there. -/
theorem AfterRegistry.spent {w w' : World} (h : AfterRegistry w w') : Spent w w' := by
  refine ⟨h.clock, ?_, h.delete ▸ List.suffix_rfl⟩
  have hlist := h.list.length_le
  have hremove := h.remove.length_le
  unfold Timeline.queued
  rw [h.get, h.patch, h.delete]
  omega

/-- An annotation that is not written has taken an entry. -/
theorem Annotated.queued_lt {w w' : World} {pod : Pod} {key value : String} {e : PodStoreError}
    (h : Annotated w pod key value (.error e) w') : queued w'.faults < queued w.faults := by
  cases h with
  | refused h e rest hq =>
    unfold Timeline.queued
    rw [hq]
    simp

theorem Annotated.spent {w w' : World} {pod : Pod} {key value : String}
    {answer : Except PodStoreError Pod} (h : Annotated w pod key value answer w') : Spent w w' := by
  cases h with
  | present hhas => exact .refl w
  | refused hlacks e rest hq =>
    have hrefused : Annotated w pod key value (.error e) _ := .refused hlacks e rest hq
    exact ⟨rfl, Nat.le_of_lt hrefused.queued_lt, List.suffix_rfl⟩
  | written hlacks hq => exact ⟨rfl, Nat.le_refl _, List.suffix_rfl⟩

/-! ## The registry -/

/-- A look-up that fails has spent a failure. -/
theorem findRunner_failed {w w' : World} {target : Target} {e : RegistryError} {calls : List Call}
    (h : (findRunner target).run answer w = ⟨.error e, calls, w'⟩) :
    queued w'.faults < queued w.faults := by
  change Outcome.mk (w.list.1.map (firstNamed target.name)) [.list target.scope] w.list.2 = _ at h
  unfold World.list at h
  cases hq : w.faults.list with
  | nil =>
    rw [hq] at h
    cases h
  | cons e' rest =>
    rw [hq] at h
    cases h
    unfold Timeline.queued
    rw [hq]
    simp

/-- A removal that fails has taken an entry: of itself the world fails only for runners that it does
not have. -/
theorem removeById_failed {w : World} {scope : Scope} {id : Int64} {e : RegistryError}
    (h : ((removeById scope id).run answer w).value = .failed e) :
    queued ((removeById scope id).run answer w).state.faults < queued w.faults := by
  change Removal.ofAnswer (w.remove id).1 = .failed e at h
  show queued (w.remove id).2.faults < queued w.faults
  unfold World.remove at h ⊢
  cases hq : w.faults.remove with
  | nil =>
    rw [hq] at h
    dsimp only at h
    by_cases hlisted : w.runners.any (·.id = some id) = true
    · rw [if_pos hlisted] at h
      cases h
    · rw [if_neg hlisted] at h
      cases h
  | cons result rest =>
    unfold Timeline.queued
    rw [hq]
    simp

/-- A removal that fails has spent a failure, be it of the listing or of the removal. -/
theorem unregister_failed {w : World} {target : Target} {id : Option Int64} {e : RegistryError}
    (h : ((unregister target id).run answer w).value = .failed e) :
    queued ((unregister target id).run answer w).state.faults < queued w.faults := by
  cases id with
  | some n => exact removeById_failed h
  | none =>
    unfold unregister at h ⊢
    simp only [Program.bind_eq, Program.value_bind, Program.state_bind] at h ⊢
    have hspent := (afterRegistry_run (findRunner_asksRegistry target).sparesPods w).spent
    generalize hrun : (findRunner target).run answer w = found at h hspent ⊢
    obtain ⟨result, calls, w'⟩ := found
    cases result with
    | error e' => exact findRunner_failed hrun
    | ok found =>
      dsimp only at h hspent ⊢
      cases hid : found.bind (·.id) with
      | none =>
        rw [hid] at h
        cases h
      | some n =>
        rw [hid] at h
        exact Nat.lt_of_lt_of_le (removeById_failed h) hspent.queued

end World

/-! ## The decision -/

/-- What a program makes of the clock alone does not depend on anything else. -/
theorem Program.Asks.value_eq {α : Type} {p : Program α} (hp : p.Asks (· = .now)) {w w' : World}
    (hclock : w'.clock = w.clock) :
    (p.run World.answer w').value = (p.run World.answer w).value := by
  induction p with
  | done a => rfl
  | call c next ih =>
    obtain ⟨rfl, hnext⟩ := hp
    show ((next w'.clock).run World.answer w').value = ((next w.clock).run World.answer w).value
    rw [hclock]
    exact ih w.clock (hnext w.clock)

/-- **How a decision comes about.** It is final, or it has taken an entry from the queues, or it is
the decision on a runner that was not found. -/
theorem ensureUnregistered_settles (w : World) (target : Target) (timeout retryDelay : Duration)
    {pod : Option Pod} {id : Option Int64} (hid : recordedId pod = .ok id) :
    ((ensureUnregistered target timeout retryDelay pod).run World.answer w).value = .deletable ∨
      queued ((ensureUnregistered target timeout retryDelay pod).run World.answer w).state.faults <
        queued w.faults ∨
      ((ensureUnregistered target timeout retryDelay pod).run World.answer w).value =
        ((decideNotFound timeout retryDelay pod).run World.answer w).value := by
  unfold ensureUnregistered
  cases hcomplete : pod.any (·.isMarked Pod.completeKey) with
  | true => exact Or.inl rfl
  | false =>
    simp only [Bool.false_eq_true, if_false, hid, Program.bind_eq, Program.value_bind,
      Program.state_bind]
    have hspent :=
      (World.afterRegistry_run (unregister_asksRegistry target id).sparesPods w).spent
    have hfailed : ∀ e, ((unregister target id).run World.answer w).value = .failed e →
        queued ((unregister target id).run World.answer w).state.faults < queued w.faults :=
      fun e => World.unregister_failed
    generalize (unregister target id).run World.answer w = removal at hspent hfailed ⊢
    obtain ⟨outcome, calls, w'⟩ := removal
    cases outcome with
    | removed => exact Or.inl rfl
    | notFound =>
      have hasks := decideNotFound_asksClock timeout retryDelay pod
      exact Or.inr (Or.inr (hasks.value_eq hspent.clock))
    | failed e =>
      have hlater :=
        (World.afterRegistry_run (decideFailure_asksRegistry target pod e).sparesPods w').spent
      exact Or.inr (Or.inl (Nat.lt_of_le_of_lt hlater.queued (hfailed e rfl)))

end Quiesce
