import Quiesce.Proofs.Dialogues
import Quiesce.Stop.Decision

/-!
# Attempts to remove a runner

An attempt goes one of four ways: the number is known and its removal answered; the runners cannot
be listed; they are listed and none of them has the number; or one has it, and its removal is
answered. `Attempt` lists the four, and `unregister_attempt` shows that there is no fifth. Whatever
depends on the answers to an attempt is proved by cases on it.
-/

namespace Quiesce

variable {target : Target} {id : Option Int64} {talk : List Exchange} {removal : Removal}

/-- How an attempt to remove a runner can go, by a number if one is known: what is asked of the
registry with its answers, and what comes of it. -/
inductive Attempt (target : Target) : Option Int64 → List Exchange → Removal → Prop
  | known (n : Int64) (answer : Except RegistryError Unit) :
      Attempt target (some n) [⟨.remove target.scope n, answer⟩] (.ofAnswer answer)
  | unlisted (e : RegistryError) :
      Attempt target none [⟨.list target.scope, .error e⟩] (.failed e)
  | absent {runners : List Runner}
      (hnone : (firstNamed target.name runners).bind (·.id) = none) :
      Attempt target none [⟨.list target.scope, .ok runners⟩] .notFound
  | found {runners : List Runner} {n : Int64} (answer : Except RegistryError Unit)
      (hsome : (firstNamed target.name runners).bind (·.id) = some n) :
      Attempt target none
        [⟨.list target.scope, .ok runners⟩, ⟨.remove target.scope n, answer⟩] (.ofAnswer answer)

/-- A removal by number is one call, and its answer says what came of it. -/
theorem removeById_dialogue {scope : Scope} {n : Int64}
    (h : (removeById scope n).Dialogue talk removal) :
    ∃ answer, talk = [⟨.remove scope n, answer⟩] ∧ removal = .ofAnswer answer := by
  cases h with
  | call answer rest =>
    cases rest
    exact ⟨answer, rfl, rfl⟩

/-- **Every dialogue of an attempt goes one of the four ways.** The cases follow the program: the
number is known or looked up, the look-up is answered or fails, and it shows a number or none. -/
theorem unregister_attempt (h : (unregister target id).Dialogue talk removal) :
    Attempt target id talk removal := by
  cases id with
  | some n =>
    obtain ⟨answer, rfl, rfl⟩ := removeById_dialogue h
    exact .known n answer
  | none =>
    change (Program.call (.list target.scope) fun answer => _).Dialogue talk removal at h
    cases h with
    | @call _ _ rest _ answer h =>
      cases answer with
      | error e =>
        cases h
        exact .unlisted e
      | ok runners =>
        dsimp only [Program.bind, Except.map] at h
        cases hid : (firstNamed target.name runners).bind (·.id) with
        | none =>
          rw [hid] at h
          cases h
          exact .absent hid
        | some n =>
          rw [hid] at h
          obtain ⟨answer, rfl, rfl⟩ := removeById_dialogue h
          exact .found answer hid

end Quiesce
