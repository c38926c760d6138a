import Quiesce.Proofs.Runs

/-!
# Dialogues with the outside world

A run of a program records its calls. What a program makes of the answers can only be said of the
calls together with their answers, and that without a handler: a program takes part in every
dialogue in which each of its calls gets some answer.

* `Program.Dialogue` relates a program to the dialogues that it can have and to the values that it
  ends with, and `Program.dialogue_bind` takes the dialogue of a sequence of programs apart.
* `Program.exchanges` is the dialogue of a run: `Program.dialogue_exchanges`.
* `Program.dialogue_unique` says that the answers decide how a program ends.
* `effects` are the exchanges of a dialogue without the readings of the clock.
-/

namespace Quiesce

/-- Whether the call is one to the registry or the cluster, not a reading of the clock. -/
def Call.isEffect : Call → Bool
  | .now => false
  | _ => true

/-- A call with the answer to it. -/
structure Exchange where
  call : Call
  answer : call.Answer

/-- The exchanges of a dialogue with the registry and the cluster. -/
def effects (talk : List Exchange) : List Exchange :=
  talk.filter (·.call.isEffect)

@[simp] theorem effects_append (first second : List Exchange) :
    effects (first ++ second) = effects first ++ effects second :=
  List.filter_append ..

/-- Reading the clock has no effect. -/
theorem effects_eq_nil {talk : List Exchange} (h : ∀ x ∈ talk, x.call = .now) :
    effects talk = [] := by
  refine List.filter_eq_nil_iff.2 fun x hx => ?_
  rw [h x hx]
  nofun

/-- The calls of the effects are the calls but for the readings of the clock. -/
theorem calls_effects (talk : List Exchange) :
    (effects talk).map (·.call) = (talk.map (·.call)).filter Call.isEffect := by
  rw [List.filter_map]
  rfl

namespace Program

variable {σ α β : Type}

/-- The dialogues that a program can have, each with the value that the program ends with. -/
inductive Dialogue : Program α → List Exchange → α → Prop where
  | done (a : α) : Dialogue (.done a) [] a
  | call {c : Call} {next : c.Answer → Program α} {talk : List Exchange} {a : α}
      (answer : c.Answer) (rest : Dialogue (next answer) talk a) :
      Dialogue (.call c next) (⟨c, answer⟩ :: talk) a

/-- A dialogue of two parts is a dialogue of the whole. -/
theorem Dialogue.bind {p : Program α} {f : α → Program β} {first second : List Exchange} {a : α}
    {b : β} (h : p.Dialogue first a) (h' : (f a).Dialogue second b) :
    (p.bind f).Dialogue (first ++ second) b := by
  induction h with
  | done a => exact h'
  | call answer rest ih => exact .call answer (ih h')

/-- **The dialogue of a sequence is a sequence of dialogues.** Induction on the first program. -/
theorem dialogue_bind {p : Program α} {f : α → Program β} {talk : List Exchange} {b : β} :
    (p.bind f).Dialogue talk b ↔
      ∃ first second a, talk = first ++ second ∧ p.Dialogue first a ∧ (f a).Dialogue second b := by
  constructor
  · intro h
    induction p generalizing talk with
    | done a => exact ⟨[], talk, a, rfl, .done a, h⟩
    | call c next ih =>
      cases h with
      | call answer rest =>
        obtain ⟨first, second, a, rfl, hfirst, hsecond⟩ := ih answer rest
        exact ⟨⟨c, answer⟩ :: first, second, a, rfl, .call answer hfirst, hsecond⟩
  · rintro ⟨first, second, a, rfl, hfirst, hsecond⟩
    exact hfirst.bind hsecond

/-- A program that gets the same answers ends with the same value. -/
theorem dialogue_unique {p : Program α} {talk : List Exchange} {a b : α} (h : p.Dialogue talk a)
    (h' : p.Dialogue talk b) : b = a := by
  induction h with
  | done a =>
    cases h'
    rfl
  | call answer rest ih =>
    cases h' with
    | call _ rest' => exact ih rest'

/-- What a program can ask for is all that its dialogues are about. -/
theorem Asks.dialogue {allowed : Call → Prop} {p : Program α} (hp : p.Asks allowed)
    {talk : List Exchange} {a : α} (h : p.Dialogue talk a) : ∀ x ∈ talk, allowed x.call := by
  induction h with
  | done a => simp
  | call answer rest ih =>
    intro x hx
    rcases List.mem_cons.1 hx with rfl | hx
    · exact hp.1
    · exact ih (hp.2 answer) x hx

/-! ## The dialogue of a run -/

/-- The dialogue of a program with a source of answers. -/
def exchanges (handler : Handler σ) : Program α → σ → List Exchange
  | .done _, _ => []
  | .call c next, s =>
    ⟨c, (handler c s).1⟩ :: (next (handler c s).1).exchanges handler (handler c s).2

/-- The calls of the dialogue are those that the run records. -/
theorem calls_exchanges (handler : Handler σ) (p : Program α) (s : σ) :
    (p.exchanges handler s).map (·.call) = (p.run handler s).calls := by
  induction p generalizing s with
  | done a => rfl
  | call c next ih =>
    rw [run_call]
    exact congrArg (c :: ·) (ih (handler c s).1 (handler c s).2)

/-- Every run is a dialogue of its program: what holds of all dialogues holds of it. -/
theorem dialogue_exchanges (handler : Handler σ) (p : Program α) (s : σ) :
    p.Dialogue (p.exchanges handler s) (p.run handler s).value := by
  induction p generalizing s with
  | done a => exact .done a
  | call c next ih => exact .call (handler c s).1 (ih (handler c s).1 (handler c s).2)

/-- The exchanges of a program that goes on are those of its parts in order. -/
theorem exchanges_bind (handler : Handler σ) (p : Program α) (f : α → Program β) (s : σ) :
    (p.bind f).exchanges handler s =
      p.exchanges handler s ++
        (f (p.run handler s).value).exchanges handler (p.run handler s).state := by
  induction p generalizing s with
  | done a => rfl
  | call c next ih =>
    rw [run_call]
    exact congrArg (_ :: ·) (ih (handler c s).1 (handler c s).2)

end Program

end Quiesce
