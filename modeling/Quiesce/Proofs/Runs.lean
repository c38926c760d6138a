import Quiesce.Program

/-!
# Runs of programs

What a whole run of a program does, from what its single calls do.

* `Program.value_bind`, `Program.calls_bind` and `Program.state_bind` take a run of a sequence of
  programs apart.
* `Program.Asks` says that a program makes allowed calls only, whatever it is answered, and
  `Program.Asks.keeps` is the invariant principle that goes with it: what every allowed call keeps,
  a run keeps.
-/

namespace Quiesce

/-- An answer that is no failure has a value. -/
theorem exists_of_isOk {ε α : Type} {answer : Except ε α} (h : answer.isOk = true) :
    ∃ a, answer = .ok a := by
  cases answer with
  | error e => cases h
  | ok a => exact ⟨a, rfl⟩

namespace Program

variable {σ α β : Type}

/-! ## One call after the other -/

@[simp] theorem run_done (handler : Handler σ) (a : α) (s : σ) :
    (done a).run handler s = ⟨a, [], s⟩ := rfl

theorem run_call (handler : Handler σ) (c : Call) (next : c.Answer → Program α) (s : σ) :
    (call c next).run handler s =
      ⟨((next (handler c s).1).run handler (handler c s).2).value,
        c :: ((next (handler c s).1).run handler (handler c s).2).calls,
        ((next (handler c s).1).run handler (handler c s).2).state⟩ := rfl

theorem value_bind (handler : Handler σ) (p : Program α) (f : α → Program β) (s : σ) :
    ((p.bind f).run handler s).value =
      ((f (p.run handler s).value).run handler (p.run handler s).state).value := by
  rw [run_bind]

theorem calls_bind (handler : Handler σ) (p : Program α) (f : α → Program β) (s : σ) :
    ((p.bind f).run handler s).calls =
      (p.run handler s).calls ++
        ((f (p.run handler s).value).run handler (p.run handler s).state).calls := by
  rw [run_bind]

theorem state_bind (handler : Handler σ) (p : Program α) (f : α → Program β) (s : σ) :
    ((p.bind f).run handler s).state =
      ((f (p.run handler s).value).run handler (p.run handler s).state).state := by
  rw [run_bind]

/-! ## Programs that make allowed calls only

The frame conditions of the library all have one shape: a program that never makes a certain kind of
call leaves alone what only such a call can change. -/

/-- Every call that the program can make is allowed, whatever it is answered. -/
def Asks (allowed : Call → Prop) : Program α → Prop
  | .done _ => True
  | .call c next => allowed c ∧ ∀ answer, (next answer).Asks allowed

/-- What the parts of a program ask is what the whole asks. -/
theorem Asks.bind {allowed : Call → Prop} {p : Program α} {f : α → Program β}
    (hp : p.Asks allowed) (hf : ∀ a, (f a).Asks allowed) : (p.bind f).Asks allowed := by
  induction p with
  | done a => exact hf a
  | call c next ih => exact ⟨hp.1, fun answer => ih answer (hp.2 answer)⟩

theorem Asks.mono {allowed allowed' : Call → Prop} (h : ∀ c, allowed c → allowed' c)
    {p : Program α} (hp : p.Asks allowed) : p.Asks allowed' := by
  induction p with
  | done a => trivial
  | call c next ih => exact ⟨h c hp.1, fun answer => ih answer (hp.2 answer)⟩

/-- Every call of a run is allowed. -/
theorem Asks.calls {allowed : Call → Prop} {handler : Handler σ} {p : Program α}
    (hp : p.Asks allowed) {s : σ} {c : Call} (hc : c ∈ (p.run handler s).calls) : allowed c := by
  induction p generalizing s with
  | done a => cases hc
  | call c' next ih =>
    rcases List.mem_cons.1 hc with rfl | hc
    · exact hp.1
    · exact ih (handler c' s).1 (hp.2 _) hc

/-- **What every allowed call keeps, a run keeps.** Induction on the program, the state being free:
the calls that are left start where the first one has led. -/
theorem Asks.keeps {allowed : Call → Prop} {handler : Handler σ} {P : σ → Prop} {p : Program α}
    (hp : p.Asks allowed) (hcall : ∀ c s, allowed c → P s → P (handler c s).2) {s : σ} (hs : P s) :
    P (p.run handler s).state := by
  induction p generalizing s with
  | done a => exact hs
  | call c next ih => exact ih (handler c s).1 (hp.2 _) (hcall c s hp.1 hs)

end Program

end Quiesce
