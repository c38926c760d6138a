import Quiesce.Cluster.Error
import Quiesce.Pod.Basic
import Quiesce.Registry.Error
import Quiesce.Runner.Basic
import Quiesce.Scope

/-!
# Programs over the outside world

What the stopping of a runner asks of the outside world, as data: a program either is done or makes
one call and goes on with its answer. The same program runs against a simulated world, over HTTP, or
against any other source of answers.

* `Call` lists the calls and `Call.Answer` the type of their answers.
* `Program.run` runs a program against a `Handler` and records its calls.
* `Program.run_bind` says that programs run one after the other.
-/

namespace Quiesce

inductive Call where
  /-- Lists the runners registered under a scope. -/
  | list (scope : Scope)
  /-- Removes a runner from the registry. -/
  | remove (scope : Scope) (id : Int64)
  /-- Fetches a pod. -/
  | get (namespaceName name : String)
  /-- Adds annotations to a pod, unless it has changed since it was read. -/
  | patch (pod : Pod) (annotations : Annotations)
  /-- Deletes a pod. -/
  | delete (pod : Pod)
  /-- Reads the clock. -/
  | now
deriving DecidableEq, Repr

def Call.Answer : Call → Type
  | .list _ => Except RegistryError (List Runner)
  | .remove _ _ => Except RegistryError Unit
  | .get _ _ => Except PodStoreError (Option Pod)
  | .patch _ _ => Except PodStoreError Pod
  | .delete _ => Except PodStoreError Unit
  | .now => Instant

def Call.isRegistry : Call → Bool
  | .list _ => true
  | .remove _ _ => true
  | _ => false

/-- A program that makes finitely many calls and ends with a value. -/
inductive Program (α : Type) where
  | done (a : α)
  | call (c : Call) (next : c.Answer → Program α)

/-- A source of answers with a state. -/
abbrev Handler (σ : Type) := (c : Call) → σ → c.Answer × σ

/-- How a program ended: its value, its calls in order, and the state of the source of answers. -/
structure Outcome (σ α : Type) where
  value : α
  calls : List Call
  state : σ

namespace Program

/-- The program that makes one call and ends with its answer. -/
def perform (c : Call) : Program c.Answer := .call c .done

/-- Goes on with a program that depends on the value of the first. -/
def bind {α β : Type} : Program α → (α → Program β) → Program β
  | .done a, f => f a
  | .call c next, f => .call c fun answer => (next answer).bind f

instance : Monad Program where
  pure := .done
  bind := bind

def run {σ α : Type} (handler : Handler σ) : Program α → σ → Outcome σ α
  | .done a, s => ⟨a, [], s⟩
  | .call c next, s =>
    let (answer, s) := handler c s
    let rest := (next answer).run handler s
    { rest with calls := c :: rest.calls }

@[simp] theorem pure_eq {α : Type} (a : α) : (pure a : Program α) = .done a := rfl

@[simp] theorem bind_eq {α β : Type} (p : Program α) (f : α → Program β) : p >>= f = p.bind f := rfl

@[simp] theorem done_bind {α β : Type} (a : α) (f : α → Program β) : (done a).bind f = f a := rfl

@[simp] theorem call_bind {α β : Type} (c : Call) (next : c.Answer → Program α)
    (f : α → Program β) : (call c next).bind f = call c fun answer => (next answer).bind f := rfl

/-- A program goes on where its first part has left the source of answers. -/
theorem run_bind {σ α β : Type} (handler : Handler σ) (p : Program α) (f : α → Program β) (s : σ) :
    (p.bind f).run handler s =
      let first := p.run handler s
      let second := (f first.value).run handler first.state
      ⟨second.value, first.calls ++ second.calls, second.state⟩ := by
  induction p generalizing s with
  | done a => rfl
  | call c next ih => simp [run, ih]

end Program

end Quiesce
