import Quiesce.Program
import Quiesce.World.Store

/-!
# A simulated world

A registry, a store of pods and a clock in memory. Failures may be queued for each kind of call; a
call takes the first one in its queue before it looks at anything else.

* `World.answer` answers the calls of a program.
* `World.apply` makes a change from outside.
-/

namespace Quiesce

/-- The failures that are to come, by the call that will take them. -/
structure Faults where
  list : List RegistryError
  /-- Results of removals; the registry stays as it is even for a success. -/
  remove : List (Except RegistryError Unit)
  get : List PodStoreError
  patch : List PodStoreError
  delete : List PodStoreError

def Faults.none : Faults := ⟨[], [], [], [], []⟩

/-- A registry, a store of pods and a clock. -/
structure World where
  clock : Instant
  runners : List Runner
  store : Store
  faults : Faults

namespace World

/-- The failure of a removal of a runner that is not there. -/
def unknownRunner (id : Int64) : RegistryError :=
  .notFound ("runner " ++ Text.intText id.toInt)

/-- Lists all runners, whatever the scope. -/
def list (w : World) : Except RegistryError (List Runner) × World :=
  match w.faults.list with
  | e :: rest => (.error e, { w with faults := { w.faults with list := rest } })
  | [] => (.ok w.runners, w)

/-- Removes every runner with that number. -/
def remove (w : World) (id : Int64) : Except RegistryError Unit × World :=
  match w.faults.remove with
  | result :: rest => (result, { w with faults := { w.faults with remove := rest } })
  | [] =>
    if w.runners.any (·.id = some id) then
      (.ok (), { w with runners := w.runners.filter fun r => r.id ≠ some id })
    else (.error (unknownRunner id), w)

def get (w : World) (namespaceName name : String) : Except PodStoreError (Option Pod) × World :=
  match w.faults.get with
  | e :: rest => (.error e, { w with faults := { w.faults with get := rest } })
  | [] => (.ok (w.store.find? namespaceName name), w)

def patch (w : World) (pod : Pod) (more : Annotations) : Except PodStoreError Pod × World :=
  match w.faults.patch with
  | e :: rest => (.error e, { w with faults := { w.faults with patch := rest } })
  | [] => ((w.store.patch pod more).1, { w with store := (w.store.patch pod more).2 })

def delete (w : World) (pod : Pod) : Except PodStoreError Unit × World :=
  match w.faults.delete with
  | e :: rest => (.error e, { w with faults := { w.faults with delete := rest } })
  | [] => ((w.store.delete pod).1, { w with store := (w.store.delete pod).2 })

def answer : Handler World
  | .list _, w => w.list
  | .remove _ id, w => w.remove id
  | .get namespaceName name, w => w.get namespaceName name
  | .patch pod more, w => w.patch pod more
  | .delete pod, w => w.delete pod
  | .now, w => (w.clock, w)

/-! ### Changes from outside -/

/-- Something that happens to the world apart from the calls. -/
inductive Change where
  | advance (d : Duration)
  | setClock (t : Instant)
  | setRunners (runners : List Runner)
  | putPod (pod : Pod)
  | dropPod (namespaceName name : String)
  | failList (e : RegistryError)
  | queueRemoval (result : Except RegistryError Unit)
  | failGet (e : PodStoreError)
  | failPatch (e : PodStoreError)
  | failDelete (e : PodStoreError)

/-- The world after a change. Failures go to the end of their queue. -/
def apply (w : World) : Change → World
  | .advance d => { w with clock := w.clock.after d }
  | .setClock t => { w with clock := t }
  | .setRunners runners => { w with runners }
  | .putPod pod => { w with store := w.store.put pod }
  | .dropPod namespaceName name => { w with store := w.store.drop namespaceName name }
  | .failList e => { w with faults := { w.faults with list := w.faults.list ++ [e] } }
  | .queueRemoval r => { w with faults := { w.faults with remove := w.faults.remove ++ [r] } }
  | .failGet e => { w with faults := { w.faults with get := w.faults.get ++ [e] } }
  | .failPatch e => { w with faults := { w.faults with patch := w.faults.patch ++ [e] } }
  | .failDelete e => { w with faults := { w.faults with delete := w.faults.delete ++ [e] } }

/-- A world at that time with these runners and pods, the pods written in their order. -/
def initial (clock : Instant) (runners : List Runner) (pods : List Pod) : World :=
  ⟨clock, runners, pods.foldl Store.put .empty, .none⟩

end World

end Quiesce
