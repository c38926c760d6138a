import Quiesce.Stop.Registration
import Quiesce.Stop.Tick
import Quiesce.World.Basic

/-!
# Controllers at work on one world

Any number of controllers work on the same world, and nothing orders their calls: between two calls
of one controller the others may make any number of theirs, time may go on, runners may come and go,
and failures may arise. What a controller knows of a pod it has from an earlier answer, which may be
out of date.

* `Operation` lists what a controller may begin.
* `Race` is a world with the operations under way in it; `Race.Step` is one event of a race and
  `Race.Run` any number of them.
* `Race.Reachable` are the races that come from a world in which nothing has begun.
-/

namespace Quiesce

/-! ## Operations -/

/-- What a controller may begin. -/
inductive Operation where
  /-- To fetch a pod. -/
  | get (namespaceName name : String)
  /-- To write an annotation unless it is there. -/
  | annotate (pod : Pod) (key value : String)
  /-- To record the registration of a runner on its pod. -/
  | register (target : Target) (pod : Pod)
  /-- To make a step of stopping a runner. -/
  | tick (target : Target) (timeout retryDelay : Duration) (pod : Option Pod)

namespace Operation

/-- The pod that the operation is given. -/
def pod? : Operation → Option Pod
  | .get _ _ => none
  | .annotate pod _ _ => some pod
  | .register _ pod => some pod
  | .tick _ _ _ pod => pod

/-- The operation without its value, which is its caller's own affair. -/
def program : Operation → Program Unit
  | .get namespaceName name => .call (.get namespaceName name) fun _ => .done ()
  | .annotate pod key value => (annotateOnce pod key value).bind fun _ => .done ()
  | .register target pod => (ensureRegistered target pod).bind fun _ => .done ()
  | .tick target timeout retryDelay pod =>
    (Quiesce.tick target timeout retryDelay pod).bind fun _ => .done ()

end Operation

/-- The pods that an answer hands out. -/
def Call.handedOut : (c : Call) → c.Answer → List Pod
  | .get _ _, .ok (some pod) => [pod]
  | .patch _ _, .ok pod => [pod]
  | _, _ => []

/-! ## Races -/

/-- A world, the pods that were handed out in it, and what is left of the operations that have
begun. -/
structure Race where
  world : World
  seen : List Pod
  running : List (Program Unit)

namespace Race

/-- A race in which nothing has begun. -/
def initial (clock : Instant) (runners : List Runner) (pods : List Pod) : Race :=
  ⟨World.initial clock runners pods, [], []⟩

/-- What may happen in a race. -/
inductive Event where
  | begun (op : Operation)
  | answered (c : Call) (answer : c.Answer)
  | changed (change : World.Change)

/-- One event of a race. -/
inductive Step (r : Race) : Event → Race → Prop
  /-- A controller begins an operation, on any pod that was ever handed out. -/
  | begin (op : Operation) (hseen : ∀ pod ∈ op.pod?, pod ∈ r.seen) :
      Step r (.begun op) { r with running := op.program :: r.running }
  /-- Any one of the operations under way makes its next call. -/
  | call (before after : List (Program Unit)) (c : Call) (next : c.Answer → Program Unit)
      (hrunning : r.running = before ++ .call c next :: after) :
      Step r (.answered c (World.answer c r.world).1)
        { world := (World.answer c r.world).2
          seen := c.handedOut (World.answer c r.world).1 ++ r.seen
          running := before ++ next (World.answer c r.world).1 :: after }
  /-- The world changes from outside. -/
  | change (change : World.Change) :
      Step r (.changed change) { r with world := r.world.apply change }

/-- Any number of events, one after the other. -/
inductive Run : Race → List Event → Race → Prop
  | nil (r : Race) : Run r [] r
  | cons {r r' r'' : Race} {e : Event} {events : List Event} (step : Step r e r')
      (rest : Run r' events r'') : Run r (e :: events) r''

/-- The races that come from a world in which nothing has begun. -/
def Reachable (r : Race) : Prop :=
  ∃ clock runners pods events, Run (initial clock runners pods) events r

variable {r r' : Race} {events : List Event}

/-- What every step keeps, a run keeps. -/
theorem Run.keeps {P : Race → Prop} (hstep : ∀ r e r', Step r e r' → P r → P r')
    (hrun : Run r events r') (h : P r) : P r' := by
  induction hrun with
  | nil r => exact h
  | cons step rest ih => exact ih (hstep _ _ _ step h)

/-! ## What events do to a pod -/

/-- Whether the event is anything but somebody from outside writing or dropping the pod of that
name. -/
def Event.spares (ns name : String) : Event → Prop
  | .changed (.putPod pod) => ¬(pod.namespaceName = ns ∧ pod.name = name)
  | .changed (.dropPod ns' name') => ¬(ns' = ns ∧ name' = name)
  | _ => True

/-- Whether the event is a patch that went through and wrote that annotation of the pod of that
name. -/
def Event.writes (ns name key : String) : Event → Bool
  | .answered (.patch pod more) (.ok _) => Store.isNamed ns name pod && more.contains key
  | _ => false

/-- The text of an annotation of the stored pod of that name. -/
def annotation? (r : Race) (ns name key : String) : Option String :=
  (r.world.store.find? ns name).bind (·.annotation? key)

end Race
end Quiesce
