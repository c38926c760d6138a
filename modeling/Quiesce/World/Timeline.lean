import Quiesce.Stop.Drain
import Quiesce.World.Basic

/-!
# A simulated world in which time passes

A world whose clock moves only while the drain sleeps, with changes from outside that are due after
given times and a limit to the whole.

* `Timeline.host` lets a drain run on a timeline.
* `Timeline.drain` drains a runner within the limit.
-/

namespace Quiesce

/-- A world, the time that has passed in it, and what is yet to happen. -/
structure Timeline where
  /-- The world, with its clock as it stood at the beginning. -/
  world : World
  elapsed : Duration
  /-- When the drain is stopped. -/
  limit : Duration
  /-- Changes in the order in which they happen, each with the time after which it is due. -/
  due : List (Duration × World.Change)

namespace Timeline

def isDue (t : Timeline) (change : Duration × World.Change) : Bool :=
  change.1 ≤ t.elapsed

/-- The timeline after the changes that are due. -/
def settled (t : Timeline) : Timeline :=
  { t with
    world := (t.due.takeWhile t.isDue).foldl (fun w change => w.apply change.2) t.world
    due := t.due.dropWhile t.isDue }

/-- The world at the present: its clock shows the time that has passed. -/
def present (t : Timeline) : World :=
  { t.world with clock := t.world.clock.after t.elapsed }

/-- Answers a call, after the changes that are due. -/
def answer : Handler Timeline
  | .now, t => (t.settled.present.clock, t.settled)
  | call, t =>
    let answered := World.answer call t.settled.world
    (answered.1, { t.settled with world := answered.2 })

/-- Lets time pass, at most until the limit. -/
def sleep (d : Duration) (t : Timeline) : Bool × Timeline :=
  if t.elapsed + d ≤ t.limit then (true, { t with elapsed := t.elapsed + d })
  else (false, { t with elapsed := t.limit })

def host : Drain.Host Timeline where
  answer := answer
  elapsed := (·.elapsed)
  sleep := sleep

/-- The number of failures that are queued. -/
def queued (f : Faults) : Nat :=
  f.list.length + f.remove.length + f.get.length + f.patch.length + f.delete.length

/-- A number of passes that no drain exceeds which waits between its passes: every wait takes at
least a nanosecond of the limit. -/
def passBound (t : Timeline) : Nat :=
  t.limit.nanoseconds + queued t.world.faults + t.due.length + 2

def drain (plan : Drain.Plan) (t : Timeline) : Drain.Report Timeline :=
  Drain.run host plan t.passBound t

end Timeline

end Quiesce
