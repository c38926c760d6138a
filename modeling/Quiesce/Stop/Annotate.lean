import Quiesce.Program
import Quiesce.Time.Timestamp

/-!
# Marks on the pod

How far the stopping of a runner has come is written on its pod, each mark at most once.

* `annotateOnce` writes an annotation that is not there yet.
* `mark` writes the present instant under a name.
-/

namespace Quiesce

/-- Writes an annotation unless there is one of that name, be it empty. The write is refused if the
pod has changed since it was read; the next attempt reads it again. -/
def annotateOnce (pod : Pod) (key value : String) : Program (Except PodStoreError Pod) :=
  if pod.hasAnnotation key then pure (.ok pod)
  else .perform (.patch pod (.single key value))

/-- The text of an instant in a mark: whole seconds. -/
def markText (t : Instant) : String :=
  Timestamp.write t .seconds

/-- Writes the present instant under a name, unless it is there already. -/
def mark (pod : Pod) (key : String) : Program (Except PodStoreError Pod) :=
  .call .now fun now => annotateOnce pod key (markText now)

end Quiesce
