import Quiesce.Cluster.Error
import Quiesce.Registry.Error
import Quiesce.Text.Integer
import Quiesce.Text.Quoted
import Quiesce.Time.Timestamp

/-!
# What can hold up the stopping of a runner

Failures of the registry and of the cluster, and marks on the pod that cannot be read.

* `StopError.message` is the wording of a cause, and `StopError.fullMessage` adds what is behind it.
-/

namespace Quiesce

/-- Why a step of stopping or registering a runner did not go through. -/
inductive StopError where
  | registry (e : RegistryError)
  | podStore (e : PodStoreError)
  /-- The number recorded for the runner is not an integer. -/
  | invalidRunnerId (value : String) (reason : Text.IntegerError)
  /-- An instant recorded on the pod is not a timestamp. -/
  | invalidTimestamp (key value : String) (reason : Timestamp.ReadError)
deriving DecidableEq, Repr

namespace StopError

def message : StopError → String
  | .registry e => e.message
  | .podStore e => e.message
  | .invalidRunnerId value reason =>
    "invalid runner id annotation " ++ Text.quote value ++ ": " ++ reason.message
  | .invalidTimestamp key value reason =>
    "invalid timestamp in annotation " ++ key ++ " (" ++ Text.quote value ++ "): " ++ reason.message

/-- The wordings of what is behind a cause, the nearest first. -/
def causes : StopError → List String
  | .registry e => e.causes
  | .podStore e => e.causes
  | .invalidRunnerId _ reason => [reason.message]
  | .invalidTimestamp _ _ reason => [reason.message]

/-- The wording of a cause and of everything behind it. -/
def fullMessage (e : StopError) : String :=
  String.intercalate ": " (e.message :: e.causes)

/-- Whether a pod had changed since it was read. -/
def isConflict : StopError → Bool
  | .podStore e => e.isConflict
  | _ => false

end StopError

end Quiesce
