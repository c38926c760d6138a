import Quiesce.Http.Message
import Quiesce.Text.Integer

/-!
# Failures of the cluster

* `PodStoreError.message` is the wording of a cause.
-/

namespace Quiesce

/-- Why a call to the store of pods failed. -/
inductive PodStoreError where
  /-- The pod has changed since it was read. -/
  | conflict (pod : String)
  | notFound (pod : String)
  /-- The cluster refused the request with a status of its own. -/
  | api (status : Nat) (text : String)
  /-- The request had no response. -/
  | transport (fault : Http.Fault)
  /-- The response was not understood. -/
  | parse (text : String)
deriving DecidableEq, Repr

namespace PodStoreError

def message : PodStoreError → String
  | .conflict pod => "pod " ++ pod ++ " was modified concurrently"
  | .notFound pod => "pod " ++ pod ++ " not found"
  | .api status text =>
    "cluster API error (status " ++ Text.natText status ++ "): " ++ text
  | .transport fault => "cluster request failed: " ++ fault.message
  | .parse text => "failed to parse pod: " ++ text

/-- The wordings of what is behind a cause, the nearest first. -/
def causes : PodStoreError → List String
  | .transport fault => fault.message :: fault.causes
  | _ => []

/-- Whether the pod has changed since it was read. -/
def isConflict : PodStoreError → Bool
  | .conflict _ => true
  | _ => false

def isNotFound : PodStoreError → Bool
  | .notFound _ => true
  | _ => false

end PodStoreError

end Quiesce
