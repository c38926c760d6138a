import Quiesce.Http.Message
import Quiesce.Text.Integer
import Quiesce.Time.Duration

/-!
# Failures of the registry

Every failed call to the registry comes down to one cause, so that a caller can tell what to do
without looking at status codes.

* `RegistryError.message` is the wording of a cause.
-/

namespace Quiesce

/-- Why a call to the registry failed. -/
inductive RegistryError where
  /-- The registry slows its caller down, and may say for how long. -/
  | rateLimited (text : String) (resetAfter : Option Duration)
  /-- The runner, or the scope, does not exist. -/
  | notFound (text : String)
  /-- The registry refused the request with a status of its own. -/
  | api (status : Nat) (text : String)
  /-- The request had no response. -/
  | transport (fault : Http.Fault)
  /-- The response was not understood. -/
  | parse (text : String)
  /-- The request makes no sense, such as one for an empty scope. -/
  | invalidRequest (text : String)
deriving DecidableEq, Repr

namespace RegistryError

/-- The status of a runner that cannot be removed in its present state: it is still registering, or
at work on a job. -/
def unprocessable : Nat := 422

def message : RegistryError → String
  | .rateLimited text _ => "rate limited by registry: " ++ text
  | .notFound text => "not found: " ++ text
  | .api status text =>
    "registry API error (status " ++ Text.natText status ++ "): " ++ text
  | .transport fault => "registry request failed: " ++ fault.message
  | .parse text => "failed to parse registry response: " ++ text
  | .invalidRequest text => "invalid registry request: " ++ text

/-- The wordings of what is behind a cause, the nearest first. -/
def causes : RegistryError → List String
  | .transport fault => fault.message :: fault.causes
  | _ => []

/-- Whether the registry slows its caller down. -/
def isRateLimited : RegistryError → Bool
  | .rateLimited _ _ => true
  | _ => false

/-- Whether the runner or the scope does not exist. -/
def isNotFound : RegistryError → Bool
  | .notFound _ => true
  | _ => false

/-- The status of a refusal. -/
def status? : RegistryError → Option Nat
  | .api status _ => some status
  | _ => none

/-- Whether the registry refused because of the state that the runner is in. -/
def isStillRegistering (e : RegistryError) : Bool :=
  e.status? = some unprocessable

/-- Whether the registry puts the failure down to the request. -/
def isClientError (e : RegistryError) : Bool :=
  e.status?.any fun s => 400 ≤ s && s < 500

/-- Whether the registry puts the failure down to itself. -/
def isServerError (e : RegistryError) : Bool :=
  e.status?.any (500 ≤ ·)

end RegistryError

end Quiesce
