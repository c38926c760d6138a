import Quiesce.Json.Kept
import Quiesce.Json.Reader
import Quiesce.Registry.Error

/-!
# Failed responses of the registry

The cause that a failed response comes down to. Slowing down is said either by a status of its own
or by a refusal with an exhausted quota or with words to that effect.

To find the cause takes a difference of two machine words, of which one comes from the registry. If
the difference is no machine word, the process panics.

* `RegistryError.ofFailure` finds the cause from status, headers and body.
* `suggestedBackoff` is the time that the headers ask the caller to wait.
-/

namespace Quiesce

/-! ### Panics -/

/-- What ends the process in the middle of its work. -/
inductive Panic where
  /-- The difference of two machine words is none. -/
  | subtraction
deriving DecidableEq, Repr

def Panic.message : Panic → String
  | .subtraction => "attempt to subtract with overflow"

/-- The difference of two machine words; it is checked that it is one. -/
def difference (a b : Int64) : Except Panic Int64 :=
  if (a - b).toInt = a.toInt - b.toInt then .ok (a - b) else .error .subtraction

namespace RegistryError

open Http (Headers header?)

/-! ### Messages -/

/-- The text that the field `message` of an error document holds. -/
def documentMessage? (body : String) : Option String := do
  let document ← Json.read body
  guard (document.isKept Json.nestingLimit)
  match document with
  | .object fields =>
    -- Of repeated fields the last one counts.
    let last ← fields.reverse.find? fun f => f.1 = some "message"
    last.2.text?
  | _ => none

/-- What a failed response says: the message of an error document, else the whole body. -/
def failureMessage (body : String) : String :=
  (documentMessage? body).getD (Text.trim body)

/-! ### Slowing down -/

/-- Whether one list of characters stands somewhere inside another. -/
def occursIn (part : List Char) : List Char → Bool
  | [] => part.isEmpty
  | c :: cs => part.isPrefixOf (c :: cs) || occursIn part cs

/-- Whether a message speaks of rate limits, in ASCII letters of either case. -/
def mentionsRateLimit (message : String) : Bool :=
  occursIn "rate limit".toList (message.toList.map Char.toLower)

/-- Whether the headers say that no request is left in the quota. -/
def quotaIsExhausted (headers : Headers) : Bool :=
  header? headers "x-ratelimit-remaining" = some "0"

/-- Whether the response means that the caller is to slow down. -/
def asksToSlowDown (status : Nat) (headers : Headers) (message : String) : Bool :=
  status = 429 || (status = 403 && (quotaIsExhausted headers || mentionsRateLimit message))

/-- The seconds from the present to a moment that is not past. -/
def secondsUntil? (moment now : Int64) : Except Panic (Option Nat) :=
  (difference moment now).map fun rest => if 0 ≤ rest then some rest.toInt.toNat else none

/-- The time that the headers ask the caller to wait: `retry-after` in seconds, else the moment
`x-ratelimit-reset` in seconds since the beginning of 1970. -/
def suggestedBackoff (now : Int64) (headers : Headers) : Except Panic (Option Duration) :=
  match (header? headers "retry-after").bind fun v => (Text.readWord64 v).toOption with
  | some seconds => .ok (some (.ofSeconds seconds))
  | none =>
    match (header? headers "x-ratelimit-reset").bind fun v => (Text.readInt64 v).toOption with
    | some moment => (secondsUntil? moment now).map (·.map .ofSeconds)
    | none => .ok none

/-! ### Causes -/

/-- The cause behind a response that is not a success, `now` being the present in seconds since the
beginning of 1970. -/
def ofFailure (now : Int64) (status : Nat) (headers : Headers) (body : String) :
    Except Panic RegistryError :=
  let message := failureMessage body
  if asksToSlowDown status headers message then
    (suggestedBackoff now headers).map (.rateLimited message)
  else if status = 404 then .ok (.notFound message)
  else .ok (.api status message)

end RegistryError

end Quiesce
