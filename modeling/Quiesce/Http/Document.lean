import Quiesce.Http.Message
import Quiesce.Json.Record

/-!
# Requests and replies as documents

A request as a document for whoever carries it to its server, and the document in which a reply is
brought back.

* `Request.toJson` writes a request and `Reply.ofJson?` reads a reply.
-/

namespace Quiesce.Http

/-- The request as a document; headers that are not sent are `null`. -/
def Request.toJson (r : Request) : Json :=
  .ofFields [
    ("method", .ofText r.method.word),
    ("url", .ofText r.url.requestText),
    ("authorization", .ofOption .ofText r.authorization),
    ("accept", .ofText r.accept),
    ("user_agent", .ofOption .ofText r.userAgent),
    ("content_type", .ofOption .ofText r.contentType),
    ("body", .ofText r.body)]

def headerOfJson? : Json → Option (String × String)
  | .array [name, value] => do return (← name.text?, ← value.text?)
  | _ => none

def statusOfJson? (j : Json) : Option Nat :=
  (j.intBetween? 100 999).map Int.toNat

/-- The reply that a document describes: a response by its status, its headers and its body, which
is `null` if it was cut off. -/
def Reply.ofJson? (j : Json) : Option Reply := do
  let [status, headers, body] ← j.members? ["status", "headers", "body"] | none
  return .response {
    status := ← status.required? statusOfJson?
    headers := ← headers.defaulted? [] (Json.arrayOf? headerOfJson?)
    body := ← body.optional? Json.text? }

end Quiesce.Http
