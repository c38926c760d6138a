import Quiesce.Http.Url.Reader
import Quiesce.Text.Base64
import Quiesce.Text.Blank

/-!
# Requests and replies

What is sent over HTTP, what comes back, and what can go wrong in between.

* `header?` finds the text of a header.
* `destination` says where a request goes, and `Destination.check` whether it can be sent there.
* `Fault.message` words a request that was never answered.
-/

namespace Quiesce.Http

/-! ### Headers -/

/-- Names and values, in the order in which they came. -/
abbrev Headers := List (String × String)

/-- Whether two header names are the same; case does not count. -/
def sameName (a b : String) : Bool :=
  a.toList.map Char.toLower = b.toList.map Char.toLower

/-- Whether a header value is a text: visible ASCII, blanks and tabs only. -/
def isHeaderText (value : String) : Bool :=
  value.toList.all fun c => (0x20 ≤ c.toNat && c.toNat < 0x7f) || c = '\t'

/-- The text of a header without the blanks around it. Of repeated headers the first counts, and a
value that is no text counts as absent. -/
def header? (headers : Headers) (name : String) : Option String :=
  match headers.find? fun h => sameName h.1 name with
  | some (_, value) => if isHeaderText value then some (Text.trim value) else none
  | none => none

/-- Whether a header can hold the value: no controls but the tab. -/
def fitsHeader (value : String) : Bool :=
  value.toList.all fun c => c = '\t' || !isControl c

/-! ### Requests -/

inductive Method where
  | get
  | patch
  | delete
deriving DecidableEq, Repr

def Method.word : Method → String
  | .get => "GET"
  | .patch => "PATCH"
  | .delete => "DELETE"

structure Request where
  method : Method
  url : Url
  authorization : Option String
  accept : String
  userAgent : Option String
  contentType : Option String
  body : String
deriving DecidableEq, Repr

/-! ### Replies -/

structure Response where
  status : Nat
  headers : Headers
  /-- The text of the body, none if the connection broke inside it. -/
  body : Option String
deriving DecidableEq, Repr

inductive Reply where
  | response (r : Response)
  /-- The connection broke before an answer came. -/
  | lost
deriving DecidableEq, Repr

/-- Whether a status says that the request was carried out. -/
def isSuccess (status : Nat) : Bool :=
  200 ≤ status && status < 300

/-- The body of a failure, as far as it can be told. -/
def Response.failureText (r : Response) : String :=
  r.body.getD "Unknown error"

/-- The wording for a body that is cut or does not have the expected shape. -/
def undecodableBody : String := "error decoding response body"

/-! ### Faults -/

/-- Why a request could not be built. -/
inductive BuildFault where
  | url (e : UrlError)
  /-- The token holds a character that no header can hold. -/
  | token
deriving DecidableEq, Repr

def BuildFault.message : BuildFault → String
  | .url e => e.message
  | .token => "failed to parse header value"

/-- Why a request has no response. -/
inductive Fault where
  | unbuildable (reason : BuildFault)
  /-- The URL names no host, or its scheme is not one of the web. -/
  | schemeRefused (url : Url)
  /-- The URL is one that no request can carry. -/
  | unsendable (url : Url)
  /-- The connection could not be made or broke. -/
  | unanswered (url : Url)
deriving DecidableEq, Repr

/-- The wording of a fault, without its cause. -/
def Fault.message : Fault → String
  | .unbuildable _ => "builder error"
  | .schemeRefused url => "builder error for url (" ++ url.text ++ ")"
  | .unsendable url => "builder error for url (" ++ url.text ++ ")"
  | .unanswered url => "error sending request for url (" ++ url.text ++ ")"

/-- The wordings of the causes of a fault, the nearest first. -/
def Fault.causes : Fault → List String
  | .unbuildable reason => [reason.message]
  | .schemeRefused _ => ["URL scheme is not allowed"]
  | .unsendable _ => ["Parsed Url is not a valid Uri"]
  | .unanswered _ => []

/-! ### The network -/

/-- The replies that are to come, and the requests that have been sent, the first one first. -/
structure Network where
  replies : List Reply
  sent : List Request
deriving DecidableEq, Repr

/-- A network that answers with these replies and then with none. -/
def Network.scripted (replies : List Reply) : Network := ⟨replies, []⟩

def Network.unreachable : Network := .scripted []

def Network.send (r : Request) (n : Network) : Reply × Network :=
  match n.replies with
  | [] => (.lost, ⟨[], n.sent ++ [r]⟩)
  | reply :: replies => (reply, ⟨replies, n.sent ++ [r]⟩)

/-! ### Destinations -/

/-- The base of a service's URLs: the text without the slashes at its end. -/
def baseUrl (url : String) : String :=
  String.ofList (url.toList.reverse.dropWhile (· = '/')).reverse

/-- The authorization that a token gives. -/
def bearer (token : String) : String :=
  "Bearer " ++ token

/-- The authorization of a user by password. -/
def basic (user : String × Option String) : String :=
  let pair := user.1 ++ ":" ++ user.2.getD ""
  "Basic " ++ String.ofList (Text.base64 pair.toUTF8.toList)

/-- Where a request goes, and the authorization it goes with. -/
structure Destination where
  url : Url
  authorization : Option String
deriving DecidableEq, Repr

/-- The destination at a URL, if a request with that token can be built. A user named in the URL
comes before the token. -/
def destination (url : String) (token : Option String) : Except Fault Destination :=
  match Url.parse url with
  | .error e => .error (.unbuildable (.url e))
  | .ok u =>
    if u.host.isEmpty then .error (.schemeRefused u)
    else if !(token.all fitsHeader) then .error (.unbuildable .token)
    else
      let (user, url) := u.takeCredentials
      .ok ⟨url, (user.map basic).or (token.map bearer)⟩

/-- Whether a host is written in characters that a request can carry. -/
def isCarriedHost (host : String) : Bool :=
  host.toList.all fun c => c ≠ '"' && c.toNat ≠ 0x60 && c ≠ '\x7b' && c ≠ '\x7d'

/-- The greatest number of bytes of a URL that a request can carry. -/
def longestUrl : Nat := 65534

/-- The destination, if requests can be sent to it. -/
def Destination.check (d : Destination) : Except Fault Destination :=
  if !d.url.isWeb then .error (.schemeRefused d.url)
  else if !isCarriedHost d.url.host || d.url.text.utf8ByteSize > longestUrl then
    .error (.unsendable d.url)
  else .ok d

/-- The destination with parameters appended to its query. -/
def Destination.addQuery (d : Destination) (parameters : List (String × String)) : Destination :=
  { d with url := d.url.addQuery parameters }

end Quiesce.Http
