import Quiesce.Http.PercentEncoding
import Quiesce.Text.Integer

/-!
# URLs

Absolute URLs in their one form: scheme and host in lower case, no default port, a path without dot
segments, and nothing left that has to be percent-encoded.

* `Url.text` writes a URL.
* `Url.addQuery` appends parameters to the query.
* `Url.takeCredentials` parts a URL from the user named in it.
-/

namespace Quiesce.Http

/-- A user named in a URL, percent-encoded. -/
structure Credentials where
  name : String
  password : Option String
deriving DecidableEq, Repr

/-- Where a URL leads to. -/
structure Authority where
  credentials : Option Credentials
  /-- The host; files and URLs outside the web may do without one. -/
  host : String
  /-- The port, if it is not the default one of the scheme. -/
  port : Option Nat
deriving DecidableEq, Repr

structure Url where
  scheme : String
  authority : Option Authority
  path : String
  query : Option String
  fragment : Option String
deriving DecidableEq, Repr

/-! ### Text -/

/-- The user as it stands before the host. -/
def Credentials.text (c : Credentials) : String :=
  c.name
    ++ (match c.password with
        | some p => ":" ++ p
        | none => "")
    ++ "@"

/-- The part of a URL between the scheme and the path. -/
def Authority.text (a : Authority) : String :=
  "//"
    ++ (match a.credentials with
        | some c => c.text
        | none => "")
    ++ a.host
    ++ (match a.port with
        | some p => ":" ++ Text.natText p
        | none => "")

namespace Url

/-- What stands before the path. Two slashes at its head would be read as the sign of an authority,
so one that has none is marked. -/
def front (u : Url) : String :=
  match u.authority with
  | some a => a.text
  | none => if u.path.toList.take 2 = ['/', '/'] then "/." else ""

/-- The URL without its fragment, which is not sent. -/
def requestText (u : Url) : String :=
  u.scheme ++ ":" ++ u.front ++ u.path
    ++ (match u.query with
        | some q => "?" ++ q
        | none => "")

def text (u : Url) : String :=
  u.requestText
    ++ (match u.fragment with
        | some f => "#" ++ f
        | none => "")

/-! ### Parts -/

def host (u : Url) : String :=
  match u.authority with
  | some a => a.host
  | none => ""

def isWeb (u : Url) : Bool :=
  u.scheme = "http" || u.scheme = "https"

/-- Appends parameters whose names and values need no encoding to the query. -/
def addQuery (u : Url) (parameters : List (String × String)) : Url :=
  let added := String.intercalate "&" (parameters.map fun p => p.1 ++ "=" ++ p.2)
  { u with
    query := some (match u.query with
      | none => added
      | some "" => added
      | some q => q ++ "&" ++ added) }

def withoutCredentials (u : Url) : Url :=
  { u with authority := u.authority.map fun a => { a with credentials := none } }

end Url

/-! ### Users -/

/-- The name and the password of a user, if the name is a text; so has to be the password of a user
without a name. -/
def Credentials.decode? (c : Credentials) : Option (String × Option String) := do
  let name ← percentDecode c.name.toList
  let password := c.password.bind fun p => percentDecode p.toList
  guard (!name.isEmpty || password.isSome)
  return (name, password)

/-- The user named in the URL, and the URL that is left. A user who cannot be decoded stays. -/
def Url.takeCredentials (u : Url) : Option (String × Option String) × Url :=
  match (u.authority.bind Authority.credentials).bind Credentials.decode? with
  | some user => (some user, u.withoutCredentials)
  | none => (none, u)

end Quiesce.Http
