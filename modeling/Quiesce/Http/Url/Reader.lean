import Quiesce.Http.Host
import Quiesce.Http.Path
import Quiesce.Http.Url

/-!
# Reading URLs

What a text has to look like to be an absolute URL. URLs of the network name a host behind any
number of slashes, files may name one behind two, and for all other schemes two slashes say that
there is one.

* `Url.parse` finds the URL that a text stands for, or says why there is none.
-/

namespace Quiesce.Http

open Text (numberIn?)

/-! ### Schemes -/

/-- The scheme, in lower case, and what follows its colon. -/
def scheme? (cs : List Char) : Option (List Char × List Char) :=
  let word := cs.takeWhile fun c => c.isAlphanum || c = '+' || c = '-' || c = '.'
  match word, cs.drop word.length with
  | first :: _, ':' :: rest => if first.isAlpha then some (word.map Char.toLower, rest) else none
  | _, _ => none

/-- How the URLs of a scheme are put together. -/
inductive SchemeKind where
  /-- They always name a host; the port is the one that need not be written. -/
  | network (port : Nat)
  | file
  | free
deriving DecidableEq, Repr

namespace SchemeKind

def ofScheme (scheme : List Char) : SchemeKind :=
  match String.ofList scheme with
  | "http" => .network 80
  | "ws" => .network 80
  | "https" => .network 443
  | "wss" => .network 443
  | "ftp" => .network 21
  | "file" => .file
  | _ => .free

/-- Whether the character separates the segments of a path. -/
def isSlash (k : SchemeKind) (c : Char) : Bool :=
  c = '/' || (k ≠ .free && c = '\\')

/-- Whether the character has to be encoded in a query. -/
def unfitInQuery (k : SchemeKind) (c : Char) : Bool :=
  Http.unfitInQuery c || (k ≠ .free && c = '\'')

def readHost (k : SchemeKind) (cs : List Char) : Except UrlError String :=
  if k = .free then Host.opaqueText cs else Host.normalize cs

end SchemeKind

/-! ### Users, hosts and ports -/

/-- What stands before the last `@`, and what follows it. -/
def splitUser (cs : List Char) : Option (List Char) × List Char :=
  let address := (cs.reverse.takeWhile (· ≠ '@')).reverse
  if address.length = cs.length then (none, cs)
  else (some (cs.take (cs.length - address.length - 1)), address)

def readCredentials (cs : List Char) : Option Credentials :=
  let name := cs.takeWhile (· ≠ ':')
  let password := cs.drop (name.length + 1)
  let encoded (part : List Char) := String.ofList (percentEncode unfitInUser part)
  if name.isEmpty && password.isEmpty then none
  else some ⟨encoded name, if password.isEmpty then none else some (encoded password)⟩

/-- The host, and the rest from the colon of the port on; colons in brackets are the host's. -/
def splitHost (inBrackets : Bool) : List Char → List Char × List Char
  | [] => ([], [])
  | c :: cs =>
    if c = ':' && !inBrackets then ([], c :: cs)
    else
      let (host, rest) := splitHost (c = '[' || (inBrackets && c ≠ ']')) cs
      (c :: host, rest)

/-- The port behind its colon, none if it is left out or need not be written. A backslash ends it,
and what follows is left. -/
def readPort (k : SchemeKind) : List Char → Except UrlError (Option Nat × List Char)
  | ':' :: cs =>
    let digits := cs.takeWhile Char.isDigit
    let rest := cs.drop digits.length
    if !rest.isEmpty && rest.head? ≠ some '\\' then .error .badPort
    else if digits.isEmpty then .ok (none, rest)
    else
      match numberIn? 10 digits with
      | some port =>
        if port > 65535 then .error .badPort
        else .ok (if k = .network port then none else some port, rest)
      | none => .error .badPort
  | _ => .ok (none, [])

/-- Reads where a URL leads to, and what is left of the text for the path. A user or a port needs a
host. -/
def readAuthority (k : SchemeKind) (cs : List Char) : Except UrlError (Authority × List Char) := do
  let place := cs.takeWhile (!k.isSlash ·)
  let (user, address) := splitUser place
  let (hostText, portText) := splitHost false address
  if user.isSome && address.isEmpty then throw .emptyHost
  let host ← k.readHost hostText
  let credentials := user.bind readCredentials
  if host.isEmpty && !portText.isEmpty then throw .emptyHost
  let (port, rest) ← readPort k portText
  if host.isEmpty && credentials.isSome then throw .emptyHost
  return (⟨credentials, host, port⟩, rest ++ cs.drop place.length)

/-! ### Files -/

/-- The host of a file and the text of its path. The letter of a drive is no host, and this
computer need not be named. -/
def readFileHost (cs : List Char) : Except UrlError (String × List Char) :=
  let isSlash := SchemeKind.file.isSlash
  match cs with
  | a :: b :: rest =>
    if isSlash a && isSlash b then
      let host := rest.takeWhile (!isSlash ·)
      if host.isEmpty || (driveLetter? host).isSome then .ok ("", rest)
      else
        match Host.normalize host with
        | .ok name => .ok (if name = "localhost" then "" else name, rest.drop host.length)
        | .error e => .error e
    else .ok ("", cs)
  | _ => .ok ("", cs)

/-- Reads the URL of a file as far as its query. A path that begins at a drive drops the host. -/
def readFile (cs : List Char) : Except UrlError (Authority × List Char) := do
  let (host, pathText) ← readFileHost cs
  let (path, hasDrive) := normalFilePath SchemeKind.file.isSlash pathText
  return (⟨none, if hasDrive then "" else host, none⟩, path)

/-! ### URLs -/

/-- Reads what stands between the scheme and the query. -/
def readHierarchy (k : SchemeKind) (cs : List Char) :
    Except UrlError (Option Authority × List Char) :=
  match k, cs with
  | .network _, cs => do
    let (authority, rest) ← readAuthority k (cs.dropWhile k.isSlash)
    return (some authority, normalPath k.isSlash rest)
  | .file, cs => do
    let (authority, path) ← readFile cs
    return (some authority, path)
  | .free, '/' :: '/' :: cs => do
    let (authority, rest) ← readAuthority k cs
    return (some authority, if rest.isEmpty then [] else normalPath k.isSlash rest)
  | .free, '/' :: cs => .ok (none, normalPath k.isSlash ('/' :: cs))
  | .free, cs => .ok (none, percentEncode isControl cs)

/-- The text without controls and blanks at its ends, and without the line breaks and tabs inside. -/
def cleaned (cs : List Char) : List Char :=
  let trimmed := ((cs.dropWhile (·.toNat ≤ 0x20)).reverse.dropWhile (·.toNat ≤ 0x20)).reverse
  trimmed.filter fun c => c ≠ '\t' && c ≠ '\n' && c ≠ '\r'

/-- What stands before the mark, and what follows the first one. -/
def splitMark (mark : Char) (cs : List Char) : List Char × Option (List Char) :=
  let before := cs.takeWhile (· ≠ mark)
  (before, if before.length = cs.length then none else some (cs.drop (before.length + 1)))

def Url.parse (s : String) : Except UrlError Url := do
  let some (scheme, rest) := scheme? (cleaned s.toList) | throw .relative
  let k := SchemeKind.ofScheme scheme
  let (rest, fragment) := splitMark '#' rest
  let (rest, query) := splitMark '?' rest
  let (authority, path) ← readHierarchy k rest
  return {
    scheme := String.ofList scheme
    authority
    path := String.ofList path
    query := query.map fun q => String.ofList (percentEncode k.unfitInQuery q)
    fragment := fragment.map fun f => String.ofList (percentEncode unfitInFragment f) }

end Quiesce.Http
