import Quiesce.Json.Reader
import Quiesce.Registry.Failure
import Quiesce.Runner.Page
import Quiesce.Scope
import Quiesce.Text.Quoted

/-!
# The registry over HTTP

The registry lists the runners of a scope page by page and removes them one by one. A call comes to
a value or a failure, unless the process panics over a reply.

* `RegistryClient.runnersUrl` is the address of the runners of a scope.
* `RegistryClient.list` collects the pages, and `RegistryClient.remove` removes a runner.
-/

namespace Quiesce

open Http (Destination Network Reply Request Response)

/-- Where the registry is, and the token that it asks for. -/
structure RegistryClient where
  /-- The base of all URLs, without slashes at its end. -/
  base : String
  token : Option String
deriving DecidableEq, Repr

namespace RegistryClient

def ofUrl (url : String) (token : Option String) : RegistryClient :=
  ⟨Http.baseUrl url, token⟩

/-! ### Addresses -/

/-- Whether a repository is named by two parts, slashes apart. -/
def namesRepository (r : String) : Bool :=
  ((Text.segments (· = '/') r.toList).filter (!·.isEmpty)).length = 2

/-- The path of a level below the base. -/
def levelPath : Scope.Level → Except RegistryError String
  | .enterprise e => .ok ("/enterprises/" ++ e)
  | .organization o => .ok ("/orgs/" ++ o)
  | .repository r =>
    if namesRepository r then .ok ("/repos/" ++ r)
    else
      .error (.invalidRequest ("repository must be in owner/name form, got " ++ Text.quote r))

def runnersUrl (c : RegistryClient) (scope : Scope) : Except RegistryError String :=
  match scope.level? with
  | none =>
    .error (.invalidRequest "one of enterprise, organization or repository must be set")
  | some level => (levelPath level).map fun path => c.base ++ path ++ "/actions/runners"

/-- The URL of one of the runners at that URL. -/
def runnerUrl (runners : String) (id : Int64) : String :=
  runners ++ "/" ++ Text.intText id.toInt

/-! ### Requests -/

def mediaType : String := "application/vnd.github+json"

/-- The name under which the registry knows its caller. -/
def userAgent : String := "gantry-controller"

/-- How many runners are asked for at a time. -/
def pageSize : Nat := 100

/-- A request to the registry, if it can be sent there. -/
def request (method : Http.Method) (d : Destination) : Except RegistryError Request :=
  match d.check with
  | .error fault => .error (.transport fault)
  | .ok d =>
    .ok {
      method := method
      url := d.url
      authorization := d.authorization
      accept := mediaType
      userAgent := some userAgent
      contentType := none
      body := "" }

/-- The request for a page, the first being page 1. -/
def pageRequest (d : Destination) (page : Nat) : Except RegistryError Request :=
  request .get
    (d.addQuery [("per_page", Text.natText pageSize), ("page", Text.natText page)])

/-! ### Responses -/

/-- The cause of a failed response. -/
def failure (now : Int64) (r : Response) : Except Panic RegistryError :=
  RegistryError.ofFailure now r.status r.headers r.failureText

def pageOfBody? (body : Option String) : Option RunnerPage := do
  let text ← body
  let document ← Json.read text
  RunnerPage.ofJson? document

/-- The page that comes back for a request. -/
def pageOfReply (now : Int64) (sent : Request) :
    Reply → Except Panic (Except RegistryError RunnerPage)
  | .lost => .ok (.error (.transport (.unanswered sent.url)))
  | .response r =>
    if Http.isSuccess r.status then
      match pageOfBody? r.body with
      | some page => .ok (.ok page)
      | none => .ok (.error (.parse ("Failed to parse JSON response: " ++ Http.undecodableBody)))
    else (failure now r).map .error

/-- What the registry answers to a removal; a success needs no body. -/
def removalOfReply (now : Int64) (sent : Request) :
    Reply → Except Panic (Except RegistryError Unit)
  | .lost => .ok (.error (.transport (.unanswered sent.url)))
  | .response r => if Http.isSuccess r.status then .ok (.ok ()) else (failure now r).map .error

/-! ### Calls -/

/-- Whether the listing ends with a page: it is empty, or with it as many runners have been
collected as the page says there are. -/
def isLastPage (page : RunnerPage) (collected : Nat) : Bool :=
  page.runners.isEmpty || page.totalCount.toNat ≤ collected

/-- Collects pages from the given one on: what became of it, the requests sent, and the replies that
are left. A page that fails ends the listing, whatever was collected before. -/
def collectPages (now : Int64) (request : Nat → Except RegistryError Request) :
    (page : Nat) → (collected : List Runner) → List Reply →
      Except Panic (Except RegistryError (List Runner)) × List Request × List Reply
  | page, _, [] =>
    match request page with
    | .error e => (.ok (.error e), [], [])
    | .ok sent => (.ok (.error (.transport (.unanswered sent.url))), [sent], [])
  | page, collected, reply :: replies =>
    match request page with
    | .error e => (.ok (.error e), [], reply :: replies)
    | .ok sent =>
      match pageOfReply now sent reply with
      | .error panic => (.error panic, [sent], replies)
      | .ok (.error e) => (.ok (.error e), [sent], replies)
      | .ok (.ok answer) =>
        let collected := collected ++ answer.runners
        if isLastPage answer collected.length then (.ok (.ok collected), [sent], replies)
        else
          let (result, requests, replies) :=
            collectPages now request (page + 1) collected replies
          (result, sent :: requests, replies)

/-- Where requests to a URL of the registry go. -/
def destination (c : RegistryClient) (url : Except RegistryError String) :
    Except RegistryError Destination := do
  match Http.destination (← url) c.token with
  | .ok d => .ok d
  | .error fault => .error (.transport fault)

def list (c : RegistryClient) (now : Int64) (scope : Scope) (n : Network) :
    Except Panic (Except RegistryError (List Runner)) × Network :=
  match c.destination (c.runnersUrl scope) with
  | .error e => (.ok (.error e), n)
  | .ok d =>
    let (result, requests, replies) := collectPages now (pageRequest d) 1 [] n.replies
    (result, ⟨replies, n.sent ++ requests⟩)

def remove (c : RegistryClient) (now : Int64) (scope : Scope) (id : Int64) (n : Network) :
    Except Panic (Except RegistryError Unit) × Network :=
  match (c.destination ((c.runnersUrl scope).map (runnerUrl · id))).bind (request .delete) with
  | .error e => (.ok (.error e), n)
  | .ok sent =>
    let (reply, n) := n.send sent
    (removalOfReply now sent reply, n)

end RegistryClient

end Quiesce
