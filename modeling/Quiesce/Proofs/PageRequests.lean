import Quiesce.Proofs.Digits
import Quiesce.Proofs.Runs
import Quiesce.Services
import Quiesce.Text.Segments

/-!
# Requests for pages

A listing asks for one page after the other. Each request is a GET to the URL of the runners, and
which page it asks for stands at the end of the query: the size of a page, then its number. So a
request tells by itself which page it asks for, and the registry can answer it by that.

* `Http.Url.parameters` are the parameters of a query as a server reads them.
* `AsksForPage` says of a request that it asks for a page, and of no other by
  `AsksForPage.number_unique`.
* `RegistryClient.asksForPage_of_listRequest` is the main statement: that is what the client asks
  for.
-/

namespace Quiesce

open Http (Request Url)

/-! ## Parameters of a query -/

namespace Http

/-- The name and the value in a piece of a query, on the two sides of its first equals sign. -/
def parameter (piece : List Char) : String × String :=
  (String.ofList (piece.takeWhile (· ≠ '=')), String.ofList ((piece.dropWhile (· ≠ '=')).drop 1))

/-- The parameters of a query, which stand between ampersands; an empty piece is none. -/
def queryParameters (query : List Char) : List (String × String) :=
  ((Text.segments (· = '&') query).filter (!·.isEmpty)).map parameter

/-- The parameters of the query of a URL. -/
def Url.parameters (u : Url) : List (String × String) :=
  (u.query.map fun q => queryParameters q.toList).getD []

theorem queryParameters_append (a b : List Char) :
    queryParameters (a ++ '&' :: b) = queryParameters a ++ queryParameters b := by
  unfold queryParameters
  rw [Text.segments_append (by decide), List.filter_append, List.map_append]

/-- A name and a value are read back if they do not hold the signs that part them. -/
theorem queryParameters_pair {name value : List Char} (hname : ∀ c ∈ name, c ≠ '&' ∧ c ≠ '=')
    (hvalue : ∀ c ∈ value, c ≠ '&') :
    queryParameters (name ++ '=' :: value) = [(String.ofList name, String.ofList value)] := by
  have hpiece : ∀ c ∈ name ++ '=' :: value, decide (c = '&') = false := by
    simp only [List.mem_append, List.mem_cons, decide_eq_false_iff_not]
    rintro c (hc | rfl | hc)
    · exact (hname c hc).1
    · decide
    · exact hvalue c hc
  have hparts : ∀ c ∈ name, decide (c ≠ '=') = true := fun c hc => by simpa using (hname c hc).2
  unfold queryParameters parameter
  rw [Text.segments_eq_singleton hpiece, List.filter_cons, if_pos (by simp), List.filter_nil,
    List.map_singleton, List.takeWhile_append_of_pos hparts, List.dropWhile_append_of_pos hparts]
  simp

/-- Parameters that are added come last. -/
theorem Url.parameters_addQuery (u : Url) (added : List (String × String)) :
    (u.addQuery added).parameters = u.parameters ++
      queryParameters (String.intercalate "&" (added.map fun p => p.1 ++ "=" ++ p.2)).toList := by
  unfold addQuery parameters
  dsimp only
  generalize String.intercalate "&" (added.map fun p => p.1 ++ "=" ++ p.2) = text
  cases u.query with
  | none => rfl
  | some q =>
    by_cases hempty : q = ""
    · subst hempty
      rfl
    · have hjoined : (q ++ "&" ++ text).toList = q.toList ++ '&' :: text.toList := by
        rw [String.toList_append, String.toList_append, List.append_assoc]
        rfl
      simp only [Option.map_some, Option.getD_some]
      rw [hjoined, queryParameters_append]

/-- The URL without its query and the user named in it, who is not sent in a URL. -/
def Url.place (u : Url) : Url :=
  { u.withoutCredentials with query := none }

@[simp] theorem Url.place_addQuery (u : Url) (added : List (String × String)) :
    (u.addQuery added).place = u.place := rfl

/-- Taking the credentials out of an address does not change where it leads. -/
theorem Url.takeCredentials_place (u : Url) : u.takeCredentials.2.place = u.place := by
  unfold takeCredentials
  cases (u.authority.bind Authority.credentials).bind Credentials.decode? with
  | none => rfl
  | some user =>
    unfold place withoutCredentials
    cases u.authority with
    | none => rfl
    | some authority => rfl

@[simp] theorem Url.takeCredentials_parameters (u : Url) :
    u.takeCredentials.2.parameters = u.parameters := by
  unfold takeCredentials
  cases (u.authority.bind Authority.credentials).bind Credentials.decode? with
  | none => rfl
  | some user => rfl

/-- The check of a destination lets it through as it is. -/
theorem eq_of_check {d d' : Destination} (h : d.check = .ok d') : d' = d := by
  unfold Destination.check at h
  by_cases hweb : (!d.url.isWeb) = true
  · rw [if_pos hweb] at h
    cases h
  · rw [if_neg hweb] at h
    by_cases hcarried : (!isCarriedHost d.url.host ||
        decide (d.url.text.utf8ByteSize > longestUrl)) = true
    · rw [if_pos hcarried] at h
      cases h
    · rw [if_neg hcarried] at h
      cases h
      rfl

end Http

/-! ## Pages -/

/-- The request asks for a page of the runners at a URL: it is a GET to that place, and behind the
parameters that the URL has itself come the size of a page and the number of the page. -/
structure AsksForPage (runners : Url) (number : Nat) (sent : Request) : Prop where
  method : sent.method = .get
  place : sent.url.place = runners.place
  parameters : sent.url.parameters =
    runners.parameters ++ [("per_page", "100"), ("page", Text.natText number)]

/-- The number at the end of the query of a request. -/
def askedPage (sent : Request) : Nat :=
  Nat.ofDigitChars 10 ((sent.url.parameters.getLast?.map (·.2)).getD "").toList 0

/-- A server that goes by the number at the end of the query answers with the page that the request
asks for. -/
theorem AsksForPage.askedPage_eq {runners : Url} {number : Nat} {sent : Request}
    (h : AsksForPage runners number sent) : askedPage sent = number := by
  have hlast : sent.url.parameters.getLast? = some ("page", Text.natText number) := by
    rw [h.parameters, List.getLast?_append]
    rfl
  unfold askedPage Text.natText at *
  rw [hlast, Option.map_some, Option.getD_some, String.toList_ofList,
    Nat.ofDigitChars_ten_toDigits]

/-- A request asks for one page only. -/
theorem AsksForPage.number_unique {runners runners' : Url} {m n : Nat} {sent : Request}
    (hm : AsksForPage runners m sent) (hn : AsksForPage runners' n sent) : m = n :=
  hm.askedPage_eq.symm.trans hn.askedPage_eq

/-- The parameters of a page as they are written, which are read back. -/
theorem queryParameters_page (number : Nat) :
    Http.queryParameters (String.intercalate "&"
        ([("per_page", Text.natText RegistryClient.pageSize), ("page", Text.natText number)].map
          fun p => p.1 ++ "=" ++ p.2)).toList =
      [("per_page", "100"), ("page", Text.natText number)] := by
  have hdigits : ∀ c ∈ Nat.toDigits 10 number, c ≠ '&' := by
    rintro c hc rfl
    exact absurd (Text.isDigit_of_mem_toDigits _ hc) (by decide)
  have hwritten : (Text.natText number).toList = Nat.toDigits 10 number := String.toList_ofList
  show Http.queryParameters ("per_page=100&page=" ++ Text.natText number).toList = _
  rw [String.toList_append, hwritten]
  show Http.queryParameters ("per_page=100".toList ++ '&' ::
    ("page".toList ++ '=' :: Nat.toDigits 10 number)) = _
  rw [Http.queryParameters_append, Http.queryParameters_pair (by simp) hdigits]
  rfl

namespace RegistryClient

variable {client : RegistryClient} {scope : Scope} {number : Nat} {sent : Request}

/-- The request for a page of the runners of a scope, if it can be sent. -/
def listRequest (client : RegistryClient) (scope : Scope) (number : Nat) :
    Except RegistryError Request :=
  (client.destination (client.runnersUrl scope)).bind (pageRequest · number)

/-- The client has that URL for the runners of a scope. -/
def ListsAt (client : RegistryClient) (scope : Scope) (runners : Url) : Prop :=
  ∃ text, client.runnersUrl scope = .ok text ∧ Url.parse text = .ok runners

/-- The runners of a scope are listed in one place. -/
theorem ListsAt.unique {runners runners' : Url} (h : client.ListsAt scope runners)
    (h' : client.ListsAt scope runners') : runners = runners' := by
  obtain ⟨text, htext, hparse⟩ := h
  obtain ⟨text', htext', hparse'⟩ := h'
  rw [htext] at htext'
  cases htext'
  rw [hparse] at hparse'
  exact Except.ok.inj hparse'

/-- A request for a page can only be sent if the listing has a destination. -/
theorem exists_destination (h : client.listRequest scope number = .ok sent) :
    ∃ d, client.destination (client.runnersUrl scope) = .ok d := by
  unfold listRequest at h
  cases hd : client.destination (client.runnersUrl scope) with
  | error e =>
    rw [hd] at h
    cases h
  | ok d => exact ⟨d, rfl⟩

/-- A destination is where the runners are listed; a user named in the URL is taken from it. -/
theorem listsAt_of_destination {d : Http.Destination}
    (h : client.destination (client.runnersUrl scope) = .ok d) :
    ∃ runners, client.ListsAt scope runners ∧ d.url = runners.takeCredentials.2 := by
  unfold destination at h
  cases hurl : client.runnersUrl scope with
  | error e =>
    rw [hurl] at h
    cases h
  | ok text =>
    rw [hurl] at h
    dsimp only [bind, Except.bind] at h
    unfold Http.destination at h
    cases hparse : Url.parse text with
    | error e =>
      rw [hparse] at h
      cases h
    | ok runners =>
      rw [hparse] at h
      dsimp only at h
      refine ⟨runners, ⟨text, hurl, hparse⟩, ?_⟩
      by_cases hhost : runners.host.isEmpty = true
      · rw [if_pos hhost] at h
        cases h
      · rw [if_neg hhost] at h
        by_cases htoken : (!client.token.all Http.fitsHeader) = true
        · rw [if_pos htoken] at h
          cases h
        · rw [if_neg htoken] at h
          cases h
          rfl

/-- What is sent goes where it was meant to. -/
theorem request_eq_ok {method : Http.Method} {d : Http.Destination}
    (h : request method d = .ok sent) : sent.method = method ∧ sent.url = d.url := by
  unfold request at h
  cases hcheck : d.check with
  | error fault =>
    rw [hcheck] at h
    cases h
  | ok d' =>
    rw [hcheck] at h
    cases h
    exact ⟨rfl, congrArg Http.Destination.url (Http.eq_of_check hcheck)⟩

/-- **What the client asks for.** The request for a page of the runners of a scope is one at the URL
that the client has for them. -/
theorem asksForPage_of_listRequest (h : client.listRequest scope number = .ok sent) :
    ∃ runners, client.ListsAt scope runners ∧ AsksForPage runners number sent := by
  obtain ⟨d, hd⟩ := exists_destination h
  obtain ⟨runners, hlists, hurl⟩ := listsAt_of_destination hd
  unfold listRequest at h
  rw [hd] at h
  obtain ⟨hmethod, hsent⟩ := request_eq_ok h
  refine ⟨runners, hlists, hmethod, ?_, ?_⟩
  · rw [hsent]
    show (d.url.addQuery _).place = _
    rw [Url.place_addQuery, hurl, Url.takeCredentials_place]
  · rw [hsent]
    show (d.url.addQuery _).parameters = _
    rw [Url.parameters_addQuery, hurl, Url.takeCredentials_parameters, queryParameters_page]

/-- The request for a page goes to the place where the runners are listed, and asks for that page.
-/
theorem ListsAt.asksForPage {runners : Url} (hat : client.ListsAt scope runners)
    (h : client.listRequest scope number = .ok sent) : AsksForPage runners number sent := by
  obtain ⟨runners', hat', hasks⟩ := asksForPage_of_listRequest h
  rwa [hat.unique hat']

end RegistryClient

/-- A registry over plain HTTP, and the cluster beside it. -/
def plainServices : Services :=
  ⟨⟨"http://registry.test", none⟩, ⟨"http://cluster.test", none⟩⟩

/-- Where it lists the runners of an organization. -/
def plainRunners : Url :=
  ⟨"http", some ⟨none, "registry.test", none⟩, "/orgs/acme/actions/runners", none, none⟩

/-- The address of the organization that the examples are about. -/
theorem plainServices_listsAt :
    plainServices.registry.ListsAt (.ofOrganization "acme") plainRunners :=
  ⟨"http://registry.test/orgs/acme/actions/runners", by rfl, by rfl⟩

/-- Its first two pages can be asked for. -/
theorem plainServices_sent {count : Nat} (hcount : count ≤ 2) :
    ∃ sent : Nat → Request, ∀ number, 1 ≤ number → number ≤ count →
      plainServices.registry.listRequest (.ofOrganization "acme") number = .ok (sent number) := by
  obtain ⟨first, hfirst⟩ := exists_of_isOk (by decide +kernel :
    (plainServices.registry.listRequest (.ofOrganization "acme") 1).isOk = true)
  obtain ⟨second, hsecond⟩ := exists_of_isOk (by decide +kernel :
    (plainServices.registry.listRequest (.ofOrganization "acme") 2).isOk = true)
  refine ⟨fun number => if number = 1 then first else second, fun number hlow hhigh => ?_⟩
  obtain rfl | rfl : number = 1 ∨ number = 2 := by omega
  · exact hfirst
  · exact hsecond

end Quiesce
