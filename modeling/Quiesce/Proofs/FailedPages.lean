import Mathlib.Data.List.Nodup
import Quiesce.Proofs.Backoff
import Quiesce.Proofs.Listing

/-!
# Listings that fail

Nothing is known about the replies to the requests for the pages of a listing: they may be lost,
refuse the request, or show pages that contradict each other. The listing goes on from one page to
the next until a page ends it, by being empty or by giving a number of runners that have been
collected by then, or until a page fails; it then fails as that page does, and what was collected
before is given up. One kind of page has no cause to fail with, for the process panics over it.

* `Fails` and `Panics` are the replies that show no page.
* `GoesOn` are the pages after which another one is asked for, one step after the other.
* `Listed` are the ways in which a listing ends.
* `listing_ends_with_a_page` is the main statement: a listing ends in one of these ways, and each of
  them is how it ends. `listing_panics_over_bygone_page` is a listing that does not fail as its page
  does.
-/

namespace Quiesce

open Http (Request Reply)
open RegistryError (Says SlowsDown Overflows)

namespace RegistryClient

/-! ## Replies -/

/-- The cause that a request fails with for its reply. -/
inductive Fails (now : Int64) (sent : Request) : Reply → RegistryError → Prop
  | lost : Fails now sent .lost (.transport (.unanswered sent.url))
  | refused {r : Http.Response} {e : RegistryError} (hstatus : Http.isSuccess r.status = false)
      (hcause : RegistryError.ofFailure now r.status r.headers r.failureText = .ok e) :
      Fails now sent (.response r) e
  | undecodable {r : Http.Response} (hstatus : Http.isSuccess r.status = true)
      (hbody : pageOfBody? r.body = none) :
      Fails now sent (.response r)
        (.parse ("Failed to parse JSON response: " ++ Http.undecodableBody))

/-- The process panics over a reply: it means to slow down, until a moment whose distance from the
present is no machine word. -/
inductive Panics (now : Int64) : Reply → Panic → Prop
  | overflow {r : Http.Response} {message : String} (tells : Says r.failureText message)
      (slows : SlowsDown r.status r.headers message)
      (overflows : Overflows now.toInt r.headers) : Panics now (.response r) .subtraction

variable {now : Int64} {sent : Request} {reply : Reply} {page : RunnerPage} {e : RegistryError}
  {panic : Panic}

theorem pageOfReply_of_fails (h : Fails now sent reply e) :
    pageOfReply now sent reply = .ok (.error e) := by
  unfold pageOfReply
  cases h with
  | lost => rfl
  | refused hstatus hcause =>
    dsimp only
    rw [if_neg (by simp [hstatus]), failure, hcause]
    rfl
  | undecodable hstatus hbody =>
    dsimp only
    rw [if_pos hstatus, hbody]

/-- A response that means to slow down is no success. -/
theorem isSuccess_of_slowsDown {status : Nat} {headers : Http.Headers} {message : String}
    (h : SlowsDown status headers message) : Http.isSuccess status = false := by
  have hstatus := RegistryError.status_of_slowsDown h
  unfold Http.isSuccess
  rw [Bool.and_eq_false_iff, decide_eq_false_iff_not, decide_eq_false_iff_not]
  omega

theorem pageOfReply_of_panics (h : Panics now reply panic) :
    pageOfReply now sent reply = .error panic := by
  obtain ⟨tells, slows, overflows⟩ := h
  have hpanics := RegistryError.ofFailure_of_slowsDown now tells slows
  rw [RegistryError.suggestedBackoff_of_overflows overflows] at hpanics
  unfold pageOfReply
  dsimp only
  rw [if_neg (by simp [isSuccess_of_slowsDown slows]), failure, hpanics]
  rfl

/-- A reply shows a page or fails, or the process panics over it, and there is nothing else. -/
theorem shows_or_fails_or_panics (now : Int64) (sent : Request) (reply : Reply) :
    (∃ page, Shows reply page) ∨ (∃ e, Fails now sent reply e) ∨
      ∃ panic, Panics now reply panic := by
  cases reply with
  | lost => exact .inr (.inl ⟨_, .lost⟩)
  | response r =>
    cases hstatus : Http.isSuccess r.status with
    | false =>
      right
      cases hcause : RegistryError.ofFailure now r.status r.headers r.failureText with
      | ok e => exact .inl ⟨e, .refused hstatus hcause⟩
      | error panic =>
        obtain ⟨slows, overflows⟩ := RegistryError.ofFailure_eq_error_iff.1 hcause
        exact .inr ⟨_, .overflow (RegistryError.says_iff.2 rfl) slows overflows⟩
    | true =>
      cases hbody : pageOfBody? r.body with
      | none => exact .inr (.inl ⟨_, .undecodable hstatus hbody⟩)
      | some page => exact .inl ⟨page, r, rfl, hstatus, hbody⟩

/-- A page is the last if it is empty or if the total that it states has been collected. -/
theorem isLastPage_true_iff {collected : Nat} :
    isLastPage page collected = true ↔ page.runners = [] ∨ page.totalCount.toNat ≤ collected := by
  unfold isLastPage
  rw [Bool.or_eq_true, List.isEmpty_iff, decide_eq_true_iff]

/-! ## The ways of a listing -/

/-- The runners on some pages. -/
def runnersOn (pages : List RunnerPage) : List Runner :=
  pages.flatMap (·.runners)

theorem runnersOn_concat (pages : List RunnerPage) (page : RunnerPage) :
    runnersOn (pages ++ [page]) = runnersOn pages ++ page.runners := by
  unfold runnersOn
  rw [List.flatMap_append, List.flatMap_singleton]

/-- Pages after which another page is asked for, with their requests and replies: none of them is
empty, and after each of them fewer runners have been collected than it says there are. -/
inductive GoesOn (request : Nat → Except RegistryError Request) :
    List RunnerPage → List Request → List Reply → Prop
  | start : GoesOn request [] [] []
  | next {pages : List RunnerPage} {requests : List Request} {replies : List Reply}
      {page : RunnerPage} {sent : Request} {reply : Reply}
      (before : GoesOn request pages requests replies)
      (asked : request (pages.length + 1) = .ok sent) (shown : Shows reply page)
      (nonempty : page.runners ≠ [])
      (more : (runnersOn (pages ++ [page])).length < page.totalCount.toNat) :
      GoesOn request (pages ++ [page]) (requests ++ [sent]) (replies ++ [reply])

/-- The ways in which a listing ends over some replies, all that come after them being lost: what
becomes of it, the requests sent, and the replies that are left. -/
inductive Listed (request : Nat → Except RegistryError Request) (now : Int64) :
    List Reply → Except Panic (Except RegistryError (List Runner)) → List Request → List Reply →
      Prop
  /-- A page is the last one. -/
  | complete {pages : List RunnerPage} {requests : List Request} {replies later : List Reply}
      {page : RunnerPage} {sent : Request} {reply : Reply}
      (before : GoesOn request pages requests replies)
      (asked : request (pages.length + 1) = .ok sent) (shown : Shows reply page)
      (last : page.runners = [] ∨
        page.totalCount.toNat ≤ (runnersOn (pages ++ [page])).length) :
      Listed request now (replies ++ reply :: later) (.ok (.ok (runnersOn (pages ++ [page]))))
        (requests ++ [sent]) later
  /-- A page fails. -/
  | broken {pages : List RunnerPage} {requests : List Request} {replies later : List Reply}
      {sent : Request} {e : RegistryError} (before : GoesOn request pages requests replies)
      (asked : request (pages.length + 1) = .ok sent)
      (fails : Fails now sent (later.head?.getD .lost) e) :
      Listed request now (replies ++ later) (.ok (.error e)) (requests ++ [sent]) later.tail
  /-- The process panics over a page. -/
  | panicked {pages : List RunnerPage} {requests : List Request} {replies later : List Reply}
      {sent : Request} {reply : Reply} {panic : Panic}
      (before : GoesOn request pages requests replies)
      (asked : request (pages.length + 1) = .ok sent) (panics : Panics now reply panic) :
      Listed request now (replies ++ reply :: later) (.error panic) (requests ++ [sent]) later
  /-- A page cannot be asked for. -/
  | unsent {pages : List RunnerPage} {requests : List Request} {replies later : List Reply}
      {e : RegistryError} (before : GoesOn request pages requests replies)
      (unasked : request (pages.length + 1) = .error e) :
      Listed request now (replies ++ later) (.ok (.error e)) requests later

variable {request : Nat → Except RegistryError Request} {pages : List RunnerPage}
  {requests : List Request} {replies script left : List Reply}
  {result : Except Panic (Except RegistryError (List Runner))}

/-! ## The loop takes these ways -/

/-- As long as the listing goes on, the loop comes to the next page with what it has collected. -/
theorem GoesOn.collectPages_eq (now : Int64) (h : GoesOn request pages requests replies)
    (later : List Reply) :
    collectPages now request 1 [] (replies ++ later) =
      let rest := collectPages now request (pages.length + 1) (runnersOn pages) later
      (rest.1, requests ++ rest.2.1, rest.2.2) := by
  induction h generalizing later with
  | start => rfl
  | @next pages requests replies page sent reply before asked shown nonempty more ih =>
    have hgoes : ¬isLastPage page (runnersOn (pages ++ [page])).length = true := by
      rw [isLastPage_true_iff]
      exact not_or.2 ⟨nonempty, Nat.not_le.2 more⟩
    rw [List.append_assoc, List.singleton_append, ih,
      collectPages_shown now (runnersOn pages) later asked shown]
    dsimp only
    rw [← runnersOn_concat, if_neg hgoes, List.length_append, List.length_singleton,
      List.append_assoc, List.singleton_append]

/-- At a reply that fails the loop ends, whatever it has collected. -/
theorem collectPages_fails {number : Nat} (collected : List Runner) (later : List Reply)
    (asked : request number = .ok sent) (fails : Fails now sent (later.head?.getD .lost) e) :
    collectPages now request number collected later = (.ok (.error e), [sent], later.tail) := by
  cases later with
  | nil =>
    cases fails
    rw [collectPages, asked]
    rfl
  | cons reply later =>
    rw [collectPages, asked]
    dsimp only
    rw [pageOfReply_of_fails (show Fails now sent reply e from fails)]
    rfl

/-- Over a reply that the process panics at it ends too. -/
theorem collectPages_panics {number : Nat} (collected : List Runner) (later : List Reply)
    (asked : request number = .ok sent) (panics : Panics now reply panic) :
    collectPages now request number collected (reply :: later) =
      (.error panic, [sent], later) := by
  rw [collectPages, asked]
  dsimp only
  rw [pageOfReply_of_panics panics]

/-- A page that cannot be asked for ends the listing before anything is sent. -/
theorem collectPages_unsent {number : Nat} (collected : List Runner) (later : List Reply)
    (unasked : request number = .error e) :
    collectPages now request number collected later = (.ok (.error e), [], later) := by
  cases later with
  | nil => rw [collectPages, unasked]
  | cons reply later => rw [collectPages, unasked]

/-- Each way is the one that the loop takes. -/
theorem Listed.collectPages_eq (h : Listed request now script result requests left) :
    collectPages now request 1 [] script = (result, requests, left) := by
  cases h with
  | @complete pages _ _ _ page _ _ before asked shown last =>
    rw [before.collectPages_eq now, collectPages_shown now _ _ asked shown]
    dsimp only
    rw [← runnersOn_concat, if_pos (isLastPage_true_iff.2 last)]
  | broken before asked fails =>
    rw [before.collectPages_eq now, collectPages_fails _ _ asked fails]
  | panicked before asked panics =>
    rw [before.collectPages_eq now, collectPages_panics _ _ asked panics]
  | unsent before unasked =>
    rw [before.collectPages_eq now, collectPages_unsent _ _ unasked]
    dsimp only
    rw [List.append_nil]

/-- **From any page on the loop takes one of the ways.** The induction is on the replies that are
left: either the next one ends the listing, or the listing goes on with one page more. -/
theorem GoesOn.exists_listed (now : Int64) (h : GoesOn request pages requests replies)
    (later : List Reply) :
    ∃ result all left, Listed request now (replies ++ later) result all left := by
  induction later generalizing pages requests replies with
  | nil =>
    cases hrequest : request (pages.length + 1) with
    | error e => exact ⟨_, _, _, .unsent h hrequest⟩
    | ok sent => exact ⟨_, _, _, .broken h hrequest .lost⟩
  | cons reply later ih =>
    cases hrequest : request (pages.length + 1) with
    | error e => exact ⟨_, _, _, .unsent h hrequest⟩
    | ok sent =>
      rcases shows_or_fails_or_panics now sent reply with ⟨page, shown⟩ | ⟨e, fails⟩ |
        ⟨panic, panics⟩
      · by_cases last : page.runners = [] ∨
          page.totalCount.toNat ≤ (runnersOn (pages ++ [page])).length
        · exact ⟨_, _, _, .complete h hrequest shown last⟩
        · obtain ⟨nonempty, more⟩ := not_or.1 last
          have hnext := ih (.next h hrequest shown nonempty (Nat.not_le.1 more))
          rwa [List.append_assoc, List.singleton_append] at hnext
      · exact ⟨_, _, _, .broken h hrequest fails⟩
      · exact ⟨_, _, _, .panicked h hrequest panics⟩

/-! ## Requests -/

/-- With the next page the requests are those for one page more. -/
theorem requests_concat {n : Nat}
    (h : requests.map .ok = (List.range' 1 n).map request) (asked : request (n + 1) = .ok sent) :
    (requests ++ [sent]).map .ok = (List.range' 1 (n + 1)).map request := by
  rw [List.map_append, h, List.range'_1_concat, List.map_append, List.map_singleton,
    List.map_singleton, Nat.add_comm 1, asked]

/-- The requests of a listing that goes on are those of its pages, in order. -/
theorem GoesOn.requests_eq (h : GoesOn request pages requests replies) :
    requests.map .ok = (List.range' 1 pages.length).map request := by
  induction h with
  | start => rfl
  | next before asked shown nonempty more ih =>
    rw [List.length_append, List.length_singleton]
    exact requests_concat ih asked

/-- No page is left out, and none is asked for again. -/
theorem Listed.requests_eq (h : Listed request now script result requests left) :
    requests.map .ok = (List.range' 1 requests.length).map request := by
  have hnumbers : ∃ n, requests.map .ok = (List.range' 1 n).map request := by
    cases h with
    | complete before asked shown last => exact ⟨_, requests_concat before.requests_eq asked⟩
    | broken before asked fails => exact ⟨_, requests_concat before.requests_eq asked⟩
    | panicked before asked panics => exact ⟨_, requests_concat before.requests_eq asked⟩
    | unsent before unasked => exact ⟨_, before.requests_eq⟩
  obtain ⟨n, hn⟩ := hnumbers
  have hlength := congrArg List.length hn
  rw [List.length_map, List.length_map, List.length_range'] at hlength
  rwa [hlength]

end RegistryClient

/-! ## Calls -/

open RegistryClient (Listed GoesOn)

section Call

variable {services : Services} {scope : Scope} {c : Connection}
  {result : Except Panic (Except RegistryError (List Runner))} {requests : List Request}
  {left : List Reply}

/-- The loop over the pages is all that a listing does, also if it has nowhere to go: its first page
cannot be asked for then. -/
theorem list_eq_of_collectPages
    (h : RegistryClient.collectPages (Services.unixNow c) (services.registry.listRequest scope) 1 []
      c.network.replies = (result, requests, left)) :
    services.registry.list (Services.unixNow c) scope c.network =
      (result, ⟨left, c.network.sent ++ requests⟩) := by
  unfold RegistryClient.list
  cases hd : services.registry.destination (services.registry.runnersUrl scope) with
  | ok d =>
    have hrequest : services.registry.listRequest scope = RegistryClient.pageRequest d := by
      funext number
      unfold RegistryClient.listRequest
      rw [hd]
      rfl
    dsimp only
    rw [← hrequest, h]
  | error e =>
    have hrequest : services.registry.listRequest scope 1 = .error e := by
      unfold RegistryClient.listRequest
      rw [hd]
      rfl
    rw [RegistryClient.collectPages_unsent [] c.network.replies hrequest] at h
    cases h
    rw [List.append_nil]

/-- The runners are listed in one of the ways. -/
theorem exists_listed (services : Services) (scope : Scope) (c : Connection) :
    ∃ result requests left,
      Listed (services.registry.listRequest scope) (Services.unixNow c) c.network.replies
        result requests left :=
  GoesOn.exists_listed (Services.unixNow c) .start c.network.replies

/-- The runners are listed in a way exactly if that is what listing them comes to. -/
theorem list_eq_iff :
    services.registry.list (Services.unixNow c) scope c.network =
        (result, ⟨left, c.network.sent ++ requests⟩) ↔
      Listed (services.registry.listRequest scope) (Services.unixNow c) c.network.replies
        result requests left := by
  refine ⟨fun hlist => ?_, fun h => list_eq_of_collectPages h.collectPages_eq⟩
  obtain ⟨result', requests', left', hlisted⟩ := exists_listed services scope c
  rw [list_eq_of_collectPages hlisted.collectPages_eq] at hlist
  injection hlist with hresult hnetwork
  injection hnetwork with hleft hsent
  -- what was sent before the call does not count
  rw [← hresult, ← hleft, ← List.append_cancel_left hsent]
  exact hlisted

/-- The call that lists the runners concludes with what listing them comes to. -/
theorem answer_list_of_listed
    (h : Listed (services.registry.listRequest scope) (Services.unixNow c) c.network.replies
      result requests left) :
    services.answer (.list scope) c =
      c.concluding (result, ⟨left, c.network.sent ++ requests⟩) := by
  have hlist := list_eq_iff.2 h
  unfold Services.answer
  dsimp only
  rw [hlist]

/-- A look-up by name goes through what is listed, and it fails as the listing does. -/
theorem run_findRunner (services : Services) (scope : Scope) (name : String) (c : Connection) :
    (findRunner ⟨scope, name⟩).run services.answer c =
      let listed := services.answer (.list scope) c
      ⟨listed.1.map (firstNamed name), [.list scope], listed.2⟩ := by
  unfold findRunner
  rw [Program.run_call]
  rfl

/-- Each request asks for the page of its place among them. -/
theorem asksForPage_of_listed
    (h : Listed (services.registry.listRequest scope) (Services.unixNow c) c.network.replies
      result requests left) {i : Nat} {sent : Request} (hi : requests[i]? = some sent) :
    ∃ runners, services.registry.ListsAt scope runners ∧ AsksForPage runners (i + 1) sent := by
  obtain ⟨hlength, -⟩ := List.getElem?_eq_some_iff.1 hi
  have hplace : (requests.map Except.ok)[i]? =
      ((List.range' 1 requests.length).map (services.registry.listRequest scope))[i]? := by
    rw [h.requests_eq]
  rw [List.getElem?_map, hi, List.getElem?_map, List.getElem?_range' hlength, Nat.one_mul,
    Nat.add_comm] at hplace
  exact RegistryClient.asksForPage_of_listRequest (Option.some.inj hplace).symm

/-- No request is made twice, for each asks for another page. -/
theorem nodup_of_listed
    (h : Listed (services.registry.listRequest scope) (Services.unixNow c) c.network.replies
      result requests left) : requests.Nodup := by
  rw [List.nodup_iff_getElem?_ne_getElem?]
  intro i j hij hj hsame
  have hlater := List.getElem?_eq_getElem hj
  obtain ⟨_, -, hasks⟩ := asksForPage_of_listed h (hsame.trans hlater)
  obtain ⟨_, -, hasks'⟩ := asksForPage_of_listed h hlater
  have hnumber := hasks.number_unique hasks'
  omega

end Call

/-- **A listing ends with a page.** Take any replies of the registry, as many as come back before
the rest is lost. Listing the runners comes to its end in a way of `Listed`, and in whichever of
them there is for these replies: either with the runners of the pages up to the first one that is
empty or gives a number of runners that have been collected by then, or with the cause for which a
page before it fails, or in a panic over such a page. The requests are those for the pages 1, 2, 3
and so on; each of them asks for its page by number, and none is made twice. A look-up by name finds
no runner exactly if a complete listing has none of that name; it fails with a cause exactly if the
listing does, unless there is a panic, which it shares. -/
theorem listing_ends_with_a_page (services : Services) (scope : Scope) (c : Connection) :
    let request := services.registry.listRequest scope
    let ends := Listed request (Services.unixNow c) c.network.replies
    (∃ result requests left, ends result requests left) ∧
      (∀ result requests left, ends result requests left →
        requests.map .ok = (List.range' 1 requests.length).map request ∧ requests.Nodup ∧
        ∀ i sent, requests[i]? = some sent → ∃ runners,
          services.registry.ListsAt scope runners ∧ AsksForPage runners (i + 1) sent) ∧
      (∀ result requests left, services.registry.list (Services.unixNow c) scope c.network =
          (result, ⟨left, c.network.sent ++ requests⟩) ↔
        ends result requests left) ∧
      (∀ result requests left, ends (.ok result) requests left → services.answer (.list scope) c =
        (result, { c with network := ⟨left, c.network.sent ++ requests⟩ })) ∧
      (∀ panic requests left, ends (.error panic) requests left →
        (services.answer (.list scope) c).2.panic = some panic) ∧
      ∀ name, let found := (findRunner ⟨scope, name⟩).run services.answer c
        (found.value = .ok none ↔ ∃ runners requests left, ends (.ok (.ok runners)) requests left ∧
          ∀ r ∈ runners, r.name ≠ name) ∧
        (∀ e, (∃ requests left, ends (.ok (.error e)) requests left) ↔
          found.value = .error e ∧ ∀ panic requests left, ¬ends (.error panic) requests left) ∧
        ∀ panic requests left, ends (.error panic) requests left →
          found.state.panic = some panic := by
  intro request ends
  obtain ⟨result, requests, left, hlisted⟩ := exists_listed services scope c
  refine ⟨⟨result, requests, left, hlisted⟩,
    fun _ _ _ h => ⟨h.requests_eq, nodup_of_listed h, fun _ _ => asksForPage_of_listed h⟩,
    fun _ _ _ => list_eq_iff, fun _ _ _ h => answer_list_of_listed h, fun _ _ _ h => ?_,
    fun name => ?_⟩
  · rw [answer_list_of_listed h]
    rfl
  · intro found
    have hfound : found = _ := run_findRunner services scope name c
    refine ⟨⟨fun hnone => ?_, ?_⟩, fun e => ⟨?_, ?_⟩, fun panic requests left h => ?_⟩
    · rw [hfound, answer_list_of_listed hlisted] at hnone
      cases result with
      | error panic => cases hnone
      | ok listed =>
        cases listed with
        | error e => cases hnone
        | ok runners => exact ⟨_, _, _, hlisted, firstNamed_eq_none_iff.1 (Except.ok.inj hnone)⟩
    · rintro ⟨runners, requests, left, hends, hnone⟩
      rw [hfound, answer_list_of_listed hends]
      exact congrArg Except.ok (firstNamed_eq_none_iff.2 hnone)
    · rintro ⟨requests, left, hends⟩
      refine ⟨?_, fun panic requests' left' hpanics => ?_⟩
      · rw [hfound, answer_list_of_listed hends]
        rfl
      · -- a listing comes to one end only
        cases (list_eq_iff.2 hends).symm.trans (list_eq_iff.2 hpanics)
    · rintro ⟨herror, hcalm⟩
      rw [hfound, answer_list_of_listed hlisted] at herror
      cases result with
      | error panic => exact absurd hlisted (hcalm _ _ _)
      | ok listed =>
        cases listed with
        | ok runners => cases herror
        | error e' =>
          cases herror
          exact ⟨_, _, hlisted⟩
    · rw [hfound, answer_list_of_listed h]
      rfl

/-- The runner is on the first page, but the second one is refused. -/
example :
    let first := "\x7b\"total_count\": 2, \"runners\": [" ++
      "\x7b\"id\": 1, \"name\": \"runner-a\", \"status\": \"online\"\x7d]\x7d"
    let replies : List Reply :=
      [.response ⟨200, [], some first⟩, .response ⟨502, [], some "Bad Gateway"⟩]
    ((findRunner ⟨.ofOrganization "acme", "runner-a"⟩).run plainServices.answer
      (.running (.scripted replies) .epoch)).value = .error (.api 502 "Bad Gateway") := by
  decide +kernel

/-- A listing that does not fail as its page does: the page is refused and asks for no wait, but the
process panics over it, so that nobody is told why the listing has failed. -/
theorem listing_panics_over_bygone_page :
    let page := RegistryError.bygone
    let c : Connection := .running (.scripted [.response page])
      ⟨20744, 43200, 0, by decide, by decide, by decide⟩
    let now := Services.unixNow c
    Says page.failureText "" ∧ SlowsDown page.status page.headers "" ∧
      RegistryError.Asks now.toInt page.headers none ∧
      (plainServices.registry.list now (.ofOrganization "acme") c.network).1 =
        .error .subtraction := by
  intro page c now
  obtain ⟨hbody, hslow⟩ := RegistryError.bygone_slowsDown
  exact ⟨hbody, hslow, .past RegistryError.liftedLongAgo_names (by decide +kernel),
    by decide +kernel⟩

end Quiesce
