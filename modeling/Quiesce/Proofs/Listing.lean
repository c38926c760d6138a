import Mathlib.Data.List.TakeDrop
import Quiesce.Proofs.PageRequests
import Quiesce.Stop.Decision

/-!
# The listing of the runners

The registry hands out its runners page by page, in pages of a size of its own, and the client asks
for one page after the other until it has collected as many runners as there are. After `k` pages it
has collected the first `k * size` runners, so that the page which completes them is the last one.

* `PageRun` is a run of pages that ends a listing, and `PageRun.collectPages_eq` is the loop over it
  from any page on.
* `PagedRegistry` is a registry that holds a list of runners and answers a request with the page
  that it asks for.
* `listing_is_complete` is the main statement.
-/

namespace Quiesce

open Http (Request Response Reply Url)

/-! ## The loop over the pages -/

/-- The reply is a success that shows that page. -/
def RegistryClient.Shows (reply : Reply) (page : RunnerPage) : Prop :=
  ∃ r : Response, reply = .response r ∧ Http.isSuccess r.status = true ∧
    pageOfBody? r.body = some page

/-- A reply that shows a page is read as that page. -/
theorem pageOfReply_of_shows {now : Int64} {sent : Request} {reply : Reply} {page : RunnerPage}
    (h : RegistryClient.Shows reply page) :
    RegistryClient.pageOfReply now sent reply = .ok (.ok page) := by
  obtain ⟨r, rfl, hsuccess, hbody⟩ := h
  unfold RegistryClient.pageOfReply
  dsimp only
  rw [if_pos hsuccess, hbody]

/-- One round of the loop: the runners of a page are collected, and the page is the last one or
another one is asked for. -/
theorem collectPages_shown (now : Int64) {request : Nat → Except RegistryError Request}
    {number : Nat} {sent : Request} {reply : Reply} {page : RunnerPage} (collected : List Runner)
    (replies : List Reply) (hrequest : request number = .ok sent)
    (hshows : RegistryClient.Shows reply page) :
    RegistryClient.collectPages now request number collected (reply :: replies) =
      let all := collected ++ page.runners
      if RegistryClient.isLastPage page all.length then (.ok (.ok all), [sent], replies)
      else
        let rest := RegistryClient.collectPages now request (number + 1) all replies
        (rest.1, sent :: rest.2.1, rest.2.2) := by
  rw [RegistryClient.collectPages, hrequest]
  dsimp only
  rw [pageOfReply_of_shows hshows]

/-! ## Runs of pages -/

/-- The runners on a page of that size, the first being page 1; none past the end. -/
def runnersOnPage (runners : List Runner) (size number : Nat) : List Runner :=
  (runners.drop ((number - 1) * size)).take size

/-- Pages of one size from the first one on, as far as nothing is left behind the last. What is
listed need not be the same when one page is asked for and when the next one is. -/
structure PageRun where
  /-- What is listed when a page is asked for. -/
  listed : Nat → List Runner
  size : Nat
  size_pos : 0 < size
  /-- The number of runners that a page gives. -/
  total : Nat → UInt64
  total_eq : ∀ number, (total number).toNat = (listed number).length
  /-- The number of the last page. -/
  count : Nat
  one_le_count : 1 ≤ count
  lt_length : ∀ number, 1 ≤ number → number < count → number * size < (listed number).length
  length_le : (listed count).length ≤ count * size

namespace PageRun

variable (run : PageRun)

/-- A page of the run. -/
def page (number : Nat) : RunnerPage :=
  ⟨run.total number, runnersOnPage (run.listed number) run.size number⟩

/-- What has been collected with the first `k` pages. -/
def collected (k : Nat) : List Runner :=
  (List.range' 1 k).flatMap fun number => runnersOnPage (run.listed number) run.size number

theorem collected_succ (k : Nat) :
    run.collected (k + 1) = run.collected k ++ (run.page (k + 1)).runners := by
  unfold collected page
  rw [List.range'_1_concat, List.flatMap_append, List.flatMap_singleton, Nat.add_comm 1 k]

/-- All pages before the last one are full. -/
theorem length_collected {k : Nat} (hk : k < run.count) :
    (run.collected k).length = k * run.size := by
  induction k with
  | zero => rw [Nat.zero_mul]; rfl
  | succ k ih =>
    have hfull := run.lt_length (k + 1) (by omega) hk
    rw [collected_succ, List.length_append, ih (by omega), page, runnersOnPage, List.length_take,
      List.length_drop, Nat.add_sub_cancel]
    rw [Nat.add_mul] at hfull ⊢
    omega

/-- The listing ends with the last page and not before. It ends with an empty page too, which only
the last one can be. -/
theorem isLastPage_iff {k : Nat} (hk : k < run.count) :
    RegistryClient.isLastPage (run.page (k + 1)) (run.collected (k + 1)).length = true ↔
      k + 1 = run.count := by
  have hpos := run.size_pos
  have hends : k + 1 = run.count ↔ (run.listed (k + 1)).length ≤ (k + 1) * run.size := by
    refine ⟨fun hlast => hlast ▸ run.length_le, fun hle => ?_⟩
    have hmore := run.lt_length (k + 1) (by omega)
    omega
  rw [hends, collected_succ, List.length_append, run.length_collected hk]
  unfold RegistryClient.isLastPage page runnersOnPage
  rw [Bool.or_eq_true, decide_eq_true_iff, List.isEmpty_iff_length_eq_zero, List.length_take,
    List.length_drop, run.total_eq, Nat.add_sub_cancel, Nat.add_mul]
  omega

/-- **From any page on the loop collects what is left.** The induction is on the number of pages
that come after the next one. -/
theorem collectPages_eq (now : Int64) {request : Nat → Except RegistryError Request}
    {sent : Nat → Request} {reply : Nat → Reply} (later : List Reply)
    (hsent : ∀ number, 1 ≤ number → number ≤ run.count → request number = .ok (sent number))
    (hshows : ∀ number, 1 ≤ number → number ≤ run.count →
      RegistryClient.Shows (reply number) (run.page number))
    (more k : Nat) (hcount : k + 1 + more = run.count) :
    RegistryClient.collectPages now request (k + 1) (run.collected k)
        ((List.range' (k + 1) (more + 1)).map reply ++ later) =
      (.ok (.ok (run.collected run.count)), (List.range' (k + 1) (more + 1)).map sent, later) := by
  induction more generalizing k with
  | zero =>
    have hlast : k + 1 = run.count := hcount
    rw [List.range'_one, List.map_singleton, List.map_singleton, List.singleton_append,
      collectPages_shown now _ later (hsent (k + 1) (by omega) (by omega))
        (hshows (k + 1) (by omega) (by omega))]
    dsimp only
    rw [← collected_succ, if_pos ((run.isLastPage_iff (by omega)).2 hlast), hlast]
  | succ more ih =>
    have hmore : ¬k + 1 = run.count := by omega
    rw [List.range'_succ, List.map_cons, List.map_cons, List.cons_append,
      collectPages_shown now _ _ (hsent (k + 1) (by omega) (by omega))
        (hshows (k + 1) (by omega) (by omega))]
    dsimp only
    rw [← collected_succ, if_neg (mt (run.isLastPage_iff (by omega)).1 hmore),
      ih (k + 1) (by omega)]

end PageRun

/-! ## Calls -/

/-- What a run of pages shows is listed if its replies come back one after the other. -/
theorem PageRun.answer_list (services : Services) (scope : Scope) (run : PageRun) (c : Connection)
    {sent : Nat → Request} {reply : Nat → Reply} {later : List Reply}
    (hsent : ∀ number, 1 ≤ number → number ≤ run.count →
      services.registry.listRequest scope number = .ok (sent number))
    (hshows : ∀ number, 1 ≤ number → number ≤ run.count →
      RegistryClient.Shows (reply number) (run.page number))
    (hreplies : c.network.replies = (List.range' 1 run.count).map reply ++ later) :
    services.answer (.list scope) c = (.ok (run.collected run.count), { c with network :=
      ⟨later, c.network.sent ++ (List.range' 1 run.count).map sent⟩ }) := by
  have hone := run.one_le_count
  obtain ⟨d, hd⟩ := RegistryClient.exists_destination (hsent 1 (Nat.le_refl 1) hone)
  have hpages : ∀ number, 1 ≤ number → number ≤ run.count →
      RegistryClient.pageRequest d number = .ok (sent number) := by
    intro number hlow hhigh
    have hnumber := hsent number hlow hhigh
    unfold RegistryClient.listRequest at hnumber
    rwa [hd] at hnumber
  -- Nothing has been collected before page 1, and the loop ends with the last page.
  have hcollects := run.collectPages_eq (Services.unixNow c) later hpages hshows (run.count - 1) 0
    (by omega)
  rw [Nat.sub_add_cancel hone, Nat.zero_add, ← hreplies] at hcollects
  have hlist : services.registry.list (Services.unixNow c) scope c.network =
      (.ok (.ok (run.collected run.count)),
        ⟨later, c.network.sent ++ (List.range' 1 run.count).map sent⟩) := by
    unfold RegistryClient.list
    rw [hd]
    dsimp only
    rw [show ([] : List Runner) = run.collected 0 from rfl, hcollects]
  unfold Services.answer
  dsimp only
  rw [hlist]
  rfl

/-! ## Registries that serve a list -/

/-- A registry that holds a list of runners and serves it in pages of one size. -/
structure PagedRegistry where
  /-- Where the runners are listed. -/
  address : Url
  runners : List Runner
  size : Nat
  size_pos : 0 < size
  /-- The number of runners, as every page gives it. -/
  total : UInt64
  total_eq : total.toNat = runners.length
  /-- What comes back to a request. -/
  serve : Request → Reply
  serves : ∀ {number sent}, 1 ≤ number → AsksForPage address number sent →
    RegistryClient.Shows (serve sent) ⟨total, runnersOnPage runners size number⟩

namespace PagedRegistry

variable (registry : PagedRegistry)

/-- The number of pages to be asked for: as many as it takes, but one at least. -/
def pageCount : Nat :=
  max 1 ((registry.runners.length + registry.size - 1) / registry.size)

/-- There is a page after the first ones exactly if these do not hold all runners. -/
theorem lt_pageCount_iff {number : Nat} (hnumber : 1 ≤ number) :
    number < registry.pageCount ↔ number * registry.size < registry.runners.length := by
  have hpos := registry.size_pos
  have hceil : number < (registry.runners.length + registry.size - 1) / registry.size ↔
      (number + 1) * registry.size ≤ registry.runners.length + registry.size - 1 :=
    Nat.le_div_iff_mul_le hpos
  rw [Nat.add_mul] at hceil
  unfold pageCount
  omega

theorem one_le_pageCount : 1 ≤ registry.pageCount :=
  Nat.le_max_left 1 _

/-- The pages of the list. -/
def run : PageRun where
  listed := fun _ => registry.runners
  size := registry.size
  size_pos := registry.size_pos
  total := fun _ => registry.total
  total_eq := fun _ => registry.total_eq
  count := registry.pageCount
  one_le_count := registry.one_le_pageCount
  lt_length := fun _ hnumber => (registry.lt_pageCount_iff hnumber).1
  length_le := Nat.not_lt.1
    (mt (registry.lt_pageCount_iff registry.one_le_pageCount).2 (Nat.lt_irrefl _))

/-- After `k` pages the runners collected are those in the first `k` places for pages. -/
theorem run_collected (k : Nat) :
    registry.run.collected k = registry.runners.take (k * registry.size) := by
  induction k with
  | zero => rw [Nat.zero_mul]; rfl
  | succ k ih =>
    rw [PageRun.collected_succ, ih, Nat.add_mul, Nat.one_mul, List.take_add, PageRun.page,
      runnersOnPage, Nat.add_sub_cancel]
    rfl

/-- With its pages the whole list has been collected. -/
theorem run_collected_count : registry.run.collected registry.pageCount = registry.runners := by
  rw [run_collected]
  exact List.take_of_length_le registry.run.length_le

end PagedRegistry

/-- The runner that is found stands in front of all others of its name. -/
theorem firstNamed_eq_some_iff {name : String} {runners : List Runner} {r : Runner} :
    firstNamed name runners = some r ↔
      r.name = name ∧ ∃ before after,
        runners = before ++ r :: after ∧ ∀ other ∈ before, other.name ≠ name := by
  unfold firstNamed
  rw [List.find?_eq_some_iff_append]
  simp only [decide_eq_true_eq, Bool.not_eq_true', decide_eq_false_iff_not, ne_eq]

/-- Nobody is found exactly if nobody has the name. -/
theorem firstNamed_eq_none_iff {name : String} {runners : List Runner} :
    firstNamed name runners = none ↔ ∀ r ∈ runners, r.name ≠ name := by
  unfold firstNamed
  rw [List.find?_eq_none]
  simp only [decide_eq_true_eq, ne_eq]

/-- **The listing is complete.** Take a registry that holds any list of runners and answers each
request with the page that it asks for, in pages of any size, and a network over which the answers
to the requests come back one after the other. Listing the runners asks for the pages 1, 2, 3 and so
on, as many as it takes and one at least, and ends with the list, whatever else would come back.
Looking up a name finds the first runner of that name on whatever page it is, and none exactly if
the registry has none. -/
theorem listing_is_complete (services : Services) (scope : Scope) (registry : PagedRegistry)
    (c : Connection) {sent : Nat → Request} {later : List Reply}
    (hat : services.registry.ListsAt scope registry.address)
    (hsent : ∀ number, 1 ≤ number → number ≤ registry.pageCount →
      services.registry.listRequest scope number = .ok (sent number))
    (hreplies : c.network.replies =
      (List.range' 1 registry.pageCount).map (registry.serve ∘ sent) ++ later) :
    (∀ number, 1 ≤ number → number ≤ registry.pageCount →
        AsksForPage registry.address number (sent number)) ∧
      services.answer (.list scope) c = (.ok registry.runners, { c with network :=
        ⟨later, c.network.sent ++ (List.range' 1 registry.pageCount).map sent⟩ }) ∧
      ∀ name, let found := ((findRunner ⟨scope, name⟩).run services.answer c).value
        (∀ r, found = .ok (some r) ↔ r.name = name ∧ ∃ before after,
          registry.runners = before ++ r :: after ∧ ∀ other ∈ before, other.name ≠ name) ∧
        (found = .ok none ↔ ∀ r ∈ registry.runners, r.name ≠ name) := by
  -- The requests carry the page numbers, so the registry answers them with the pages in turn.
  have hasks : ∀ number, 1 ≤ number → number ≤ registry.pageCount →
      AsksForPage registry.address number (sent number) :=
    fun number hlow hhigh => hat.asksForPage (hsent number hlow hhigh)
  have hanswer : services.answer (.list scope) c = (.ok registry.runners, { c with network :=
      ⟨later, c.network.sent ++ (List.range' 1 registry.pageCount).map sent⟩ }) := by
    rw [← registry.run_collected_count]
    exact registry.run.answer_list services scope c hsent
      (fun number hlow hhigh => registry.serves hlow (hasks number hlow hhigh)) hreplies
  refine ⟨hasks, hanswer, fun name => ?_⟩
  intro found
  have hfound : found = .ok (firstNamed name registry.runners) := by
    unfold found findRunner
    rw [Program.run_call, hanswer]
    rfl
  have hok : ∀ answer, found = .ok answer ↔ firstNamed name registry.runners = answer := by
    intro answer
    rw [hfound]
    exact ⟨Except.ok.inj, congrArg Except.ok⟩
  exact ⟨fun r => (hok (some r)).trans firstNamed_eq_some_iff,
    (hok none).trans firstNamed_eq_none_iff⟩

/-- A runner that is connected and idle. -/
def idleRunner (id : Int64) (name : String) : Runner := ⟨some id, name, "", .online, false, []⟩

/-- A success with that body. -/
def pageReply (body : String) : Reply := .response ⟨200, [], some body⟩

/-- Three runners in pages of two. -/
def pairsRegistry : PagedRegistry where
  address := plainRunners
  runners := [idleRunner 1 "runner-a", idleRunner 2 "runner-b", idleRunner 3 "runner-c"]
  size := 2
  size_pos := Nat.two_pos
  total := 3
  total_eq := rfl
  serve sent :=
    match askedPage sent with
    | 1 => pageReply ("\x7b\"total_count\": 3, \"runners\": [" ++
        "\x7b\"id\": 1, \"name\": \"runner-a\", \"status\": \"online\"\x7d, " ++
        "\x7b\"id\": 2, \"name\": \"runner-b\", \"status\": \"online\"\x7d]\x7d")
    | 2 => pageReply ("\x7b\"total_count\": 3, \"runners\": [" ++
        "\x7b\"id\": 3, \"name\": \"runner-c\", \"status\": \"online\"\x7d]\x7d")
    | _ => pageReply "\x7b\"total_count\": 3, \"runners\": []\x7d"
  serves := by
    intro number sent hnumber hasks
    rw [hasks.askedPage_eq]
    match number, hnumber with
    | 1, _ => exact ⟨_, rfl, by decide, by decide +kernel⟩
    | 2, _ => exact ⟨_, rfl, by decide, by decide +kernel⟩
    | number + 3, _ =>
      have hempty : [idleRunner 1 "runner-a", idleRunner 2 "runner-b",
          idleRunner 3 "runner-c"].drop ((number + 3 - 1) * 2) = [] := by
        refine List.drop_eq_nil_of_le ?_
        show 3 ≤ (number + 3 - 1) * 2
        omega
      unfold runnersOnPage
      rw [hempty]
      exact ⟨_, rfl, by decide, by decide +kernel⟩

/-- Three runners on two pages. -/
theorem listing_is_complete_in_pairs :
    ∃ first second : Request,
      AsksForPage plainRunners 1 first ∧ AsksForPage plainRunners 2 second ∧
      let c : Connection := .running
        (.scripted [pairsRegistry.serve first, pairsRegistry.serve second, .lost]) .epoch
      let listed := plainServices.answer (.list (.ofOrganization "acme")) c
      listed.1 = .ok pairsRegistry.runners ∧ listed.2.network = ⟨[.lost], [first, second]⟩ ∧
        ((findRunner ⟨.ofOrganization "acme", "runner-c"⟩).run plainServices.answer c).value =
          .ok (some (idleRunner 3 "runner-c")) := by
  have hcount : pairsRegistry.pageCount = 2 := by decide
  obtain ⟨sent, hsent⟩ := plainServices_sent (Nat.le_of_eq hcount)
  let c : Connection := .running
    (.scripted [pairsRegistry.serve (sent 1), pairsRegistry.serve (sent 2), .lost]) .epoch
  have hreplies : c.network.replies =
      (List.range' 1 pairsRegistry.pageCount).map (pairsRegistry.serve ∘ sent) ++ [.lost] := by
    rw [hcount]
    rfl
  obtain ⟨hasks, hlisted, hfinds⟩ := listing_is_complete plainServices (.ofOrganization "acme")
    pairsRegistry c plainServices_listsAt hsent hreplies
  rw [hcount] at hasks hlisted
  refine ⟨sent 1, sent 2, hasks 1 (by decide) (by decide), hasks 2 (by decide) (by decide), ?_⟩
  intro c listed
  refine ⟨congrArg Prod.fst hlisted, congrArg (Connection.network ∘ Prod.snd) hlisted, ?_⟩
  refine ((hfinds "runner-c").1 _).2 ⟨rfl, ?_⟩
  refine ⟨[idleRunner 1 "runner-a", idleRunner 2 "runner-b"], [], rfl, ?_⟩
  decide

end Quiesce
