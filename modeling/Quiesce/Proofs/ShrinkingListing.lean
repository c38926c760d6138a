import Mathlib.Data.List.Nodup
import Mathlib.Data.Nat.Find
import Quiesce.Proofs.Documents
import Quiesce.Proofs.Listing

/-!
# Listing runners while some of them leave

A runner that removes itself while the runners are being listed shortens the list between two
requests for pages. Every runner behind it moves up by one place, so that one of them can slip from
a page that is still to be asked for onto one that has been read. It is missing from the listing
then, although it was registered all the time.

* `ShrinkingRegistry` is a registry from which runners are removed between the requests.
* `ShrinkingRegistry.NeverSlips` says of a runner that it never slips onto a page that was read.
* `listing_while_shrinking` is the main statement: of the runners that stay, these are found.
-/

namespace Quiesce

open Http (Request Reply Url)

/-! ## Places in a list -/

/-- A runner is on the page that its place in the list falls on. -/
theorem mem_runnersOnPage {r : Runner} {runners : List Runner} {size k : Nat} (hr : r ∈ runners)
    (hlow : k * size ≤ runners.idxOf r) (hhigh : runners.idxOf r < (k + 1) * size) :
    r ∈ runnersOnPage runners size (k + 1) := by
  have hplace := List.idxOf_lt_length_of_mem hr
  rw [Nat.add_mul] at hhigh
  unfold runnersOnPage
  rw [Nat.add_sub_cancel, List.mem_iff_getElem]
  refine ⟨runners.idxOf r - k * size, ?_, ?_⟩
  · rw [List.length_take, List.length_drop]
    omega
  · rw [List.getElem_take, List.getElem_drop]
    simp only [Nat.add_sub_cancel' hlow, List.getElem_idxOf]

/-- No runner is listed twice, so that being on a page is a matter of the place in the list. -/
theorem place_of_mem_runnersOnPage {r : Runner} {runners : List Runner} {size k : Nat}
    (hnodup : runners.Nodup) (hr : r ∈ runnersOnPage runners size (k + 1)) :
    k * size ≤ runners.idxOf r ∧ runners.idxOf r < (k + 1) * size := by
  unfold runnersOnPage at hr
  rw [Nat.add_sub_cancel, List.mem_iff_getElem] at hr
  obtain ⟨i, hi, rfl⟩ := hr
  rw [List.length_take, List.length_drop] at hi
  rw [List.getElem_take, List.getElem_drop, hnodup.idxOf_getElem, Nat.add_mul]
  omega

/-- Removals leave the place of a runner or move it to the front. -/
theorem idxOf_le_of_sublist {r : Runner} {shorter longer : List Runner}
    (h : shorter.Sublist longer) (hnodup : longer.Nodup) (hr : r ∈ shorter) :
    shorter.idxOf r ≤ longer.idxOf r := by
  induction h with
  | slnil => cases hr
  | cons a h ih =>
    obtain ⟨hnew, hrest⟩ := List.nodup_cons.1 hnodup
    have hne : a ≠ r := fun heq => hnew (heq ▸ h.subset hr)
    rw [List.idxOf_cons_ne _ hne]
    exact Nat.le_succ_of_le (ih hrest hr)
  | cons_cons a h ih =>
    obtain ⟨-, hrest⟩ := List.nodup_cons.1 hnodup
    by_cases heq : a = r
    · rw [List.idxOf_cons_eq _ heq]
      exact Nat.zero_le _
    · rw [List.idxOf_cons_ne _ heq, List.idxOf_cons_ne _ heq]
      exact Nat.succ_le_succ (ih hrest (List.mem_of_ne_of_mem (Ne.symm heq) hr))

/-! ## Registries that lose runners -/

/-- A registry from which runners may be removed whenever it has answered a request. A request is
answered with the page that it asks for, of the runners that are there when it comes. -/
structure ShrinkingRegistry where
  /-- Where the runners are listed. -/
  address : Url
  /-- The runners that are there when a request comes, the first being request 1. -/
  listed : Nat → List Runner
  shrinks : ∀ turn, (listed (turn + 1)).Sublist (listed turn)
  size : Nat
  size_pos : 0 < size
  /-- The number of runners that a page gives. -/
  total : Nat → UInt64
  total_eq : ∀ turn, (total turn).toNat = (listed turn).length
  /-- What comes back to a request, depending on when it comes. -/
  serve : (turn : Nat) → Request → Reply
  serves : ∀ {turn number sent}, 1 ≤ number → AsksForPage address number sent →
    RegistryClient.Shows (serve turn sent) ⟨total turn, runnersOnPage (listed turn) size number⟩

namespace ShrinkingRegistry

variable (registry : ShrinkingRegistry)

/-- The list only ever loses runners, so those that stay keep their order. -/
theorem listed_sublist {first later : Nat} (h : first ≤ later) :
    (registry.listed later).Sublist (registry.listed first) := by
  induction h with
  | refl => exact List.Sublist.refl _
  | step _ ih => exact (registry.shrinks _).trans ih

/-- Some page has nothing behind it, since the list does not grow. -/
theorem exists_last : ∃ number, 1 ≤ number ∧
    (registry.listed number).length ≤ number * registry.size := by
  have hone : 1 ≤ (registry.listed 1).length + 1 := Nat.le_add_left 1 _
  have hshorter := (registry.listed_sublist hone).length_le
  have henough := Nat.le_mul_of_pos_right ((registry.listed 1).length + 1) registry.size_pos
  exact ⟨_, hone, by omega⟩

/-- The number of pages that are asked for. -/
def pageCount : Nat :=
  Nat.find registry.exists_last

theorem one_le_pageCount : 1 ≤ registry.pageCount :=
  (Nat.find_spec registry.exists_last).1

theorem length_last :
    (registry.listed registry.pageCount).length ≤ registry.pageCount * registry.size :=
  (Nat.find_spec registry.exists_last).2

/-- The pages as they are listed: the page of each number is asked for with the request of that
number. -/
def run : PageRun where
  listed := registry.listed
  size := registry.size
  size_pos := registry.size_pos
  total := registry.total
  total_eq := registry.total_eq
  count := registry.pageCount
  one_le_count := registry.one_le_pageCount
  lt_length := fun _ hlow hbefore =>
    Nat.not_le.1 fun hle => Nat.find_min registry.exists_last hbefore ⟨hlow, hle⟩
  length_le := registry.length_last

/-- The runners that the listing finds. -/
def found : List Runner :=
  registry.run.collected registry.pageCount

/-- As long as the runner is behind the pages that have been asked for, it is still behind them when
the next page is asked for. -/
def NeverSlips (r : Runner) : Prop :=
  ∀ number, 1 ≤ number → number < registry.pageCount →
    number * registry.size ≤ (registry.listed number).idxOf r →
      number * registry.size ≤ (registry.listed (number + 1)).idxOf r

variable {registry} {r : Runner}

/-- The runners collected after some pages are those that were on a page when its turn came. -/
theorem mem_collected_iff {k : Nat} : r ∈ registry.run.collected k ↔
    ∃ j < k, r ∈ runnersOnPage (registry.listed (j + 1)) registry.size (j + 1) := by
  induction k with
  | zero =>
    refine ⟨fun h => absurd h List.not_mem_nil, ?_⟩
    rintro ⟨j, hj, -⟩
    omega
  | succ k ih =>
    rw [PageRun.collected_succ, List.mem_append, ih]
    constructor
    · rintro (⟨j, hj, hpage⟩ | hpage)
      · exact ⟨j, by omega, hpage⟩
      · exact ⟨k, by omega, hpage⟩
    · rintro ⟨j, hj, hpage⟩
      obtain hj | rfl : j < k ∨ j = k := by omega
      · exact .inl ⟨j, hj, hpage⟩
      · exact .inr hpage

/-- Nothing is found but what was listed in the beginning. -/
theorem mem_listed_of_mem_found (h : r ∈ registry.found) : r ∈ registry.listed 1 := by
  obtain ⟨j, -, hpage⟩ := mem_collected_iff.1 h
  exact (registry.listed_sublist (by omega)).subset
    (List.mem_of_mem_drop (List.mem_of_mem_take hpage))

/-- A runner only ever moves forward in the list. -/
theorem place_le (hnodup : (registry.listed 1).Nodup) (hr : r ∈ registry.listed registry.pageCount)
    {first later : Nat} (hone : 1 ≤ first) (hle : first ≤ later)
    (hlater : later ≤ registry.pageCount) :
    (registry.listed later).idxOf r ≤ (registry.listed first).idxOf r :=
  idxOf_le_of_sublist (registry.listed_sublist hle)
    (hnodup.sublist (registry.listed_sublist hone)) ((registry.listed_sublist hlater).subset hr)

/-- A runner that is not on an earlier page when the page in its turn is shown is on that page or
behind it. -/
theorem collected_or_behind {k : Nat} (hr : r ∈ registry.listed (k + 1))
    (hlow : k * registry.size ≤ (registry.listed (k + 1)).idxOf r) :
    r ∈ registry.run.collected (k + 1) ∨
      (k + 1) * registry.size ≤ (registry.listed (k + 1)).idxOf r := by
  by_cases hhigh : (registry.listed (k + 1)).idxOf r < (k + 1) * registry.size
  · exact .inl (mem_collected_iff.2 ⟨k, by omega, mem_runnersOnPage hr hlow hhigh⟩)
  · exact .inr (by omega)

/-- After each page a runner that never slips has been collected or is behind all pages so far. -/
theorem NeverSlips.collected_or_behind (h : registry.NeverSlips r)
    (hr : r ∈ registry.listed registry.pageCount) {k : Nat} (hk : k < registry.pageCount) :
    r ∈ registry.run.collected (k + 1) ∨
      (k + 1) * registry.size ≤ (registry.listed (k + 1)).idxOf r := by
  have hlisted : r ∈ registry.listed (k + 1) := (registry.listed_sublist hk).subset hr
  induction k with
  | zero => exact ShrinkingRegistry.collected_or_behind hlisted (by omega)
  | succ k ih =>
    rcases ih (by omega) ((registry.shrinks _).subset hlisted) with hcollected | hbehind
    · left
      rw [PageRun.collected_succ]
      exact List.mem_append_left _ hcollected
    · exact ShrinkingRegistry.collected_or_behind hlisted (h (k + 1) (by omega) hk hbehind)

/-- A runner that never slips is found: nothing is behind the last page. -/
theorem NeverSlips.mem_found (h : registry.NeverSlips r)
    (hr : r ∈ registry.listed registry.pageCount) : r ∈ registry.found := by
  have hone := registry.one_le_pageCount
  have hlast := registry.length_last
  have hplace := List.idxOf_lt_length_of_mem hr
  have hends := h.collected_or_behind hr (k := registry.pageCount - 1) (by omega)
  rw [Nat.sub_add_cancel hone] at hends
  exact hends.resolve_right (by omega)

/-- A runner that is found has not slipped: it would have been behind every page that was asked for
before, and in front of every page that was asked for afterwards. -/
theorem neverSlips_of_mem_found (hnodup : (registry.listed 1).Nodup)
    (hr : r ∈ registry.listed registry.pageCount) (hfound : r ∈ registry.found) :
    registry.NeverSlips r := by
  intro number hone hbefore hbehind
  obtain ⟨j, hj, hpage⟩ := mem_collected_iff.1 hfound
  obtain ⟨hlow, hhigh⟩ := place_of_mem_runnersOnPage
    (hnodup.sublist (registry.listed_sublist (by omega))) hpage
  by_cases hread : j < number
  -- it was collected before and cannot have moved behind the pages since
  · have hplace := place_le hnodup hr (Nat.le_add_left 1 j) hread (by omega)
    have hpages : (j + 1) * registry.size ≤ number * registry.size :=
      Nat.mul_le_mul_right _ hread
    omega
  -- it is collected later, and it cannot have moved back after a slip
  · have hplace := place_le hnodup hr (Nat.le_add_left 1 number) (show number + 1 ≤ j + 1 by omega)
      hj
    have hpages : number * registry.size ≤ j * registry.size :=
      Nat.mul_le_mul_right _ (by omega)
    omega

end ShrinkingRegistry

/-! ## Looking a runner up -/

/-- A look-up by name goes by what the listing returns. -/
theorem value_findRunner {services : Services} {scope : Scope} {c c' : Connection}
    {runners : List Runner} (name : String)
    (hlist : services.answer (.list scope) c = (.ok runners, c')) :
    ((findRunner ⟨scope, name⟩).run services.answer c).value = .ok (firstNamed name runners) := by
  unfold findRunner
  rw [Program.run_call, hlist]
  rfl

/-- A runner that is listed is found by its name, or another one of that name is. -/
theorem firstNamed_isSome {r : Runner} {runners : List Runner} (hr : r ∈ runners) :
    ∃ q, q.name = r.name ∧ firstNamed r.name runners = some q := by
  cases hfirst : firstNamed r.name runners with
  | none => exact absurd rfl (firstNamed_eq_none_iff.1 hfirst r hr)
  | some q => exact ⟨q, (firstNamed_eq_some_iff.1 hfirst).1, rfl⟩

/-- Where no other runner has its name, a runner is found exactly if it is listed. -/
theorem firstNamed_unique {r : Runner} {runners : List Runner}
    (hunique : ∀ q ∈ runners, q.name = r.name → q = r) :
    firstNamed r.name runners = if r ∈ runners then some r else none := by
  by_cases hr : r ∈ runners
  · obtain ⟨q, hname, hfirst⟩ := firstNamed_isSome hr
    rw [if_pos hr, hfirst, hunique q (List.mem_of_find?_eq_some hfirst) hname]
  · rw [if_neg hr, firstNamed_eq_none_iff]
    exact fun q hq hname => hr (hunique q hq hname ▸ hq)

/-- **Who is found while others leave.** Take a registry that answers each request with the page of
its runners that the request asks for, in pages of any size, and from which runners are removed
between the requests; and a network over which the answers to the requests come back one after the
other. Listing the runners asks for the pages 1, 2, 3 and so on. Of the runners that stay to the
end, one that never slips onto a page that has been read is listed, and looking up its name finds a
runner. If no two runners have one name, that is all: one that slips is missing, and looking up its
name finds nobody although it is registered. -/
theorem listing_while_shrinking (services : Services) (scope : Scope)
    (registry : ShrinkingRegistry) (c : Connection) {sent : Nat → Request} {later : List Reply}
    (hat : services.registry.ListsAt scope registry.address)
    (hsent : ∀ number, 1 ≤ number → number ≤ registry.pageCount →
      services.registry.listRequest scope number = .ok (sent number))
    (hreplies : c.network.replies = (List.range' 1 registry.pageCount).map
      (fun turn => registry.serve turn (sent turn)) ++ later) :
    (∀ number, 1 ≤ number → number ≤ registry.pageCount →
        AsksForPage registry.address number (sent number)) ∧
      services.answer (.list scope) c = (.ok registry.found, { c with network :=
        ⟨later, c.network.sent ++ (List.range' 1 registry.pageCount).map sent⟩ }) ∧
      ∀ r ∈ registry.listed registry.pageCount,
        let lookedUp := ((findRunner ⟨scope, r.name⟩).run services.answer c).value
        (registry.NeverSlips r →
          r ∈ registry.found ∧ ∃ q, q.name = r.name ∧ lookedUp = .ok (some q)) ∧
        (((registry.listed 1).map (·.name)).Nodup →
          (registry.NeverSlips r → lookedUp = .ok (some r)) ∧
          (¬registry.NeverSlips r → r ∉ registry.found ∧ lookedUp = .ok none)) := by
  -- The requests carry the page numbers, so the registry answers each with the page as it is then.
  have hasks : ∀ number, 1 ≤ number → number ≤ registry.pageCount →
      AsksForPage registry.address number (sent number) :=
    fun number hlow hhigh => hat.asksForPage (hsent number hlow hhigh)
  have hanswer := registry.run.answer_list services scope c hsent
    (fun number hlow hhigh => registry.serves hlow (hasks number hlow hhigh)) hreplies
  refine ⟨hasks, hanswer, fun r hr => ?_⟩
  intro lookedUp
  have hlookedUp : lookedUp = .ok (firstNamed r.name registry.found) :=
    value_findRunner r.name hanswer
  refine ⟨fun hnever => ?_, fun hnames => ?_⟩
  · -- the look-up finds somebody of that name, if not this runner
    have hfound := hnever.mem_found hr
    obtain ⟨q, hname, hfirst⟩ := firstNamed_isSome hfound
    exact ⟨hfound, q, hname, hlookedUp.trans (congrArg Except.ok hfirst)⟩
  · -- with names that are unique at the first page it finds this runner or nobody
    have hlisted : r ∈ registry.listed 1 :=
      (registry.listed_sublist registry.one_le_pageCount).subset hr
    have hunique : ∀ q ∈ registry.found, q.name = r.name → q = r := fun q hq =>
      List.inj_on_of_nodup_map hnames (ShrinkingRegistry.mem_listed_of_mem_found hq) hlisted
    rw [firstNamed_unique hunique] at hlookedUp
    refine ⟨fun hnever => ?_, fun hslips => ?_⟩
    · rw [hlookedUp, if_pos (hnever.mem_found hr)]
    · have hmissing : r ∉ registry.found :=
        mt (ShrinkingRegistry.neverSlips_of_mem_found hnames.of_map hr) hslips
      rw [hlookedUp, if_neg hmissing]
      exact ⟨hmissing, rfl⟩

/-! ## A registry that a runner leaves after the first page -/

/-- A success that shows a page. -/
def writtenPage (page : RunnerPage) : Reply :=
  pageReply page.toJson.render

theorem shows_writtenPage (page : RunnerPage) :
    RegistryClient.Shows (writtenPage page) page := by
  refine ⟨⟨200, [], some page.toJson.render⟩, rfl, rfl, ?_⟩
  show (some page.toJson.render).bind (fun text => (Json.read text).bind RunnerPage.ofJson?) = _
  rw [Option.bind_some, page.read_render]

/-- As many runners as there are on a page. -/
def crew : List Runner :=
  (List.range RegistryClient.pageSize).map fun i =>
    idleRunner (Int64.ofNat i) ("runner-" ++ Text.natText i)

theorem crew_names_nodup : (crew.map (·.name)).Nodup := by
  have hnames : crew.map (·.name) =
      (List.range RegistryClient.pageSize).map fun i => "runner-" ++ Text.natText i := by
    unfold crew
    rw [List.map_map]
    rfl
  rw [hnames]
  refine List.nodup_range.map fun m n h => Text.natText_injective ?_
  exact (String.append_right_inj "runner-").1 h

/-- The crew and two more; the first of the crew leaves after the first page. -/
def leavingRunners (number : Nat) : List Runner :=
  (if number ≤ 1 then crew else crew.tail) ++
    [idleRunner 100 "runner-abc", idleRunner 101 "runner-xyz"]

def leavingPage (turn number : Nat) : RunnerPage :=
  ⟨UInt64.ofNat (leavingRunners turn).length,
    runnersOnPage (leavingRunners turn) RegistryClient.pageSize number⟩

def leavingRegistry : ShrinkingRegistry where
  address := plainRunners
  listed := leavingRunners
  shrinks turn := by
    refine List.Sublist.append_right ?_ _
    by_cases hfirst : turn ≤ 0
    · rw [if_pos (by omega), if_pos (by omega)]
    · rw [if_neg (by omega)]
      by_cases hsecond : turn ≤ 1
      · rw [if_pos hsecond]
        exact List.tail_sublist crew
      · rw [if_neg hsecond]
  size := RegistryClient.pageSize
  size_pos := by decide
  total turn := UInt64.ofNat (leavingRunners turn).length
  total_eq turn := by
    unfold leavingRunners
    by_cases hfirst : turn ≤ 1
    · rw [if_pos hfirst]
      rfl
    · rw [if_neg hfirst]
      rfl
  serve turn sent := writtenPage (leavingPage turn (askedPage sent))
  serves _ hasks := by
    rw [hasks.askedPage_eq]
    exact shows_writtenPage _

theorem leavingRunners_names_nodup : ((leavingRunners 1).map (·.name)).Nodup := by
  show ((crew ++ _).map (·.name)).Nodup
  rw [List.map_append, List.nodup_append]
  exact ⟨crew_names_nodup, by decide, by decide +kernel⟩

theorem leavingRegistry_pageCount : leavingRegistry.pageCount = 2 := by
  unfold ShrinkingRegistry.pageCount
  rw [Nat.find_eq_iff]
  decide +kernel

/-- A network over which the answers to the two requests come back. -/
def leavingConnection (sent : Nat → Request) : Connection :=
  .running (.scripted [leavingRegistry.serve 1 (sent 1), leavingRegistry.serve 2 (sent 2)]) .epoch

theorem leavingConnection_replies (sent : Nat → Request) :
    (leavingConnection sent).network.replies = (List.range' 1 leavingRegistry.pageCount).map
      (fun turn => leavingRegistry.serve turn (sent turn)) ++ [] := by
  rw [leavingRegistry_pageCount]
  rfl

/-- The first of 102 runners leaves after the first page has been shown, and another one slips
through. -/
theorem listing_while_first_leaves :
    let last := idleRunner 101 "runner-xyz"
    leavingRegistry.NeverSlips last ∧ ∃ sent : Nat → Request,
      AsksForPage plainRunners 1 (sent 1) ∧ AsksForPage plainRunners 2 (sent 2) ∧
      ((findRunner ⟨.ofOrganization "acme", "runner-xyz"⟩).run plainServices.answer
        (leavingConnection sent)).value = .ok (some last) := by
  intro last
  obtain ⟨sent, hsent⟩ := plainServices_sent (Nat.le_of_eq leavingRegistry_pageCount)
  obtain ⟨hasks, -, hfinds⟩ := listing_while_shrinking plainServices (.ofOrganization "acme")
    leavingRegistry (leavingConnection sent) plainServices_listsAt hsent
    (leavingConnection_replies sent)
  rw [leavingRegistry_pageCount] at hasks
  have hnever : leavingRegistry.NeverSlips last := by
    intro number hlow hbefore _
    rw [leavingRegistry_pageCount] at hbefore
    obtain rfl : number = 1 := by omega
    decide +kernel
  have hlisted : last ∈ leavingRegistry.listed leavingRegistry.pageCount := by
    rw [leavingRegistry_pageCount]
    decide +kernel
  exact ⟨hnever, sent, hasks 1 (by decide) (by decide), hasks 2 (by decide) (by decide),
    ((hfinds last hlisted).2 leavingRunners_names_nodup).1 hnever⟩

/-- A runner that is registered all the time is neither listed nor found, and who is to remove it by
its name takes it for gone. -/
theorem listing_misses_registered_runner :
    let missed := idleRunner 100 "runner-abc"
    let target : Target := ⟨.ofOrganization "acme", "runner-abc"⟩
    (∀ turn, missed ∈ leavingRegistry.listed turn) ∧ ∃ sent : Nat → Request,
      AsksForPage plainRunners 1 (sent 1) ∧ AsksForPage plainRunners 2 (sent 2) ∧
      let c := leavingConnection sent
      (plainServices.answer (.list (.ofOrganization "acme")) c).1 =
        .ok (crew ++ [idleRunner 101 "runner-xyz"]) ∧
      missed ∉ crew ++ [idleRunner 101 "runner-xyz"] ∧
      ((findRunner target).run plainServices.answer c).value = .ok none ∧
      ((unregister target none).run plainServices.answer c).value = .notFound := by
  intro missed target
  obtain ⟨sent, hsent⟩ := plainServices_sent (Nat.le_of_eq leavingRegistry_pageCount)
  have hasks : ∀ number, 1 ≤ number → number ≤ leavingRegistry.pageCount →
      AsksForPage plainRunners number (sent number) :=
    fun number hlow hhigh => plainServices_listsAt.asksForPage (hsent number hlow hhigh)
  have hanswer := leavingRegistry.run.answer_list plainServices (.ofOrganization "acme")
    (leavingConnection sent) hsent
    (fun number hlow hhigh => leavingRegistry.serves hlow (hasks number hlow hhigh))
    (leavingConnection_replies sent)
  have hfound : leavingRegistry.run.collected leavingRegistry.run.count =
      crew ++ [idleRunner 101 "runner-xyz"] := by
    show leavingRegistry.run.collected leavingRegistry.pageCount = _
    rw [leavingRegistry_pageCount]
    decide +kernel
  rw [hfound] at hanswer
  rw [leavingRegistry_pageCount] at hasks
  have hfind : ((findRunner target).run plainServices.answer (leavingConnection sent)).value =
      .ok none :=
    (value_findRunner "runner-abc" hanswer).trans (by decide +kernel)
  refine ⟨fun turn => List.mem_append_right _ List.mem_cons_self, sent,
    hasks 1 (by decide) (by decide), hasks 2 (by decide) (by decide), congrArg Prod.fst hanswer,
    by decide +kernel, hfind, ?_⟩
  unfold unregister
  dsimp only [Program.bind_eq]
  rw [Program.value_bind, hfind]
  rfl

end Quiesce
