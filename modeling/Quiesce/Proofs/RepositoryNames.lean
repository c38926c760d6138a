import Mathlib.Data.List.Basic
import Quiesce.Registry.Client

/-!
# How a repository is named

A repository has an address at the registry if it is named by an owner and a name. What is counted
are the pieces between slashes, empty ones left out, so that slashes may also stand before the
owner, behind the name and, more than one, between the two. All of them go into the address.

* `Text.pieces` are the pieces that are counted, and `Text.pieces_eq_cons` says where in the text
  the first of them stands.
* `Scope.namesRepository_iff` is the grammar of the names that have an address, and
  `Scope.isOwnerAndName_iff` says which of them have the form of owner and name.
* `repository_has_address` is the main statement.
-/

namespace Quiesce

namespace Text

/-! ## Pieces between slashes -/

/-- The pieces between slashes that are not empty. -/
def pieces (cs : List Char) : List (List Char) :=
  (segments (· = '/') cs).filter (!·.isEmpty)

/-- What can stand between slashes and is not empty. -/
def IsPiece (w : List Char) : Prop :=
  w ≠ [] ∧ '/' ∉ w

@[simp] theorem pieces_nil : pieces [] = [] := rfl

/-- A slash parts the pieces on its left from those on its right. -/
theorem pieces_append (a b : List Char) : pieces (a ++ '/' :: b) = pieces a ++ pieces b := by
  unfold pieces
  rw [segments_append (by decide), List.filter_append]

@[simp] theorem pieces_slash (cs : List Char) : pieces ('/' :: cs) = pieces cs :=
  pieces_append [] cs

/-- A text without slashes is its only piece. -/
theorem pieces_of_isPiece {w : List Char} (h : IsPiece w) : pieces w = [w] := by
  have hbare : ∀ c ∈ w, decide (c = '/') = false := by
    intro c hc
    exact decide_eq_false fun heq => h.2 (heq ▸ hc)
  unfold pieces
  rw [segments_eq_singleton hbare, List.filter_cons, if_pos (by simpa using h.1), List.filter_nil]

/-- Spare slashes make no pieces. -/
theorem pieces_slashes (n : Nat) (cs : List Char) :
    pieces (List.replicate n '/' ++ cs) = pieces cs := by
  induction n with
  | zero => rfl
  | succ n ih => rw [List.replicate_succ, List.cons_append, pieces_slash, ih]

/-- A piece together with what follows it, which begins with a slash. -/
theorem pieces_isPiece_append {w rest : List Char} (h : IsPiece w)
    (hrest : ∀ c ∈ rest.head?, c = '/') : pieces (w ++ rest) = w :: pieces rest := by
  cases rest with
  | nil => rw [List.append_nil, pieces_of_isPiece h, pieces_nil]
  | cons c rest =>
    obtain rfl := hrest c rfl
    rw [pieces_append, pieces_of_isPiece h, pieces_slash, List.singleton_append]

/-- A text that does not begin with a slash begins with a piece. -/
theorem exists_isPiece {c : Char} (hc : c ≠ '/') (cs : List Char) :
    ∃ w rest, c :: cs = w ++ rest ∧ IsPiece w ∧ ∀ d ∈ rest.head?, d = '/' := by
  induction cs generalizing c with
  | nil => exact ⟨[c], [], rfl, ⟨nofun, by simpa using hc.symm⟩, nofun⟩
  | cons d cs ih =>
    by_cases hd : d = '/'
    · exact ⟨[c], d :: cs, rfl, ⟨nofun, by simpa using hc.symm⟩, by simpa using hd⟩
    · obtain ⟨w, rest, hsplit, hw, hrest⟩ := ih hd
      refine ⟨c :: w, rest, by rw [hsplit, List.cons_append], ⟨nofun, ?_⟩, hrest⟩
      exact List.not_mem_cons_of_ne_of_not_mem hc.symm hw.2

/-- A text without pieces is a run of slashes. -/
theorem eq_replicate_of_pieces {cs : List Char} (h : pieces cs = []) :
    ∃ n, cs = List.replicate n '/' := by
  induction cs with
  | nil => exact ⟨0, rfl⟩
  | cons c cs ih =>
    by_cases hc : c = '/'
    · subst hc
      rw [pieces_slash] at h
      obtain ⟨n, rfl⟩ := ih h
      exact ⟨n + 1, rfl⟩
    · obtain ⟨w, rest, hsplit, hw, hrest⟩ := exists_isPiece hc cs
      rw [hsplit, pieces_isPiece_append hw hrest] at h
      cases h

/-- The first piece of a text stands behind a run of slashes, and the others are in what follows
it. -/
theorem pieces_eq_cons {cs w : List Char} {ws : List (List Char)} (h : pieces cs = w :: ws) :
    ∃ n rest, cs = List.replicate n '/' ++ (w ++ rest) ∧ IsPiece w ∧
      (∀ d ∈ rest.head?, d = '/') ∧ pieces rest = ws := by
  induction cs with
  | nil => cases h
  | cons c cs ih =>
    by_cases hc : c = '/'
    · subst hc
      rw [pieces_slash] at h
      obtain ⟨n, rest, rfl, hw, hrest, hws⟩ := ih h
      exact ⟨n + 1, rest, rfl, hw, hrest, hws⟩
    · obtain ⟨v, rest, hsplit, hv, hrest⟩ := exists_isPiece hc cs
      rw [hsplit, pieces_isPiece_append hv hrest] at h
      cases h
      exact ⟨0, rest, hsplit, hv, hrest, rfl⟩

end Text

namespace Scope

open Text (IsPiece pieces)

/-! ## The grammar -/

/-- A repository in the form of owner and name: there is one slash, with something on each side. -/
def IsOwnerAndName (r : String) : Prop :=
  ∃ owner name, r.toList = owner ++ '/' :: name ∧ IsPiece owner ∧ IsPiece name

/-- Owner and name with any number of slashes before, between and behind them, but at least the one
between. -/
def IsLooseOwnerAndName (r : String) : Prop :=
  ∃ before owner between name behind,
    r.toList = List.replicate before '/' ++ (owner ++ '/' :: (List.replicate between '/' ++
      (name ++ List.replicate behind '/'))) ∧ IsPiece owner ∧ IsPiece name

/-- What the client takes for the name of a repository: an owner and a name with any number of
slashes around them. -/
theorem namesRepository_iff {r : String} :
    RegistryClient.namesRepository r = true ↔ IsLooseOwnerAndName r := by
  have hcount : RegistryClient.namesRepository r = true ↔ (pieces r.toList).length = 2 :=
    decide_eq_true_iff
  rw [hcount]
  constructor
  · intro htwo
    obtain ⟨owner, name, hpieces⟩ := List.length_eq_two.1 htwo
    obtain ⟨before, rest, hr, howner, hslash, hrest⟩ := Text.pieces_eq_cons hpieces
    obtain ⟨n, rest', rfl, hname, -, hrest'⟩ := Text.pieces_eq_cons hrest
    obtain ⟨behind, rfl⟩ := Text.eq_replicate_of_pieces hrest'
    cases n with
    | zero =>
      -- the owner would go on with the name
      cases name with
      | nil => exact absurd rfl hname.1
      | cons c name =>
        obtain rfl := hslash c rfl
        exact absurd List.mem_cons_self hname.2
    | succ between => exact ⟨before, owner, between, name, behind, hr, howner, hname⟩
  · rintro ⟨before, owner, between, name, behind, hr, howner, hname⟩
    have hbehind : ∀ c ∈ (List.replicate behind '/').head?, c = '/' := by
      intro c hc
      exact List.eq_of_mem_replicate (List.mem_of_mem_head? hc)
    have hnone : pieces (List.replicate behind '/') = [] := by
      have := Text.pieces_slashes behind []
      rwa [List.append_nil] at this
    rw [hr, Text.pieces_slashes, Text.pieces_append, Text.pieces_of_isPiece howner,
      Text.pieces_slashes, Text.pieces_isPiece_append hname hbehind, hnone]
    rfl

/-- The form of owner and name is the case without a spare slash. -/
theorem isOwnerAndName_iff {r : String} :
    IsOwnerAndName r ↔ IsLooseOwnerAndName r ∧ r.toList.count '/' = 1 := by
  constructor
  · rintro ⟨owner, name, hr, howner, hname⟩
    refine ⟨⟨0, owner, 0, name, 0, by simpa using hr, howner, hname⟩, ?_⟩
    rw [hr, List.count_append, List.count_cons_self, List.count_eq_zero.2 howner.2,
      List.count_eq_zero.2 hname.2]
  · rintro ⟨⟨before, owner, between, name, behind, hr, howner, hname⟩, hone⟩
    rw [hr] at hone
    simp only [List.count_append, List.count_cons_self, List.count_replicate_self,
      List.count_eq_zero.2 howner.2, List.count_eq_zero.2 hname.2] at hone
    obtain ⟨rfl, rfl, rfl⟩ : before = 0 ∧ between = 0 ∧ behind = 0 := by omega
    exact ⟨owner, name, by simpa using hr, howner, hname⟩

end Scope

/-! ## Addresses -/

/-- The address of a repository, and the failure without one. -/
theorem RegistryClient.runnersUrl_repository (client : RegistryClient) {scope : Scope} {r : String}
    (hlevel : scope.level? = some (.repository r)) :
    client.runnersUrl scope =
      if namesRepository r then .ok (client.base ++ ("/repos/" ++ r) ++ "/actions/runners")
      else .error (.invalidRequest
        ("repository must be in owner/name form, got " ++ Text.quote r)) := by
  unfold runnersUrl levelPath
  rw [hlevel]
  dsimp only
  by_cases hnames : namesRepository r = true
  · rw [if_pos hnames, if_pos hnames]
    rfl
  · rw [if_neg hnames, if_neg hnames]
    rfl

/-- **Which repositories have an address.** A scope that comes down to a repository has an address
exactly if the repository is named by an owner and a name with any number of slashes before, between
and behind them; all of them go into the address. Any other name is refused. So the form of owner
and name is what is asked for, except of names with spare slashes. -/
theorem repository_has_address (client : RegistryClient) {scope : Scope} {r : String}
    (hlevel : scope.level? = some (.repository r)) :
    ((∃ url, client.runnersUrl scope = .ok url) ↔ Scope.IsLooseOwnerAndName r) ∧
      (((∃ url, client.runnersUrl scope = .ok url) ↔ Scope.IsOwnerAndName r) ↔
        ¬(Scope.IsLooseOwnerAndName r ∧ 1 < r.toList.count '/')) ∧
      (Scope.IsLooseOwnerAndName r →
        client.runnersUrl scope = .ok (client.base ++ ("/repos/" ++ r) ++ "/actions/runners")) ∧
      (¬Scope.IsLooseOwnerAndName r →
        client.runnersUrl scope = .error (.invalidRequest
          ("repository must be in owner/name form, got " ++ Text.quote r))) := by
  have hurl := client.runnersUrl_repository hlevel
  have haccepted : (∃ url, client.runnersUrl scope = .ok url) ↔ Scope.IsLooseOwnerAndName r := by
    rw [hurl, ← Scope.namesRepository_iff]
    cases RegistryClient.namesRepository r with
    | true => simp
    | false => simp
  -- owner and name have a slash between them
  have hslash : Scope.IsLooseOwnerAndName r → 0 < r.toList.count '/' := by
    rintro ⟨before, owner, between, name, behind, hr, -, -⟩
    rw [hr]
    exact List.count_pos_iff.2 (by simp)
  refine ⟨haccepted, ?_, fun h => ?_, fun h => ?_⟩
  · rw [haccepted, Scope.isOwnerAndName_iff]
    constructor
    · rintro hsame ⟨hloose, hspare⟩
      have := (hsame.1 hloose).2
      omega
    · intro hnone
      refine ⟨fun hloose => ⟨hloose, ?_⟩, And.left⟩
      have hatLeast := hslash hloose
      have hatMost : ¬1 < r.toList.count '/' := fun hspare => hnone ⟨hloose, hspare⟩
      omega
  · rw [hurl, if_pos (Scope.namesRepository_iff.2 h)]
  · rw [hurl, if_neg fun hnames => h (Scope.namesRepository_iff.1 hnames)]

theorem repository_has_address_acme :
    (Scope.ofRepository "acme/app").level? = some (.repository "acme/app") ∧
      ((∃ url, (RegistryClient.ofUrl "https://registry.test/" none).runnersUrl
        (.ofRepository "acme/app") = .ok url) ↔ Scope.IsOwnerAndName "acme/app") := by
  have hlevel : (Scope.ofRepository "acme/app").level? = some (.repository "acme/app") := by decide
  have hone : ¬(Scope.IsLooseOwnerAndName "acme/app" ∧ 1 < "acme/app".toList.count '/') := by
    rintro ⟨-, hspare⟩
    exact absurd hspare (by decide)
  exact ⟨hlevel, (repository_has_address _ hlevel).2.1.2 hone⟩

/-- A repository with two slashes between owner and name does not have their form, but an address,
which holds both slashes. -/
theorem spare_slash_has_address :
    let client := RegistryClient.ofUrl "https://registry.test" none
    (Scope.ofRepository "acme//app").level? = some (.repository "acme//app") ∧
      client.runnersUrl (.ofRepository "acme//app") =
        .ok "https://registry.test/repos/acme//app/actions/runners" ∧
      ¬Scope.IsOwnerAndName "acme//app" := by
  intro client
  refine ⟨by decide, by rfl, fun hform => ?_⟩
  have hone := (Scope.isOwnerAndName_iff.1 hform).2
  exact absurd hone (by decide)

end Quiesce
