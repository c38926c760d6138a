import Mathlib.Data.List.Basic
import Mathlib.Data.List.TakeWhile
import Quiesce.Proofs.Digits
import Quiesce.Proofs.RunnerIds
import Quiesce.Registry.Client

/-!
# Addresses tell scopes and runners apart

The address of the runners of a scope holds the text of the scope as it is, between words that are
always the same, and the text may hold slashes and these words itself. No two scopes share an
address all the same, and no two runners: the kind of a scope is what stands before the first slash
behind the base, the text is what is left of the words around it, and the number of a runner is what
stands behind the last slash.

* `Text.firstSlash_inj` and `Text.lastSlash_inj` take an address apart at a slash.
* `RegistryClient.runnersUrl_eq` is the form of an address and `RegistryClient.runnersUrl_inj` reads
  the scope off it.
* `Http.baseUrl_spec` says what the base is that all addresses begin with.
* `addresses_identify` is the main statement.
-/

namespace Quiesce

namespace Text

/-! ## Slashes -/

/-- Two texts that are the same, cut at their first slash. -/
theorem firstSlash_inj {a b c d : List Char} (ha : '/' ∉ a) (hb : '/' ∉ b)
    (h : a ++ '/' :: c = b ++ '/' :: d) : a = b ∧ c = d := by
  induction a generalizing b with
  | nil =>
    cases b with
    | nil => exact ⟨rfl, List.cons.inj h |>.2⟩
    | cons y b => exact absurd (List.cons.inj h).1 (List.ne_of_not_mem_cons hb)
  | cons x a ih =>
    cases b with
    | nil => exact absurd (List.cons.inj h).1.symm (List.ne_of_not_mem_cons ha)
    | cons y b =>
      obtain ⟨rfl, htail⟩ := List.cons.inj h
      obtain ⟨rfl, rfl⟩ := ih (List.not_mem_of_not_mem_cons ha) (List.not_mem_of_not_mem_cons hb)
        htail
      exact ⟨rfl, rfl⟩

/-- Two texts that are the same, cut at their last slash. -/
theorem lastSlash_inj {a b c d : List Char} (hc : '/' ∉ c) (hd : '/' ∉ d)
    (h : a ++ '/' :: c = b ++ '/' :: d) : a = b ∧ c = d := by
  have hreversed : c.reverse ++ '/' :: a.reverse = d.reverse ++ '/' :: b.reverse := by
    simpa using congrArg List.reverse h
  obtain ⟨hcd, hab⟩ := firstSlash_inj (by simpa using hc) (by simpa using hd) hreversed
  exact ⟨List.reverse_injective hab, List.reverse_injective hcd⟩

/-- An integer is written in digits, but for its sign. -/
theorem eq_minus_or_isDigit_of_mem_intText {i : Int} {c : Char} (h : c ∈ (intText i).toList) :
    c = '-' ∨ c.isDigit = true := by
  unfold intText at h
  rw [String.toList_ofList, List.mem_append] at h
  rcases h with hsign | hdigit
  · by_cases hneg : i < 0
    · rw [if_pos hneg] at hsign
      exact Or.inl (List.mem_singleton.1 hsign)
    · rw [if_neg hneg] at hsign
      exact absurd hsign List.not_mem_nil
  · exact Or.inr (isDigit_of_mem_toDigits c hdigit)

/-- A number is written without slashes. -/
theorem slash_notMem_intText (i : Int) : '/' ∉ (intText i).toList :=
  fun hslash => absurd (eq_minus_or_isDigit_of_mem_intText hslash) (by decide)

/-- No number is written by that word. -/
theorem intText_ne_runners (i : Int) : intText i ≠ "runners" := by
  intro heq
  have hletter : 'n' ∈ (intText i).toList := by rw [heq]; decide
  exact absurd (eq_minus_or_isDigit_of_mem_intText hletter) (by decide)

end Text

/-! ## The base -/

/-- The text is the base, one slash, and something that does not begin with another. -/
def Http.IsBelow (base text : String) : Prop :=
  ∃ c rest, text.toList = base.toList ++ '/' :: c :: rest ∧ c ≠ '/'

/-- The base is the URL without the slashes at its end. -/
theorem Http.baseUrl_spec (url : String) :
    (∃ n, url.toList = (baseUrl url).toList ++ List.replicate n '/') ∧
      (baseUrl url).toList.getLast? ≠ some '/' := by
  have hbase : (baseUrl url).toList = (url.toList.reverse.dropWhile (· = '/')).reverse :=
    String.toList_ofList
  rw [hbase]
  constructor
  · refine ⟨(url.toList.reverse.takeWhile (· = '/')).length, ?_⟩
    have hall : ∀ c ∈ url.toList.reverse.takeWhile (· = '/'), c = '/' := fun c hc =>
      of_decide_eq_true (List.mem_takeWhile_imp (p := fun c => decide (c = '/')) hc)
    rw [← List.reverse_replicate, ← List.eq_replicate_of_mem hall, ← List.reverse_append,
      List.takeWhile_append_dropWhile, List.reverse_reverse]
  · rw [List.getLast?_reverse]
    have hfirst := List.head?_dropWhile_not (· = '/') url.toList.reverse
    intro hslash
    rw [hslash] at hfirst
    exact absurd hfirst (by decide)

namespace Scope.Level

/-- The word under which the registry keeps the scopes of a kind. -/
def collection : Level → String
  | .enterprise _ => "enterprises"
  | .organization _ => "orgs"
  | .repository _ => "repos"

theorem slash_notMem_collection (level : Level) : '/' ∉ level.collection.toList := by
  cases level with
  | enterprise e => simp [collection]
  | organization o => simp [collection]
  | repository r => simp [collection]

/-- A level is its kind and its text. -/
theorem eq_of_collection {l l' : Level} (hkind : l.collection = l'.collection)
    (hname : l.name = l'.name) : l = l' := by
  cases l with
  | enterprise e =>
    cases l' with
    | enterprise e' => exact congrArg enterprise hname
    | organization o' => simp [collection] at hkind
    | repository r' => simp [collection] at hkind
  | organization o =>
    cases l' with
    | enterprise e' => simp [collection] at hkind
    | organization o' => exact congrArg organization hname
    | repository r' => simp [collection] at hkind
  | repository r =>
    cases l' with
    | enterprise e' => simp [collection] at hkind
    | organization o' => simp [collection] at hkind
    | repository r' => exact congrArg repository hname

end Scope.Level

namespace RegistryClient

/-! ## The runners of a scope -/

variable {client : RegistryClient} {scope scope' : Scope} {runners runners' : String}

/-- The path of a level, if it has one, is the collection and the name in it. -/
theorem levelPath_eq {level : Scope.Level} {path : String} (h : levelPath level = .ok path) :
    path = "/" ++ level.collection ++ "/" ++ level.name := by
  cases level with
  | enterprise e =>
    cases h
    rfl
  | organization o =>
    cases h
    rfl
  | repository r =>
    unfold levelPath at h
    dsimp only at h
    by_cases hnames : namesRepository r = true
    · rw [if_pos hnames] at h
      cases h
      rfl
    · rw [if_neg hnames] at h
      cases h

/-- The form of the address of the runners of a scope. -/
theorem runnersUrl_eq (h : client.runnersUrl scope = .ok runners) :
    ∃ level, scope.level? = some level ∧
      runners = client.base ++ ("/" ++ level.collection ++ "/" ++ level.name) ++
        "/actions/runners" := by
  unfold runnersUrl at h
  cases hlevel : scope.level? with
  | none =>
    rw [hlevel] at h
    cases h
  | some level =>
    rw [hlevel] at h
    dsimp only at h
    cases hpath : levelPath level with
    | error e =>
      rw [hpath] at h
      cases h
    | ok path =>
      rw [hpath] at h
      cases h
      exact ⟨level, rfl, by rw [levelPath_eq hpath]⟩

/-- The scope is read off the address of its runners. -/
theorem runnersUrl_inj (h : client.runnersUrl scope = .ok runners)
    (h' : client.runnersUrl scope' = .ok runners) :
    ∃ level, scope.level? = some level ∧ scope'.level? = some level := by
  obtain ⟨level, hlevel, hrunners⟩ := runnersUrl_eq h
  obtain ⟨level', hlevel', hrunners'⟩ := runnersUrl_eq h'
  have hpath : "/" ++ level.collection ++ "/" ++ level.name =
      "/" ++ level'.collection ++ "/" ++ level'.name := by
    have := hrunners.symm.trans hrunners'
    rwa [String.append_left_inj, String.append_right_inj] at this
  have hsegments : level.collection.toList ++ '/' :: level.name.toList =
      level'.collection.toList ++ '/' :: level'.name.toList := by
    have := congrArg String.toList hpath
    simpa [String.toList_append] using this
  obtain ⟨hkind, hname⟩ := Text.firstSlash_inj level.slash_notMem_collection
    level'.slash_notMem_collection hsegments
  obtain rfl := Scope.Level.eq_of_collection (String.toList_injective hkind)
    (String.toList_injective hname)
  exact ⟨level, hlevel, hlevel'⟩

/-- Scopes of one level have one address. -/
theorem runnersUrl_congr (client : RegistryClient) (h : scope.level? = scope'.level?) :
    client.runnersUrl scope = client.runnersUrl scope' := by
  unfold runnersUrl
  rw [h]

/-! ## One of the runners -/

/-- The address of a runner is that of its collection with the number as a further segment. -/
theorem toList_runnerUrl (runners : String) (id : Int64) :
    (runnerUrl runners id).toList = runners.toList ++ '/' :: (Text.intText id.toInt).toList := by
  unfold runnerUrl
  simp [String.toList_append]

/-- The runner is read off its address. -/
theorem runnerUrl_inj {id id' : Int64} (h : runnerUrl runners id = runnerUrl runners' id') :
    runners = runners' ∧ id = id' := by
  have hsegments := congrArg String.toList h
  rw [toList_runnerUrl, toList_runnerUrl] at hsegments
  obtain ⟨hrunners, hnumber⟩ := Text.lastSlash_inj (Text.slash_notMem_intText _)
    (Text.slash_notMem_intText _) hsegments
  refine ⟨String.toList_injective hrunners, ?_⟩
  -- the number is read back from its text
  have hread : Text.readInt64 (runnerIdText id) = Text.readInt64 (runnerIdText id') :=
    congrArg Text.readInt64 (String.toList_injective hnumber)
  rw [readInt64_runnerIdText, readInt64_runnerIdText] at hread
  exact Except.ok.inj hread

/-- The address of the runners of a scope ends in a word, that of a runner in a number. -/
theorem runnersUrl_ne_runnerUrl (h : client.runnersUrl scope = .ok runners) (id : Int64) :
    runners ≠ runnerUrl runners' id := by
  obtain ⟨level, -, hrunners⟩ := runnersUrl_eq h
  intro heq
  have hsegments := congrArg String.toList heq
  have hword : runners.toList =
      (client.base ++ ("/" ++ level.collection ++ "/" ++ level.name) ++ "/actions").toList ++
        '/' :: "runners".toList := by
    rw [hrunners]
    simp [String.toList_append]
  rw [hword, toList_runnerUrl] at hsegments
  obtain ⟨-, hnumber⟩ := Text.lastSlash_inj (by decide) (Text.slash_notMem_intText _) hsegments
  exact Text.intText_ne_runners _ (String.toList_injective hnumber.symm)

/-- Behind the base there is one slash. -/
theorem isBelow_runnersUrl (h : client.runnersUrl scope = .ok runners) :
    Http.IsBelow client.base runners := by
  obtain ⟨level, -, rfl⟩ := runnersUrl_eq h
  cases level with
  | enterprise e =>
    exact ⟨'e', "nterprises/".toList ++ e.toList ++ "/actions/runners".toList,
      by simp [String.toList_append, Scope.Level.collection, Scope.Level.name], by decide⟩
  | organization o =>
    exact ⟨'o', "rgs/".toList ++ o.toList ++ "/actions/runners".toList,
      by simp [String.toList_append, Scope.Level.collection, Scope.Level.name], by decide⟩
  | repository r =>
    exact ⟨'r', "epos/".toList ++ r.toList ++ "/actions/runners".toList,
      by simp [String.toList_append, Scope.Level.collection, Scope.Level.name], by decide⟩

theorem isBelow_runnerUrl {base : String} (h : Http.IsBelow base runners) (id : Int64) :
    Http.IsBelow base (runnerUrl runners id) := by
  obtain ⟨c, rest, hrunners, hc⟩ := h
  refine ⟨c, rest ++ '/' :: (Text.intText id.toInt).toList, ?_, hc⟩
  rw [toList_runnerUrl, hrunners]
  simp

end RegistryClient

/-- **Addresses tell scopes and runners apart.** At one registry, two scopes have one address for
their runners exactly if they come down to the same level with the same text, and two runners have
one address exactly if their scopes do and their numbers are the same; no address is both that of
the runners of a scope and that of a runner. All of them begin with the URL of the registry without
the slashes at its end, and one slash. -/
theorem addresses_identify (url : String) (token : Option String) {scope scope' : Scope}
    {runners runners' : String}
    (h : (RegistryClient.ofUrl url token).runnersUrl scope = .ok runners)
    (h' : (RegistryClient.ofUrl url token).runnersUrl scope' = .ok runners') :
    (runners = runners' ↔ ∃ level, scope.level? = some level ∧ scope'.level? = some level) ∧
      (∀ id id', RegistryClient.runnerUrl runners id = RegistryClient.runnerUrl runners' id' ↔
        (∃ level, scope.level? = some level ∧ scope'.level? = some level) ∧ id = id') ∧
      (∀ id, runners ≠ RegistryClient.runnerUrl runners' id) ∧
      ∃ base : String, (∃ n, url.toList = base.toList ++ List.replicate n '/') ∧
        base.toList.getLast? ≠ some '/' ∧ Http.IsBelow base runners ∧
        ∀ id, Http.IsBelow base (RegistryClient.runnerUrl runners id) := by
  have hsame : runners = runners' ↔
      ∃ level, scope.level? = some level ∧ scope'.level? = some level := by
    constructor
    · rintro rfl
      exact RegistryClient.runnersUrl_inj h h'
    · rintro ⟨level, hlevel, hlevel'⟩
      have := (RegistryClient.ofUrl url token).runnersUrl_congr (hlevel.trans hlevel'.symm)
      rw [h, h'] at this
      exact Except.ok.inj this
  have hbelow := RegistryClient.isBelow_runnersUrl h
  obtain ⟨hbase, hend⟩ := Http.baseUrl_spec url
  refine ⟨hsame, fun id id' => ?_, RegistryClient.runnersUrl_ne_runnerUrl h,
    Http.baseUrl url, hbase, hend, hbelow, RegistryClient.isBelow_runnerUrl hbelow⟩
  rw [← hsame]
  constructor
  · exact RegistryClient.runnerUrl_inj
  · rintro ⟨rfl, rfl⟩
    rfl

/-! ### Two scopes that look alike

An organization whose text goes on like the address of a repository. -/

/-- The organization. -/
def lookalikeScope : Scope :=
  .ofOrganization "acme/actions/runners/7/repos/acme/app"

/-- An organization that is named like the address of a runner has no address in common with the
repository that the name ends in. -/
theorem addresses_identify_lookalike :
    let client := RegistryClient.ofUrl "https://registry.test//" none
    ∃ runners runners', client.runnersUrl lookalikeScope = .ok runners ∧
      client.runnersUrl (.ofRepository "acme/app") = .ok runners' ∧
      runners ≠ runners' ∧
      ∀ id id', RegistryClient.runnerUrl runners id ≠ RegistryClient.runnerUrl runners' id' := by
  intro client
  have h : client.runnersUrl lookalikeScope = .ok
      "https://registry.test/orgs/acme/actions/runners/7/repos/acme/app/actions/runners" := by rfl
  have h' : client.runnersUrl (.ofRepository "acme/app") =
      .ok "https://registry.test/repos/acme/app/actions/runners" := by rfl
  obtain ⟨hscopes, hrunners, -⟩ := addresses_identify "https://registry.test//" none h h'
  have hother : ¬∃ level, lookalikeScope.level? = some level ∧
      (Scope.ofRepository "acme/app").level? = some level := by
    rintro ⟨level, hlevel, hlevel'⟩
    have : lookalikeScope.level? = (Scope.ofRepository "acme/app").level? :=
      hlevel.trans hlevel'.symm
    exact absurd this (by decide)
  exact ⟨_, _, h, h', fun heq => hother (hscopes.1 heq),
    fun id id' heq => hother ((hrunners id id').1 heq).1⟩

end Quiesce
