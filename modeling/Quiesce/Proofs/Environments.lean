import Quiesce.Config
import Quiesce.Proofs.IntegerTexts

/-!
# Which environments are accepted

A drain starts if a configuration can be read from its environment and has no flaw. Any variable may
be unset, may hold bytes that are no text, or any text at all, and most have a default to fall back
on. This module says what an environment has to hold, and that nothing else is asked of it.

* `Environment.Holds` is the text of a variable; `Environment.Tells` and `Environment.TellsSeconds`
  are what becomes of it where there is a default.
* `Config.ReadFrom` is what a configuration has from the environment that it was read from, and
  `Config.IsFlawless` what is asked of it: `Config.ofEnvironment_eq_ok_iff` and
  `Config.validate_eq_ok_iff`.
* `Environment.Accepted` puts the two together, and `accepted_environments` is the main statement.
-/

namespace Quiesce

/-! ## The texts of an environment -/

namespace Environment

variable {env : Environment} {name s : String}

/-- The variable is set, to the bytes of that text. -/
def Holds (env : Environment) (name s : String) : Prop :=
  env name = some s.toUTF8

/-- A variable has a text exactly if its bytes are the text in UTF-8. -/
theorem text?_eq_some_iff : env.text? name = some s ↔ env.Holds name s := by
  unfold text? Holds
  rw [Option.bind_eq_some_iff]
  constructor
  · rintro ⟨bytes, hbytes, hdecoded⟩
    unfold String.fromUTF8? at hdecoded
    by_cases hvalid : bytes.IsValidUTF8
    · rw [dif_pos hvalid] at hdecoded
      cases hdecoded
      exact hbytes
    · rw [dif_neg hvalid] at hdecoded
      cases hdecoded
  · intro hbytes
    refine ⟨s.toUTF8, hbytes, ?_⟩
    unfold String.fromUTF8?
    exact dif_pos s.isValidUTF8

/-- A variable has one text only. -/
theorem Holds.unique {t : String} (hs : env.Holds name s) (ht : env.Holds name t) : s = t := by
  rw [← text?_eq_some_iff] at hs ht
  rw [ht] at hs
  exact (Option.some.inj hs).symm

theorem text?_eq_none_iff : env.text? name = none ↔ ∀ s, ¬env.Holds name s := by
  rw [Option.eq_none_iff_forall_ne_some]
  exact forall_congr' fun s => not_congr text?_eq_some_iff

theorem text?_eq_iff {o : Option String} :
    env.text? name = o ↔ ∀ s, o = some s ↔ env.Holds name s := by
  rw [eq_comm, Option.ext_iff]
  exact forall_congr' fun s => iff_congr Iff.rfl text?_eq_some_iff

/-- What a variable with a default comes down to: its text, if it has one. -/
inductive Tells (env : Environment) (name default : String) : String → Prop
  | held {s : String} (holds : env.Holds name s) : Tells env name default s
  | unheld (none : ∀ s, ¬env.Holds name s) : Tells env name default default

/-- A variable that has no text leaves the default in force. -/
theorem getD_text?_eq_iff {default : String} :
    (env.text? name).getD default = s ↔ env.Tells name default s := by
  constructor
  · rintro rfl
    cases htext : env.text? name with
    | none => exact .unheld (text?_eq_none_iff.1 htext)
    | some t => exact .held (text?_eq_some_iff.1 htext)
  · intro h
    cases h with
    | held holds =>
      rw [text?_eq_some_iff.2 holds]
      rfl
    | unheld none =>
      rw [text?_eq_none_iff.2 none]
      rfl

/-- What a variable for a time comes down to: the seconds that it holds, if it holds a number. -/
inductive TellsSeconds (env : Environment) (name : String) (default : Duration) : Duration → Prop
  | held {s : String} {n : Nat} (holds : env.Holds name s) (word : Text.IsWord64 s n) :
      TellsSeconds env name default (.ofSeconds n)
  | unheld (none : ∀ s n, env.Holds name s → ¬Text.IsWord64 s n) :
      TellsSeconds env name default default

/-- A number of seconds is read from a variable that writes one. -/
theorem seconds?_of_holds {n : Nat} (h : env.Holds name s) (hword : Text.IsWord64 s n) :
    env.seconds? name = some (.ofSeconds n) := by
  unfold seconds?
  rw [text?_eq_some_iff.2 h, Option.bind_some, Text.readWord64_eq_ok_iff.2 hword]
  rfl

/-- Whatever else a variable holds is as good as nothing. -/
theorem seconds?_of_none (h : ∀ s n, env.Holds name s → ¬Text.IsWord64 s n) :
    env.seconds? name = none := by
  unfold seconds?
  cases htext : env.text? name with
  | none => rfl
  | some s =>
    rw [Option.bind_some]
    cases hread : Text.readWord64 s with
    | error e => rfl
    | ok n => exact absurd (Text.readWord64_eq_ok_iff.1 hread) (h s n (text?_eq_some_iff.1 htext))

/-- A variable that holds no number of seconds leaves the default in force. -/
theorem getD_seconds?_eq_iff {default d : Duration} :
    (env.seconds? name).getD default = d ↔ env.TellsSeconds name default d := by
  constructor
  · rintro rfl
    by_cases hheld : ∃ s n, env.Holds name s ∧ Text.IsWord64 s n
    · obtain ⟨s, n, hholds, hword⟩ := hheld
      rw [seconds?_of_holds hholds hword]
      exact .held hholds hword
    · have hnone : ∀ s n, env.Holds name s → ¬Text.IsWord64 s n :=
        fun s n hholds hword => hheld ⟨s, n, hholds, hword⟩
      rw [seconds?_of_none hnone]
      exact .unheld hnone
  · intro h
    cases h with
    | held holds word =>
      rw [seconds?_of_holds holds word]
      rfl
    | unheld none =>
      rw [seconds?_of_none none]
      rfl

end Environment

/-! ## What is read -/

namespace Config

variable {env : Environment} {c : Config}

theorem required_eq_ok_iff {name s : String} : required env name = .ok s ↔ env.Holds name s := by
  rw [← Environment.text?_eq_some_iff]
  unfold required
  cases env.text? name with
  | none => exact ⟨nofun, nofun⟩
  | some t => simp

/-- The configuration that an environment holds: three variables have to be set, and what else is
not there is left out or has its default. -/
structure ReadFrom (env : Environment) (c : Config) : Prop where
  registryUrl : env.Holds "REGISTRY_URL" c.registryUrl
  registryToken : ∀ s, c.registryToken = some s ↔ env.Holds "REGISTRY_TOKEN" s
  clusterUrl : env.Holds "CLUSTER_API_URL" c.clusterUrl
  clusterToken : ∀ s, c.clusterToken = some s ↔ env.Holds "CLUSTER_TOKEN" s
  enterprise : ∀ s, c.scope.enterprise = some s ↔ env.Holds "RUNNER_ENTERPRISE" s
  organization : ∀ s, c.scope.organization = some s ↔ env.Holds "RUNNER_ORGANIZATION" s
  repository : ∀ s, c.scope.repository = some s ↔ env.Holds "RUNNER_REPOSITORY" s
  runnerName : env.Holds "RUNNER_NAME" c.runnerName
  podNamespace : env.Tells "POD_NAMESPACE" "default" c.podNamespace
  podName : env.Tells "POD_NAME" c.runnerName c.podName
  timeout : env.TellsSeconds "UNREGISTRATION_TIMEOUT" (.ofSeconds 60) c.unregistrationTimeout
  retryDelay : env.TellsSeconds "UNREGISTRATION_RETRY_DELAY" (.ofSeconds 10) c.retryDelay

/-- Three variables are all that has to be there. The others are read as far as they can be. -/
theorem ofEnvironment_of_holds {registryUrl clusterUrl runnerName : String}
    (hregistry : env.Holds "REGISTRY_URL" registryUrl)
    (hcluster : env.Holds "CLUSTER_API_URL" clusterUrl)
    (hrunner : env.Holds "RUNNER_NAME" runnerName) :
    ofEnvironment env = .ok {
      registryUrl := registryUrl
      registryToken := env.text? "REGISTRY_TOKEN"
      clusterUrl := clusterUrl
      clusterToken := env.text? "CLUSTER_TOKEN"
      scope := {
        enterprise := env.text? "RUNNER_ENTERPRISE"
        organization := env.text? "RUNNER_ORGANIZATION"
        repository := env.text? "RUNNER_REPOSITORY" }
      runnerName := runnerName
      podNamespace := (env.text? "POD_NAMESPACE").getD "default"
      podName := (env.text? "POD_NAME").getD runnerName
      unregistrationTimeout := (env.seconds? "UNREGISTRATION_TIMEOUT").getD (.ofSeconds 60)
      retryDelay := (env.seconds? "UNREGISTRATION_RETRY_DELAY").getD (.ofSeconds 10) } := by
  unfold ofEnvironment
  rw [required_eq_ok_iff.2 hregistry, required_eq_ok_iff.2 hcluster, required_eq_ok_iff.2 hrunner]
  rfl

/-- Nothing is read unless the three variables without a default are set. -/
theorem holds_of_ofEnvironment (h : ofEnvironment env = .ok c) :
    (∃ s, env.Holds "REGISTRY_URL" s) ∧ (∃ s, env.Holds "CLUSTER_API_URL" s) ∧
      ∃ s, env.Holds "RUNNER_NAME" s := by
  unfold ofEnvironment at h
  cases hregistry : required env "REGISTRY_URL" with
  | error m =>
    rw [hregistry] at h
    cases h
  | ok registryUrl =>
    rw [hregistry] at h
    cases hcluster : required env "CLUSTER_API_URL" with
    | error m =>
      rw [hcluster] at h
      cases h
    | ok clusterUrl =>
      rw [hcluster] at h
      cases hrunner : required env "RUNNER_NAME" with
      | error m =>
        rw [hrunner] at h
        cases h
      | ok runnerName =>
        exact ⟨⟨registryUrl, required_eq_ok_iff.1 hregistry⟩,
          ⟨clusterUrl, required_eq_ok_iff.1 hcluster⟩, runnerName, required_eq_ok_iff.1 hrunner⟩

/-- **A configuration is read exactly if it is the one that the environment holds.** -/
theorem ofEnvironment_eq_ok_iff : ofEnvironment env = .ok c ↔ c.ReadFrom env := by
  constructor
  · intro h
    obtain ⟨⟨registryUrl, hregistry⟩, ⟨clusterUrl, hcluster⟩, runnerName, hrunner⟩ :=
      holds_of_ofEnvironment h
    rw [ofEnvironment_of_holds hregistry hcluster hrunner] at h
    cases h
    exact {
      registryUrl := hregistry
      registryToken := Environment.text?_eq_iff.1 rfl
      clusterUrl := hcluster
      clusterToken := Environment.text?_eq_iff.1 rfl
      enterprise := Environment.text?_eq_iff.1 rfl
      organization := Environment.text?_eq_iff.1 rfl
      repository := Environment.text?_eq_iff.1 rfl
      runnerName := hrunner
      podNamespace := Environment.getD_text?_eq_iff.1 rfl
      podName := Environment.getD_text?_eq_iff.1 rfl
      timeout := Environment.getD_seconds?_eq_iff.1 rfl
      retryDelay := Environment.getD_seconds?_eq_iff.1 rfl }
  · intro h
    rw [ofEnvironment_of_holds h.registryUrl h.clusterUrl h.runnerName,
      Environment.text?_eq_iff.2 h.registryToken, Environment.text?_eq_iff.2 h.clusterToken,
      Environment.text?_eq_iff.2 h.enterprise, Environment.text?_eq_iff.2 h.organization,
      Environment.text?_eq_iff.2 h.repository, Environment.getD_text?_eq_iff.2 h.podNamespace,
      Environment.getD_text?_eq_iff.2 h.podName, Environment.getD_seconds?_eq_iff.2 h.timeout,
      Environment.getD_seconds?_eq_iff.2 h.retryDelay]

end Config

/-! ## What is asked of it -/

namespace Scope

/-- One of the three places is named, and not by white space alone. -/
def NamesPlace (s : Scope) : Prop :=
  ∃ name, (s.enterprise = some name ∨ s.organization = some name ∨ s.repository = some name) ∧
    ∃ c ∈ name.toList, Text.isBlank c = false

/-- A name counts if it is not blank. -/
theorem named_eq_some_iff {o : Option String} {name : String} :
    named o = some name ↔ o = some name ∧ ∃ c ∈ name.toList, Text.isBlank c = false := by
  unfold named Text.isAllBlank
  rw [Option.filter_eq_some_iff, Bool.not_eq_true', List.all_eq_false]
  simp only [Bool.not_eq_true]

/-- The order in which the places are looked at does not matter for whether there is one. -/
theorem isSome_level?_iff {s : Scope} : s.level?.isSome = true ↔ s.NamesPlace := by
  have hlevel : s.level?.isSome = true ↔ ∃ name,
      named s.enterprise = some name ∨ named s.organization = some name ∨
        named s.repository = some name := by
    unfold level?
    cases named s.enterprise with
    | some e => simp
    | none =>
      cases named s.organization with
      | some o => simp
      | none =>
        cases named s.repository with
        | some r => simp
        | none => simp
  rw [hlevel]
  simp only [named_eq_some_iff, ← or_and_right]
  exact Iff.rfl

end Scope

namespace Config

/-- The text begins like the URL of a web service. -/
def IsWebUrl (url : String) : Prop :=
  ∃ rest, url.toList = "http://".toList ++ rest ∨ url.toList = "https://".toList ++ rest

theorem looksLikeWeb_iff {url : String} : looksLikeWeb url = true ↔ IsWebUrl url := by
  unfold looksLikeWeb IsWebUrl
  rw [Bool.or_eq_true, List.isPrefixOf_iff_prefix, List.isPrefixOf_iff_prefix, exists_or]
  exact or_congr (exists_congr fun _ => eq_comm) (exists_congr fun _ => eq_comm)

/-- Nothing keeps the configuration from being acted on. -/
structure IsFlawless (c : Config) : Prop where
  registryUrl : IsWebUrl c.registryUrl
  clusterUrl : IsWebUrl c.clusterUrl
  scope : c.scope.NamesPlace
  runnerName : c.runnerName ≠ ""
  podName : c.podName ≠ ""
  podNamespace : c.podNamespace ≠ ""
  timeout : 0 < c.unregistrationTimeout.nanoseconds
  retryDelay : 0 < c.retryDelay.nanoseconds

/-- A check in a row of checks is passed before the next one is made. -/
theorem check_eq_ok_iff {p : Prop} [Decidable p] {f : Flaw} {rest : Except Flaw Unit} :
    (if p then .error f else rest) = .ok () ↔ ¬p ∧ rest = .ok () := by
  by_cases hp : p
  · rw [if_pos hp]
    exact ⟨nofun, fun h => absurd hp h.1⟩
  · rw [if_neg hp]
    exact ⟨fun h => ⟨hp, h⟩, fun h => h.2⟩

/-- **A configuration is valid exactly if it has no flaw.** One check after the other is passed. -/
theorem validate_eq_ok_iff {c : Config} : c.validate = .ok () ↔ c.IsFlawless := by
  have hscope : ¬c.scope.level?.isNone = true ↔ c.scope.NamesPlace := by
    rw [← Scope.isSome_level?_iff]
    cases c.scope.level? <;> simp
  have htime : ∀ d : Duration, ¬d.isZero = true ↔ 0 < d.nanoseconds := by
    intro d
    simp [Duration.isZero, Nat.pos_iff_ne_zero]
  unfold validate
  simp only [check_eq_ok_iff, hscope, htime, Bool.not_eq_true', Bool.not_eq_false,
    looksLikeWeb_iff, Bool.or_eq_true, not_or, String.isEmpty_iff, and_true]
  constructor
  · rintro ⟨hregistry, hcluster, hscope, hrunner, ⟨hpod, hnamespace⟩, htimeout, hdelay⟩
    exact ⟨hregistry, hcluster, hscope, hrunner, hpod, hnamespace, htimeout, hdelay⟩
  · rintro ⟨hregistry, hcluster, hscope, hrunner, hpod, hnamespace, htimeout, hdelay⟩
    exact ⟨hregistry, hcluster, hscope, hrunner, ⟨hpod, hnamespace⟩, htimeout, hdelay⟩

end Config

/-! ## Which environments are accepted -/

/-- What is asked of the variables, so that a configuration can be read and acted on. -/
structure Environment.Accepted (env : Environment) : Prop where
  registryUrl : ∃ url, env.Holds "REGISTRY_URL" url ∧ Config.IsWebUrl url
  clusterUrl : ∃ url, env.Holds "CLUSTER_API_URL" url ∧ Config.IsWebUrl url
  runnerName : ∃ name, env.Holds "RUNNER_NAME" name ∧ name ≠ ""
  scope : ∃ name, (env.Holds "RUNNER_ENTERPRISE" name ∨ env.Holds "RUNNER_ORGANIZATION" name ∨
    env.Holds "RUNNER_REPOSITORY" name) ∧ ∃ c ∈ name.toList, Text.isBlank c = false
  podName : ¬env.Holds "POD_NAME" ""
  podNamespace : ¬env.Holds "POD_NAMESPACE" ""
  timeout : ∀ s, env.Holds "UNREGISTRATION_TIMEOUT" s → ¬Text.IsWord64 s 0
  retryDelay : ∀ s, env.Holds "UNREGISTRATION_RETRY_DELAY" s → ¬Text.IsWord64 s 0

section Accepted

variable {env : Environment} {name : String}

/-- A text with a default that is not empty is empty only if the variable holds the empty text. -/
theorem Environment.Tells.ne_empty_iff {default s : String} (h : env.Tells name default s)
    (hdefault : default ≠ "") : s ≠ "" ↔ ¬env.Holds name "" := by
  cases h with
  | held holds =>
    constructor
    · intro hne hempty
      exact hne (holds.unique hempty)
    · rintro hne rfl
      exact hne holds
  | unheld none => exact iff_of_true hdefault (none "")

/-- A time with a default that is not zero is zero only if the variable holds that number. -/
theorem Environment.TellsSeconds.pos_iff {default d : Duration}
    (h : env.TellsSeconds name default d) (hdefault : 0 < default.nanoseconds) :
    0 < d.nanoseconds ↔ ∀ s, env.Holds name s → ¬Text.IsWord64 s 0 := by
  cases h with
  | @held s n holds word =>
    constructor
    · intro hpos t ht hzero
      cases holds.unique ht
      rw [word.unique hzero] at hpos
      exact absurd hpos (by decide)
    · intro hword
      have hne : n ≠ 0 := by
        rintro rfl
        exact hword s holds word
      show 0 < n * 1000000000
      omega
  | unheld none => exact iff_of_true hdefault fun s hs => none s 0 hs

/-- What is asked of a configuration that was read is asked of the environment. -/
theorem Config.ReadFrom.isFlawless_iff {c : Config} (h : c.ReadFrom env) :
    c.IsFlawless ↔ env.Accepted := by
  have hscope : c.scope.NamesPlace ↔ ∃ name, (env.Holds "RUNNER_ENTERPRISE" name ∨
      env.Holds "RUNNER_ORGANIZATION" name ∨ env.Holds "RUNNER_REPOSITORY" name) ∧
      ∃ c ∈ name.toList, Text.isBlank c = false := by
    unfold Scope.NamesPlace
    simp only [h.enterprise, h.organization, h.repository]
  -- the name of the runner stands in for that of the pod, so it counts first
  have hpod : c.runnerName ≠ "" → (c.podName ≠ "" ↔ ¬env.Holds "POD_NAME" "") :=
    h.podName.ne_empty_iff
  have hnamespace : c.podNamespace ≠ "" ↔ ¬env.Holds "POD_NAMESPACE" "" :=
    h.podNamespace.ne_empty_iff (by decide)
  have htimeout := h.timeout.pos_iff (by decide)
  have hdelay := h.retryDelay.pos_iff (by decide)
  constructor
  · intro hc
    exact {
      registryUrl := ⟨c.registryUrl, h.registryUrl, hc.registryUrl⟩
      clusterUrl := ⟨c.clusterUrl, h.clusterUrl, hc.clusterUrl⟩
      runnerName := ⟨c.runnerName, h.runnerName, hc.runnerName⟩
      scope := hscope.1 hc.scope
      podName := (hpod hc.runnerName).1 hc.podName
      podNamespace := hnamespace.1 hc.podNamespace
      timeout := htimeout.1 hc.timeout
      retryDelay := hdelay.1 hc.retryDelay }
  · intro ha
    obtain ⟨registryUrl, hregistry, hregistryWeb⟩ := ha.registryUrl
    obtain ⟨clusterUrl, hcluster, hclusterWeb⟩ := ha.clusterUrl
    obtain ⟨runnerName, hrunner, hne⟩ := ha.runnerName
    rw [hregistry.unique h.registryUrl] at hregistryWeb
    rw [hcluster.unique h.clusterUrl] at hclusterWeb
    rw [hrunner.unique h.runnerName] at hne
    exact {
      registryUrl := hregistryWeb
      clusterUrl := hclusterWeb
      scope := hscope.2 ha.scope
      runnerName := hne
      podName := (hpod hne).2 ha.podName
      podNamespace := hnamespace.2 ha.podNamespace
      timeout := htimeout.2 ha.timeout
      retryDelay := hdelay.2 ha.retryDelay }

/-- **Which environments are accepted, and what is told by those that are.** A configuration can be
read and acted on exactly under the conditions on the single variables; its two times are then those
that are written or else the defaults, and never zero, and the pod has the name that is given or
else that of the runner. -/
theorem accepted_environments (env : Environment) :
    ((∃ c, Config.ofEnvironment env = .ok c ∧ c.validate = .ok ()) ↔ env.Accepted) ∧
      ∀ c, Config.ofEnvironment env = .ok c → c.validate = .ok () →
        env.TellsSeconds "UNREGISTRATION_TIMEOUT" (.ofSeconds 60) c.unregistrationTimeout ∧
        env.TellsSeconds "UNREGISTRATION_RETRY_DELAY" (.ofSeconds 10) c.retryDelay ∧
        0 < c.unregistrationTimeout.nanoseconds ∧ 0 < c.retryDelay.nanoseconds ∧
        env.Holds "RUNNER_NAME" c.runnerName ∧ env.Tells "POD_NAME" c.runnerName c.podName := by
  refine ⟨⟨?_, fun ha => ?_⟩, fun c hc hvalid => ?_⟩
  · rintro ⟨c, hc, hvalid⟩
    have hread := Config.ofEnvironment_eq_ok_iff.1 hc
    exact hread.isFlawless_iff.1 (Config.validate_eq_ok_iff.1 hvalid)
  · obtain ⟨registryUrl, hregistry, -⟩ := ha.registryUrl
    obtain ⟨clusterUrl, hcluster, -⟩ := ha.clusterUrl
    obtain ⟨runnerName, hrunner, -⟩ := ha.runnerName
    have hc := Config.ofEnvironment_of_holds hregistry hcluster hrunner
    have hread := Config.ofEnvironment_eq_ok_iff.1 hc
    exact ⟨_, hc, Config.validate_eq_ok_iff.2 (hread.isFlawless_iff.2 ha)⟩
  · have hread := Config.ofEnvironment_eq_ok_iff.1 hc
    have hflawless := Config.validate_eq_ok_iff.1 hvalid
    exact ⟨hread.timeout, hread.retryDelay, hflawless.timeout, hflawless.retryDelay,
      hread.runnerName, hread.podName⟩

end Accepted

/-- An environment with most of what can be odd: an enterprise of blanks beside a repository, the
name of a pod that is no text, a time with a sign and one that is no number. -/
def oddEnvironment : Environment := fun name =>
  if name = "POD_NAME" then some ⟨#[0xff]⟩
  else ([("REGISTRY_URL", "http://"), ("CLUSTER_API_URL", "https://cluster.test"),
    ("RUNNER_NAME", "runner-abc"), ("RUNNER_ENTERPRISE", " \t"), ("RUNNER_REPOSITORY", "acme/app"),
    ("UNREGISTRATION_TIMEOUT", "+5"), ("UNREGISTRATION_RETRY_DELAY", "0s")].lookup name).map
      String.toUTF8

theorem accepted_environments_odd :
    oddEnvironment.Accepted ∧ ∃ c, Config.ofEnvironment oddEnvironment = .ok c ∧
      c.validate = .ok () ∧ c.unregistrationTimeout = .ofSeconds 5 ∧
      c.retryDelay = .ofSeconds 10 ∧ c.podName = "runner-abc" := by
  have htimeout : oddEnvironment.Holds "UNREGISTRATION_TIMEOUT" "+5" := rfl
  have hdelay : oddEnvironment.Holds "UNREGISTRATION_RETRY_DELAY" "0s" := rfl
  have hfive : Text.IsWord64 "+5" 5 := Text.readWord64_eq_ok_iff.1 rfl
  have hnone : ∀ s n, oddEnvironment.Holds "UNREGISTRATION_RETRY_DELAY" s → ¬Text.IsWord64 s n := by
    intro s n hs hword
    rw [← hdelay.unique hs, ← Text.readWord64_eq_ok_iff] at hword
    cases hword
  have hpod : ∀ s, ¬oddEnvironment.Holds "POD_NAME" s := by
    intro s hs
    have hvalid := s.isValidUTF8
    rw [← String.toUTF8_eq_toByteArray, ← Option.some.inj hs] at hvalid
    exact absurd hvalid (by decide +kernel)
  have haccepted : oddEnvironment.Accepted := {
    registryUrl := ⟨"http://", rfl, [], Or.inl rfl⟩
    clusterUrl := ⟨"https://cluster.test", rfl, "cluster.test".toList, Or.inr rfl⟩
    runnerName := ⟨"runner-abc", rfl, by decide⟩
    scope := ⟨"acme/app", Or.inr (Or.inr rfl), 'a', List.mem_of_elem_eq_true rfl, rfl⟩
    podName := hpod ""
    podNamespace := nofun
    timeout := by
      intro s hs hzero
      rw [← htimeout.unique hs] at hzero
      cases hfive.unique hzero
    retryDelay := fun s => hnone s 0 }
  obtain ⟨hiff, htells⟩ := accepted_environments oddEnvironment
  obtain ⟨c, hc, hvalid⟩ := hiff.2 haccepted
  obtain ⟨htimes, hdelays, -, -, hrunner, hnames⟩ := htells c hc hvalid
  refine ⟨haccepted, c, hc, hvalid, ?_, ?_, ?_⟩
  · rw [← Environment.getD_seconds?_eq_iff.2 htimes, Environment.seconds?_of_holds htimeout hfive]
    rfl
  · rw [← Environment.getD_seconds?_eq_iff.2 hdelays, Environment.seconds?_of_none hnone]
    rfl
  · rw [← Environment.getD_text?_eq_iff.2 hnames, Environment.text?_eq_none_iff.2 hpod]
    exact hrunner.unique rfl

end Quiesce
