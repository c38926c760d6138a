import Quiesce.Stop.Drain

/-!
# Configuration

What a drain has to know, and where it is found: in the environment of the process.

* `Config.ofEnvironment` reads a configuration.
* `Config.validate` says whether it can be acted on.
-/

namespace Quiesce

/-- The variables of a process: the bytes of each one that is set. -/
abbrev Environment := String → Option ByteArray

/-- The text of a variable; one whose bytes are not UTF-8 counts as unset. -/
def Environment.text? (env : Environment) (name : String) : Option String :=
  (env name).bind String.fromUTF8?

/-- The number of seconds that a variable holds. -/
def Environment.seconds? (env : Environment) (name : String) : Option Duration :=
  ((env.text? name).bind fun s => (Text.readWord64 s).toOption).map .ofSeconds

structure Config where
  registryUrl : String
  registryToken : Option String
  clusterUrl : String
  clusterToken : Option String
  scope : Scope
  runnerName : String
  podNamespace : String
  podName : String
  /-- How long a runner that does not register may hold up the deletion of its pod. -/
  unregistrationTimeout : Duration
  retryDelay : Duration
deriving DecidableEq, Repr

namespace Config

/-- The time that a runner has to register, unless another is configured. -/
def defaultTimeout : Duration := .ofSeconds 60

/-- The wait between two passes, unless another is configured. -/
def defaultRetryDelay : Duration := .ofSeconds 10

/-- The namespace of the pod, unless another is configured. -/
def defaultNamespace : String := "default"

/-- A configuration with the defaults: the pod has the name of the runner. -/
def withDefaults (registryUrl clusterUrl : String) (scope : Scope) (runnerName : String) :
    Config where
  registryUrl := registryUrl
  registryToken := none
  clusterUrl := clusterUrl
  clusterToken := none
  scope := scope
  runnerName := runnerName
  podNamespace := defaultNamespace
  podName := runnerName
  unregistrationTimeout := defaultTimeout
  retryDelay := defaultRetryDelay

/-! ### Reading -/

/-- A variable that has to be set. -/
structure MissingVariable where
  name : String
deriving DecidableEq, Repr

def MissingVariable.message (m : MissingVariable) : String :=
  m.name ++ " environment variable not set"

def required (env : Environment) (name : String) : Except MissingVariable String :=
  match env.text? name with
  | some s => .ok s
  | none => .error ⟨name⟩

/-- The configuration that the environment holds. Numbers that cannot be read count as unset. -/
def ofEnvironment (env : Environment) : Except MissingVariable Config := do
  let registryUrl ← required env "REGISTRY_URL"
  let clusterUrl ← required env "CLUSTER_API_URL"
  let runnerName ← required env "RUNNER_NAME"
  let scope : Scope := {
    enterprise := env.text? "RUNNER_ENTERPRISE"
    organization := env.text? "RUNNER_ORGANIZATION"
    repository := env.text? "RUNNER_REPOSITORY" }
  let base := withDefaults registryUrl clusterUrl scope runnerName
  return { base with
    registryToken := env.text? "REGISTRY_TOKEN"
    clusterToken := env.text? "CLUSTER_TOKEN"
    podNamespace := (env.text? "POD_NAMESPACE").getD base.podNamespace
    podName := (env.text? "POD_NAME").getD base.podName
    unregistrationTimeout :=
      (env.seconds? "UNREGISTRATION_TIMEOUT").getD base.unregistrationTimeout
    retryDelay := (env.seconds? "UNREGISTRATION_RETRY_DELAY").getD base.retryDelay }

/-! ### Validating -/

/-- Why a configuration cannot be acted on. -/
inductive Flaw where
  | registryUrl
  | clusterUrl
  | emptyScope
  | emptyRunnerName
  | emptyPodName
  | zeroTimeout
  | zeroRetryDelay
deriving DecidableEq, Repr

def Flaw.message : Flaw → String
  | .registryUrl => "registry_url must start with http:// or https://"
  | .clusterUrl => "cluster_url must start with http:// or https://"
  | .emptyScope => "one of enterprise, organization or repository must be set"
  | .emptyRunnerName => "runner_name cannot be empty"
  | .emptyPodName => "pod_name and pod_namespace cannot be empty"
  | .zeroTimeout => "unregistration_timeout must be greater than 0"
  | .zeroRetryDelay => "retry_delay must be greater than 0"

/-- Whether the text begins like the URL of a web service. -/
def looksLikeWeb (url : String) : Bool :=
  "http://".toList.isPrefixOf url.toList || "https://".toList.isPrefixOf url.toList

/-- The first flaw of a configuration. -/
def validate (c : Config) : Except Flaw Unit :=
  if !looksLikeWeb c.registryUrl then .error .registryUrl
  else if !looksLikeWeb c.clusterUrl then .error .clusterUrl
  else if c.scope.level?.isNone then .error .emptyScope
  else if c.runnerName.isEmpty then .error .emptyRunnerName
  else if c.podName.isEmpty || c.podNamespace.isEmpty then .error .emptyPodName
  else if c.unregistrationTimeout.isZero then .error .zeroTimeout
  else if c.retryDelay.isZero then .error .zeroRetryDelay
  else .ok ()

/-- What is drained under a configuration. -/
def plan (c : Config) : Drain.Plan where
  target := ⟨c.scope, c.runnerName⟩
  podNamespace := c.podNamespace
  podName := c.podName
  timeout := c.unregistrationTimeout
  retryDelay := c.retryDelay

/-! ### Starting -/

inductive StartError where
  | unreadable (m : MissingVariable)
  | invalid (f : Flaw)
deriving DecidableEq, Repr

/-- The report of a failed start: its wording, and its cause, if it has one, in a paragraph of its
own. -/
def StartError.report : StartError → String
  | .unreadable m =>
    "Error: Failed to load configuration\n\nCaused by:\n    " ++ m.message ++ "\n"
  | .invalid f => "Error: " ++ f.message ++ "\n"

def start (env : Environment) : Except StartError Config :=
  match ofEnvironment env with
  | .error m => .error (.unreadable m)
  | .ok c =>
    match c.validate with
    | .error f => .error (.invalid f)
    | .ok () => .ok c

end Config

end Quiesce
