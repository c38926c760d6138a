import Quiesce.Cluster.Client
import Quiesce.Config
import Quiesce.Registry.Client

/-!
# The services of a drain

The registry and the cluster that a configuration names, answering calls over a network. A process
that has panicked sees no answer any more, so a panic is kept beside the network.

* `Services.answer` answers the calls of a program.
* `Services.host` lets a drain run on them as far as its first wait.
-/

namespace Quiesce

/-- A registry and a cluster. -/
structure Services where
  registry : RegistryClient
  cluster : ClusterClient
deriving DecidableEq, Repr

/-- A network and the present, and what has become of the process. -/
structure Connection where
  network : Http.Network
  clock : Instant
  /-- The panic that has ended the process; whatever is answered with it or after it is not seen. -/
  panic : Option Panic
deriving DecidableEq, Repr

namespace Connection

/-- The connection of a running process. -/
def running (network : Http.Network) (clock : Instant) : Connection := ⟨network, clock, none⟩

/-- How a call to the registry ends that has come to that, over a network that it has left so. The
answer that is given for a panic is any failure. -/
def concluding {α : Type} (c : Connection) :
    Except Panic (Except RegistryError α) × Http.Network → Except RegistryError α × Connection
  | (.ok result, network) => (result, { c with network })
  | (.error panic, network) =>
    (.error (.parse panic.message), { c with network, panic := some panic })

end Connection

namespace Services

def ofConfig (c : Config) : Services :=
  ⟨.ofUrl c.registryUrl c.registryToken, .ofUrl c.clusterUrl c.clusterToken⟩

/-- The present in seconds since the beginning of 1970, as a machine word. -/
def unixNow (c : Connection) : Int64 :=
  Int64.ofInt c.clock.unixSeconds

def answer (s : Services) : Handler Connection
  | .list scope, c => c.concluding (s.registry.list (unixNow c) scope c.network)
  | .remove scope id, c => c.concluding (s.registry.remove (unixNow c) scope id c.network)
  | .get namespaceName name, c =>
    let (result, network) := s.cluster.get namespaceName name c.network
    (result, { c with network })
  | .patch pod more, c =>
    let (result, network) := s.cluster.patch pod more c.network
    (result, { c with network })
  | .delete pod, c =>
    let (result, network) := s.cluster.delete pod c.network
    (result, { c with network })
  | .now, c => (c.clock, c)

/-- The services as the host of a drain that is stopped when it would wait. -/
def host (s : Services) : Drain.Host Connection where
  answer := s.answer
  elapsed := fun _ => .zero
  sleep := fun _ c => (false, c)

/-- Drains a runner as far as the first wait. -/
def drain (s : Services) (plan : Drain.Plan) (c : Connection) : Drain.Report Connection :=
  Drain.run s.host plan 1 c

end Services

end Quiesce
