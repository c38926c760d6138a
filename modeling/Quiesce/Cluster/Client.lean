import Quiesce.Cluster.Error
import Quiesce.Json.Printer
import Quiesce.Json.Reader
import Quiesce.Pod.Object

/-!
# The cluster over HTTP

The store of pods that the cluster offers. A patch carries the version that was read, and the
cluster refuses it if the pod has another one by then.

* `ClusterClient.get`, `ClusterClient.patch` and `ClusterClient.delete` are the calls.
-/

namespace Quiesce

open Http (Destination Network Reply Request Response)

/-- Where the cluster is, and the token that it asks for. -/
structure ClusterClient where
  /-- The base of all URLs, without slashes at its end. -/
  base : String
  token : Option String
deriving DecidableEq, Repr

namespace ClusterClient

def ofUrl (url : String) (token : Option String) : ClusterClient :=
  ⟨Http.baseUrl url, token⟩

def podUrl (c : ClusterClient) (namespaceName name : String) : String :=
  c.base ++ "/api/v1/namespaces/" ++ namespaceName ++ "/pods/" ++ name

def patchType : String := "application/merge-patch+json"

def request (method : Http.Method) (contentType : Option String) (body : String)
    (d : Destination) : Request where
  method := method
  url := d.url
  authorization := d.authorization
  accept := "*/*"
  userAgent := none
  contentType := contentType
  body := body

/-! ### Responses -/

/-- The cause of a failed response about the pod of that name. -/
def failure (pod : String) (r : Response) : PodStoreError :=
  if r.status = 404 then .notFound pod
  else if r.status = 409 then .conflict pod
  else .api r.status r.failureText

/-- The response to a request about the pod of that name, if it is a success. -/
def successOf (pod : String) (sent : Request) : Reply → Except PodStoreError Response
  | .lost => .error (.transport (.unanswered sent.url))
  | .response r => if Http.isSuccess r.status then .ok r else .error (failure pod r)

def podOfBody? (body : Option String) : Option Pod := do
  let text ← body
  let document ← Json.read text
  Pod.ofObject? document

/-- The pod that comes back for a request about the pod of that name. -/
def podOfReply (pod : String) (sent : Request) (reply : Reply) : Except PodStoreError Pod :=
  match successOf pod sent reply with
  | .error e => .error e
  | .ok r =>
    match podOfBody? r.body with
    | some p => .ok p
    | none => .error (.parse ("Failed to parse pod " ++ pod ++ ": " ++ Http.undecodableBody))

/-- A pod that may not be there. -/
def optional : Except PodStoreError Pod → Except PodStoreError (Option Pod)
  | .ok p => .ok (some p)
  | .error e => if e.isNotFound then .ok none else .error e

/-! ### Calls -/

def destination (c : ClusterClient) (namespaceName name : String) :
    Except PodStoreError Destination :=
  match (Http.destination (c.podUrl namespaceName name) c.token).bind Destination.check with
  | .ok d => .ok d
  | .error fault => .error (.transport fault)

/-- Sends a request about a pod and reads what comes back. -/
def exchange {α : Type} (c : ClusterClient) (namespaceName name : String)
    (build : Destination → Request) (read : Request → Reply → Except PodStoreError α)
    (n : Network) : Except PodStoreError α × Network :=
  match c.destination namespaceName name with
  | .error e => (.error e, n)
  | .ok d =>
    let sent := build d
    let (reply, n) := n.send sent
    (read sent reply, n)

def get (c : ClusterClient) (namespaceName name : String) (n : Network) :
    Except PodStoreError (Option Pod) × Network :=
  c.exchange namespaceName name (request .get none "")
    (fun sent reply => optional (podOfReply (namespaceName ++ "/" ++ name) sent reply)) n

def patch (c : ClusterClient) (pod : Pod) (more : Annotations) (n : Network) :
    Except PodStoreError Pod × Network :=
  c.exchange pod.namespaceName pod.name
    (request .patch (some patchType) (pod.annotationPatch more).render)
    (podOfReply pod.qualifiedName) n

def delete (c : ClusterClient) (pod : Pod) (n : Network) : Except PodStoreError Unit × Network :=
  c.exchange pod.namespaceName pod.name (request .delete none "")
    (fun sent reply => (successOf pod.qualifiedName sent reply).map fun _ => ()) n

end ClusterClient

end Quiesce
