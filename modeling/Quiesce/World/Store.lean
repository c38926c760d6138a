import Quiesce.Cluster.Error
import Quiesce.Pod.Basic

/-!
# A store of pods

Pods under their namespace and name, in the order of both. Every write gives the pod a fresh
version, and a patch is refused if the pod has another version than the one that was read.

* `Store.find?_put` says what a write does to every pod.
-/

namespace Quiesce

/-- Pods and the number of writes so far. -/
structure Store where
  writes : Nat
  pods : List Pod
deriving DecidableEq, Repr

namespace Store

/-- Whether the pod has that namespace and name. -/
def isNamed (namespaceName name : String) (p : Pod) : Bool :=
  p.namespaceName = namespaceName && p.name = name

def sameName (p q : Pod) : Bool :=
  isNamed p.namespaceName p.name q

/-- Whether a pod stands before another: by namespace, then by name. -/
def comesBefore (p q : Pod) : Bool :=
  p.namespaceName < q.namespaceName || (p.namespaceName = q.namespaceName && p.name < q.name)

/-- Puts a pod in the place of the one of its name, or in front of the first that it comes
before. -/
def insertPod (p : Pod) : List Pod → List Pod
  | [] => [p]
  | q :: rest =>
    if sameName p q then p :: rest
    else if comesBefore p q then p :: q :: rest
    else q :: insertPod p rest

def empty : Store := ⟨0, []⟩

/-- The version of the pod of the `n`-th write. -/
def versionText (n : Nat) : String :=
  Text.natText n

/-- The pod as the next write stores it. -/
def nextVersion (s : Store) (p : Pod) : Pod :=
  { p with version := some (versionText (s.writes + 1)) }

def put (s : Store) (p : Pod) : Store :=
  ⟨s.writes + 1, insertPod (s.nextVersion p) s.pods⟩

def find? (s : Store) (namespaceName name : String) : Option Pod :=
  s.pods.find? (isNamed namespaceName name)

/-- Takes the pod of that namespace and name away. -/
def drop (s : Store) (namespaceName name : String) : Store :=
  { s with pods := s.pods.filter fun p => !isNamed namespaceName name p }

/-- Adds annotations to the stored pod, if it still has the version of the given one. -/
def patch (s : Store) (pod : Pod) (more : Annotations) : Except PodStoreError Pod × Store :=
  match s.find? pod.namespaceName pod.name with
  | none => (.error (.notFound pod.qualifiedName), s)
  | some stored =>
    if stored.version = pod.version then
      let updated := stored.annotate more
      (.ok (s.nextVersion updated), s.put updated)
    else (.error (.conflict pod.qualifiedName), s)

/-- Deletes the stored pod, whatever its version. -/
def delete (s : Store) (pod : Pod) : Except PodStoreError Unit × Store :=
  match s.find? pod.namespaceName pod.name with
  | none => (.error (.notFound pod.qualifiedName), s)
  | some _ => (.ok (), s.drop pod.namespaceName pod.name)

/-- A pod that is put in among others takes the place of the one of its name. -/
theorem find?_insertPod (p : Pod) (l : List Pod) (ns name : String) :
    (insertPod p l).find? (isNamed ns name) =
      if isNamed ns name p then some p else l.find? (isNamed ns name) := by
  induction l with
  | nil => by_cases h : isNamed ns name p <;> simp [insertPod, h]
  | cons q rest ih =>
    rw [insertPod]
    by_cases hsame : sameName p q = true
    · have hq : isNamed ns name q = isNamed ns name p := by
        simp only [sameName, isNamed, Bool.and_eq_true, decide_eq_true_eq] at hsame
        simp [isNamed, hsame.1, hsame.2]
      rw [if_pos hsame, List.find?_cons, List.find?_cons, hq]
      cases isNamed ns name p with
      | true => rfl
      | false => rfl
    rw [if_neg hsame]
    by_cases hbefore : comesBefore p q = true
    · rw [if_pos hbefore, List.find?_cons]
      cases isNamed ns name p with
      | true => rfl
      | false => rfl
    rw [if_neg hbefore]
    by_cases hq : isNamed ns name q = true
    · have hp : isNamed ns name p = false := by
        rw [Bool.eq_false_iff]
        intro hp
        simp only [isNamed, Bool.and_eq_true, decide_eq_true_eq] at hp hq
        exact hsame (by simp [sameName, isNamed, hp, hq])
      simp [hq, hp]
    · simp [hq, ih]

/-- What a write does to every pod: the one of that name is the one written, under a new version,
and the others stay. -/
theorem find?_put (s : Store) (p : Pod) (ns name : String) :
    (s.put p).find? ns name =
      if isNamed ns name p then some (s.nextVersion p) else s.find? ns name :=
  find?_insertPod (s.nextVersion p) s.pods ns name

end Store

end Quiesce
