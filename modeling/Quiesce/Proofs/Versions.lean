import Quiesce.Proofs.Digits
import Quiesce.World.Store

/-!
# Versions of stored pods

Every write gives its pod a version that no pod has had before, so a version stands for one content.

* `Store.Dated` says that the version of a pod is that of a write that has been made.
* `Store.dated_put` and `Store.dated_drop` keep it of every stored pod, and `Store.version_fresh`
  tells a pod that is about to be written from every pod that was written earlier.
* `Store.patch_cases` lists what can come of a patch.
-/

namespace Quiesce.Store

/-! ## Names -/

theorem isNamed_iff {ns name : String} {p : Pod} :
    isNamed ns name p = true ↔ p.namespaceName = ns ∧ p.name = name := by
  simp [isNamed]

theorem isNamed_self (p : Pod) : isNamed p.namespaceName p.name p = true :=
  isNamed_iff.2 ⟨rfl, rfl⟩

theorem isNamed_of_find? {s : Store} {ns name : String} {p : Pod} (h : s.find? ns name = some p) :
    p.namespaceName = ns ∧ p.name = name :=
  isNamed_iff.1 (List.find?_some h)

/-- A pod that was written is stored under its new version. -/
theorem find?_put_self (s : Store) (p : Pod) :
    (s.put p).find? p.namespaceName p.name = some (s.nextVersion p) := by
  rw [find?_put, if_pos (isNamed_self p)]

/-- What taking a pod away does to every pod. -/
theorem find?_drop (s : Store) (ns name ns' name' : String) :
    (s.drop ns name).find? ns' name' =
      if ns' = ns ∧ name' = name then none else s.find? ns' name' := by
  unfold drop find?
  rw [List.find?_filter]
  by_cases hsame : ns' = ns ∧ name' = name
  · rw [if_pos hsame, List.find?_eq_none, hsame.1, hsame.2]
    intro p _
    simp
  · rw [if_neg hsame]
    congr 1
    funext p
    cases hp : isNamed ns' name' p with
    | false => simp
    | true =>
      -- a pod of the one name does not have the other
      have hne : isNamed ns name p = false := by
        rw [Bool.eq_false_iff, Ne, isNamed_iff]
        rintro ⟨rfl, rfl⟩
        obtain ⟨h, h'⟩ := isNamed_iff.1 hp
        exact hsame ⟨h.symm, h'.symm⟩
      simp [hne]

/-! ## Fresh versions -/

/-- Every write makes a version of its own. -/
theorem versionText_injective {m n : Nat} (h : versionText m = versionText n) : m = n :=
  Text.natText_injective h

/-- The pod has the version of a write that has been made. -/
def Dated (s : Store) (p : Pod) : Prop :=
  ∃ n ≤ s.writes, p.version = some (versionText n)

/-- A version that is dated stays so: the writes only go up. -/
theorem Dated.put {s : Store} {p : Pod} (h : s.Dated p) (q : Pod) : (s.put q).Dated p := by
  obtain ⟨n, hn, hv⟩ := h
  exact ⟨n, Nat.le_succ_of_le hn, hv⟩

theorem dated_nextVersion (s : Store) (p : Pod) : (s.put p).Dated (s.nextVersion p) :=
  ⟨s.writes + 1, Nat.le_refl _, rfl⟩

/-- No pod that was written earlier has the version of the next write. -/
theorem version_fresh {s : Store} {p : Pod} (h : s.Dated p) (q : Pod) :
    (s.nextVersion q).version ≠ p.version := by
  obtain ⟨n, hn, hv⟩ := h
  rw [hv]
  intro hsame
  have : s.writes + 1 = n := versionText_injective (Option.some.inj hsame)
  omega

/-- Every stored pod has the version of a write that has been made. -/
def AllDated (s : Store) : Prop :=
  ∀ ns name p, s.find? ns name = some p → s.Dated p

theorem allDated_empty : empty.AllDated := by
  intro ns name p h
  cases h

/-- Writing a pod keeps all versions dated. -/
theorem AllDated.put {s : Store} (h : s.AllDated) (p : Pod) : (s.put p).AllDated := by
  intro ns name q hq
  rw [find?_put] at hq
  by_cases hnamed : isNamed ns name p = true
  · rw [if_pos hnamed] at hq
    cases hq
    exact s.dated_nextVersion p
  · rw [if_neg hnamed] at hq
    exact (h ns name q hq).put p

/-- So does taking one away. -/
theorem AllDated.drop {s : Store} (h : s.AllDated) (ns name : String) :
    (s.drop ns name).AllDated := by
  intro ns' name' q hq
  rw [find?_drop] at hq
  by_cases hdropped : ns' = ns ∧ name' = name
  · rw [if_pos hdropped] at hq
    cases hq
  · rw [if_neg hdropped] at hq
    exact h ns' name' q hq

/-! ## Patches -/

/-- What can come of a patch: an answer and another store. -/
inductive Patched (s : Store) (pod : Pod) (more : Annotations) :
    Except PodStoreError Pod → Store → Prop
  /-- There is no such pod, or it has changed. -/
  | refused (e : PodStoreError) : Patched s pod more (.error e) s
  /-- The stored pod has the version of the given one and is written anew. -/
  | written {stored : Pod} (hstored : s.find? pod.namespaceName pod.name = some stored)
      (hversion : stored.version = pod.version) :
      Patched s pod more (.ok (s.nextVersion (stored.annotate more))) (s.put (stored.annotate more))

/-- **The two ways for a patch to end**: refused, or written on the stored pod that has the version
of the copy. -/
theorem patch_cases (s : Store) (pod : Pod) (more : Annotations) :
    Patched s pod more (s.patch pod more).1 (s.patch pod more).2 := by
  unfold patch
  cases hstored : s.find? pod.namespaceName pod.name with
  | none => exact .refused _
  | some stored =>
    dsimp only
    by_cases hversion : stored.version = pod.version
    · rw [if_pos hversion]
      exact .written hstored hversion
    · rw [if_neg hversion]
      exact .refused _

end Quiesce.Store
