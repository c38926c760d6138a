import Quiesce.Proofs.Interleaving
import Quiesce.Proofs.Versions
import Quiesce.Proofs.WorldSteps

/-!
# Annotations are written once

Whether an annotation is there is checked on a copy of the pod that may be out of date, so the check
alone protects nothing. What protects the annotation is the version: a copy with the version of the
stored pod *is* the stored pod, so that a patch which is not refused adds an annotation that the
stored pod does not have.

* `Program.Careful` says that a program patches only pods that were handed out to it, each with one
  annotation that the pod lacks. `Operation.program_careful` says it of every operation.
* `Store.Trusts` is the invariant that ties the pods that were handed out to what is stored, and
  `Race.sound_step` keeps it through every event of a race.
* `Race.annotation_step` is what an event can do to an annotation, and
  `Race.annotations_written_once` what a whole run can.
-/

namespace Quiesce

/-! ## Careful programs -/

/-- The call deletes nothing, and it patches a pod only if the pod is known, with one annotation
that the pod lacks. -/
def Call.IsCareful (known : List Pod) : Call → Prop
  | .patch pod more => pod ∈ known ∧
      ∃ key value, more = .single key value ∧ pod.hasAnnotation key = false
  | .delete _ => False
  | _ => True

theorem Call.IsCareful.mono {known known' : List Pod} (h : known ⊆ known') {c : Call}
    (hc : c.IsCareful known) : c.IsCareful known' := by
  cases c with
  | patch pod more => exact ⟨h hc.1, hc.2⟩
  | list scope => trivial
  | remove scope id => trivial
  | get namespaceName name => trivial
  | delete pod => exact hc.elim
  | now => trivial

namespace Program

variable {α β : Type}

/-- All calls are careful, whatever they are answered, each answer adding to the pods that are
known; `post` holds of what is known in the end and of the value. -/
def Careful (post : List Pod → α → Prop) : Program α → (known : List Pod) → Prop
  | .done a, known => post known a
  | .call c next, known =>
    c.IsCareful known ∧ ∀ answer, (next answer).Careful post (c.handedOut answer ++ known)

/-- A program is careful if its parts are, the later ones with the pods that the earlier ones were
handed. -/
theorem Careful.bind {post : List Pod → β → Prop} {p : Program α} {f : α → Program β}
    {known : List Pod} (h : p.Careful (fun known a => (f a).Careful post known) known) :
    (p.bind f).Careful post known := by
  induction p generalizing known with
  | done a => exact h
  | call c next ih => exact ⟨h.1, fun answer => ih answer (h.2 answer)⟩

/-- What is known only grows: a program may know more, and may promise less of it. -/
theorem Careful.mono {post post' : List Pod → α → Prop} {p : Program α} {known known' : List Pod}
    (h : p.Careful post known) (hknown : known ⊆ known')
    (hpost : ∀ l l' a, l ⊆ l' → post l a → post' l' a) : p.Careful post' known' := by
  induction p generalizing known known' with
  | done a => exact hpost known known' a hknown h
  | call c next ih =>
    refine ⟨h.1.mono hknown, fun answer => ih answer (h.2 answer) fun pod hpod => ?_⟩
    rcases List.mem_append.1 hpod with hnew | hold
    · exact List.mem_append_left _ hnew
    · exact List.mem_append_right _ (hknown hold)

/-- Whoever only asks the registry and the clock is careful, and learns of no pod. -/
theorem careful_of_asks {p : Program α} (hp : p.Asks Call.sparesPods) (known : List Pod) :
    p.Careful (fun l _ => l = known) known := by
  induction p with
  | done a => exact rfl
  | call c next ih =>
    have hnone : ∀ answer, c.handedOut answer = [] := by
      intro answer
      cases c with
      | list scope => rfl
      | remove scope id => rfl
      | now => rfl
      | get namespaceName name => exact hp.1.elim
      | patch pod more => exact hp.1.elim
      | delete pod => exact hp.1.elim
    refine ⟨?_, fun answer => ?_⟩
    · cases c with
      | patch pod more => exact hp.1.elim
      | delete pod => exact hp.1.elim
      | list scope => trivial
      | remove scope id => trivial
      | get namespaceName name => trivial
      | now => trivial
    · rw [hnone answer]
      exact ih answer (hp.2 answer)

end Program

/-! ## Operations are careful -/

section Operations

variable {known : List Pod}

/-- Annotating a pod that is known is careful, and the pod that it returns is known then. -/
theorem annotateOnce_careful {pod : Pod} (hpod : pod ∈ known) (key value : String) :
    (annotateOnce pod key value).Careful (fun l answer => ∀ p, answer = .ok p → p ∈ l) known := by
  unfold annotateOnce
  cases hkey : pod.hasAnnotation key with
  | true =>
    intro p hp
    cases hp
    exact hpod
  | false =>
    refine ⟨⟨hpod, key, value, rfl, hkey⟩, fun answer p hp => ?_⟩
    subst hp
    exact List.mem_cons_self

/-- So is marking it. -/
theorem markPod_careful {pod : Option Pod} (hpod : ∀ p ∈ pod, p ∈ known) (key : String) :
    (markPod key pod).Careful (fun l answer => ∀ q, answer = .ok q → ∀ p ∈ q, p ∈ l) known := by
  cases pod with
  | none =>
    intro q hq p hp
    cases hq
    cases hp
  | some pod =>
    refine Program.Careful.bind (p := mark pod key) ⟨trivial, fun now => ?_⟩
    refine (annotateOnce_careful (hpod pod rfl) key (markText now)).mono (List.Subset.refl _) ?_
    intro l l' answer hl hanswer q hq p hp
    cases answer with
    | error e => cases hq
    | ok marked =>
      cases hq
      cases hp
      exact hl (hanswer _ rfl)

/-- So is recording the registration. -/
theorem ensureRegistered_careful (target : Target) {pod : Pod} (hpod : pod ∈ known) :
    (ensureRegistered target pod).Careful (fun _ _ => True) known := by
  unfold ensureRegistered
  by_cases hsettled : (pod.isStopped || pod.hasAnnotation Pod.runnerIdKey) = true
  · rw [if_pos hsettled]
    trivial
  · rw [if_neg hsettled]
    refine Program.Careful.bind ?_
    refine (Program.careful_of_asks (findRunner_asksRegistry target).sparesPods known).mono
      (List.Subset.refl _) fun l l' answer hl hknown => ?_
    subst hknown
    cases answer with
    | error e => trivial
    | ok found =>
      dsimp only
      cases found.bind (·.id) with
      | none => trivial
      | some id =>
        refine Program.Careful.bind ?_
        refine (annotateOnce_careful (hl hpod) _ _).mono (List.Subset.refl _) ?_
        intro _ _ written _ _
        cases written with
        | ok pod => trivial
        | error e => trivial

/-- The pod that the step writes the complete mark on is the one that came of the start mark. -/
theorem tick_careful (target : Target) (timeout retryDelay : Duration) {pod : Option Pod}
    (hpod : ∀ p ∈ pod, p ∈ known) :
    (tick target timeout retryDelay pod).Careful (fun _ _ => True) known := by
  unfold tick
  refine Program.Careful.bind ?_
  refine (markPod_careful hpod Pod.startKey).mono (List.Subset.refl _) ?_
  intro l l' started hl hstarted
  cases started with
  | error e => trivial
  | ok pod' =>
    refine Program.Careful.bind ?_
    refine (Program.careful_of_asks
      (ensureUnregistered_sparesPods target timeout retryDelay pod') l').mono
      (List.Subset.refl _) fun l₁ l₂ decision hl' hsame => ?_
    subst hsame
    cases decision with
    | requeue after cause => trivial
    | failed e => trivial
    | deletable =>
      have hpod' : ∀ p ∈ pod', p ∈ l₂ := fun p hp => hl' (hl (hstarted pod' rfl p hp))
      refine Program.Careful.bind ?_
      refine (markPod_careful hpod' Pod.completeKey).mono (List.Subset.refl _) ?_
      intro _ _ completed _ _
      cases completed with
      | error e => trivial
      | ok pod'' => trivial

/-- **Every operation is careful**, given the pod that it is begun on. -/
theorem Operation.program_careful (op : Operation) (hpod : ∀ p ∈ op.pod?, p ∈ known) :
    op.program.Careful (fun _ _ => True) known := by
  cases op with
  | get namespaceName name => exact ⟨trivial, fun _ => trivial⟩
  | annotate pod key value =>
    exact .bind ((annotateOnce_careful (hpod pod rfl) key value).mono (List.Subset.refl _)
      fun _ _ _ _ _ => trivial)
  | register target pod => exact .bind (ensureRegistered_careful target (hpod pod rfl))
  | tick target timeout retryDelay pod => exact .bind (tick_careful target timeout retryDelay hpod)

end Operations

/-! ## What was handed out -/

namespace Store

/-- What was handed out can be trusted: it is as old as its version says, and it is the stored pod
if it has its version. -/
structure Trusts (s : Store) (seen : List Pod) : Prop where
  stored : s.AllDated
  dated : ∀ p ∈ seen, s.Dated p
  current : ∀ p ∈ seen, ∀ q, s.find? p.namespaceName p.name = some q → q.version = p.version → q = p

variable {s : Store} {seen : List Pod}

/-- Writing a pod does not make anything that was seen current again. -/
theorem Trusts.put (h : s.Trusts seen) (p : Pod) : (s.put p).Trusts seen where
  stored := h.stored.put p
  dated q hq := (h.dated q hq).put p
  current q hq stored hstored hversion := by
    rw [find?_put] at hstored
    by_cases hnamed : isNamed q.namespaceName q.name p = true
    · -- the version is new, so nobody was handed it out
      rw [if_pos hnamed] at hstored
      cases hstored
      exact absurd hversion (version_fresh (h.dated q hq) p)
    · rw [if_neg hnamed] at hstored
      exact h.current q hq stored hstored hversion

/-- Nor does taking a pod away. -/
theorem Trusts.drop (h : s.Trusts seen) (ns name : String) : (s.drop ns name).Trusts seen where
  stored := h.stored.drop ns name
  dated := h.dated
  current q hq stored hstored hversion := by
    rw [find?_drop] at hstored
    by_cases hdropped : q.namespaceName = ns ∧ q.name = name
    · rw [if_pos hdropped] at hstored
      cases hstored
    · rw [if_neg hdropped] at hstored
      exact h.current q hq stored hstored hversion

/-- The stored pod may be handed out. -/
theorem Trusts.see (h : s.Trusts seen) {ns name : String} {p : Pod}
    (hp : s.find? ns name = some p) : s.Trusts (p :: seen) where
  stored := h.stored
  dated q hq := by
    rcases List.mem_cons.1 hq with rfl | hq
    · exact h.stored ns name q hp
    · exact h.dated q hq
  current q hq stored hstored hversion := by
    rcases List.mem_cons.1 hq with rfl | hq
    · obtain ⟨rfl, rfl⟩ := isNamed_of_find? hp
      rw [hp] at hstored
      exact (Option.some.inj hstored).symm
    · exact h.current q hq stored hstored hversion

theorem trusts_foldl_put (pods : List Pod) (h : s.Trusts seen) :
    (pods.foldl put s).Trusts seen := by
  induction pods generalizing s with
  | nil => exact h
  | cons p pods ih => exact ih (h.put p)

end Store

namespace World

variable {w : World} {seen : List Pod}

/-- A patch of the world is one of its store, unless a queued failure comes first. -/
theorem patch_store (w : World) (pod : Pod) (more : Annotations) :
    Store.Patched w.store pod more (w.patch pod more).1 (w.patch pod more).2.store := by
  unfold World.patch
  cases w.faults.patch with
  | nil => exact w.store.patch_cases pod more
  | cons e rest => exact .refused e

/-- Answers keep the trust in what was handed out, themselves included. -/
theorem trusts_answer (h : w.store.Trusts seen) (c : Call) :
    (answer c w).2.store.Trusts (c.handedOut (answer c w).1 ++ seen) := by
  -- What the registry and the clock answer leaves the pods alone. A pod that is handed out is the
  -- one that is stored, with the version that it is stored with.
  cases c with
  | list scope => exact (afterRegistry_list w).store ▸ h
  | remove scope id => exact (afterRegistry_remove w id).store ▸ h
  | now => exact h
  | get namespaceName name =>
    show (w.get namespaceName name).2.store.Trusts
      ((Call.get namespaceName name).handedOut (w.get namespaceName name).1 ++ seen)
    unfold World.get
    cases w.faults.get with
    | cons e rest => exact h
    | nil =>
      dsimp only
      cases hfound : w.store.find? namespaceName name with
      | none => exact h
      | some p => exact h.see hfound
  | patch pod more =>
    show (w.patch pod more).2.store.Trusts
      ((Call.patch pod more).handedOut (w.patch pod more).1 ++ seen)
    have hpatched := w.patch_store pod more
    generalize (w.patch pod more).1 = result at hpatched ⊢
    generalize (w.patch pod more).2.store = s at hpatched ⊢
    cases hpatched with
    | refused e => exact h
    | written hstored hversion => exact (h.put _).see (Store.find?_put_self w.store _)
  | delete pod =>
    show (w.delete pod).2.store.Trusts seen
    unfold World.delete
    cases w.faults.delete with
    | cons e rest => exact h
    | nil =>
      show (w.store.delete pod).2.Trusts seen
      unfold Store.delete
      cases w.store.find? pod.namespaceName pod.name with
      | none => exact h
      | some stored => exact h.drop _ _

/-- No change from outside makes anything that was seen current again. -/
theorem trusts_apply (h : w.store.Trusts seen) (change : Change) :
    (w.apply change).store.Trusts seen := by
  cases change with
  | putPod pod => exact h.put pod
  | dropPod namespaceName name => exact h.drop namespaceName name
  | _ => exact h

end World

/-! ## Races -/

namespace Race

variable {r r' : Race} {e : Event} {events : List Event} {ns name : String}

/-- What was handed out can be trusted, and all that is under way is careful with it. -/
structure Sound (r : Race) : Prop where
  trusts : r.world.store.Trusts r.seen
  careful : ∀ p ∈ r.running, p.Careful (fun _ _ => True) r.seen

/-- A race begins sound. -/
theorem sound_initial (clock : Instant) (runners : List Runner) (pods : List Pod) :
    (initial clock runners pods).Sound where
  trusts := Store.trusts_foldl_put pods ⟨Store.allDated_empty, nofun, nofun⟩
  careful := nofun

/-- **Every event keeps a race sound.** -/
theorem sound_step (h : r.Sound) (hstep : Step r e r') : r'.Sound := by
  cases hstep with
  | begin op hseen =>
    refine ⟨h.trusts, fun p hp => ?_⟩
    rcases List.mem_cons.1 hp with rfl | hp
    · exact op.program_careful hseen
    · exact h.careful p hp
  | call before after c next hrunning =>
    refine ⟨World.trusts_answer h.trusts c, fun p hp => ?_⟩
    have hcalled : Program.Careful (fun _ _ => True) (.call c next) r.seen :=
      h.careful _ (by rw [hrunning]; simp)
    have hgrown : r.seen ⊆ c.handedOut (World.answer c r.world).1 ++ r.seen :=
      List.subset_append_right _ _
    have hothers : ∀ q ∈ before ++ after,
        q.Careful (fun _ _ => True) (c.handedOut (World.answer c r.world).1 ++ r.seen) := by
      intro q hq
      refine (h.careful q ?_).mono hgrown fun _ _ _ _ _ => trivial
      rw [hrunning]
      rcases List.mem_append.1 hq with hq | hq
      · exact List.mem_append_left _ hq
      · exact List.mem_append_right _ (List.mem_cons_of_mem _ hq)
    -- the program that made the call goes on with its answer, the others have only learnt more
    rcases List.mem_append.1 hp with hp | hp
    · exact hothers p (List.mem_append_left _ hp)
    · rcases List.mem_cons.1 hp with rfl | hp
      · exact hcalled.2 _
      · exact hothers p (List.mem_append_right _ hp)
  | change change => exact ⟨World.trusts_apply h.trusts change, h.careful⟩

/-- **Every race that can be reached is sound.** -/
theorem sound_of_reachable (h : r.Reachable) : r.Sound := by
  obtain ⟨clock, runners, pods, events, hrun⟩ := h
  exact hrun.keeps (fun _ _ _ hstep hsound => sound_step hsound hstep)
    (sound_initial clock runners pods)

/-- What an event can do to an annotation, as its text before, whether the event wrote it, and its
text after. -/
inductive Written : Option String → Bool → Option String → Prop
  | untouched (text : Option String) : Written text false text
  | added (value : String) : Written none true (some value)

/-- A patch that goes through has found the pod as it was handed out, so that the annotation it adds
was not there. -/
theorem written_patch (key : String) {pod : Pod} {more : Annotations}
    (h : r.world.store.Trusts r.seen) (hcareful : (Call.patch pod more).IsCareful r.seen)
    {result : Except PodStoreError Pod}
    {s : Store} (hpatched : Store.Patched r.world.store pod more result s) :
    Written (r.annotation? ns name key)
      (Event.writes ns name key (.answered (.patch pod more) result))
      ((s.find? ns name).bind (·.annotation? key)) := by
  obtain ⟨hseen, added, value, rfl, hlacks⟩ := hcareful
  cases hpatched with
  | refused e => exact .untouched _
  | @written stored hstored hversion =>
    -- the copy has the version of the stored pod, so it is the stored pod
    obtain rfl : pod = stored := (h.current pod hseen stored hstored hversion).symm
    show Written _ (Store.isNamed ns name pod && (Annotations.single added value).contains key) _
    rw [Store.find?_put, show Store.isNamed ns name (pod.annotate (.single added value)) =
      Store.isNamed ns name pod from rfl]
    cases hnamed : Store.isNamed ns name pod with
    | false => exact .untouched _
    | true =>
      obtain ⟨rfl, rfl⟩ := Store.isNamed_iff.1 hnamed
      have hbefore : r.annotation? pod.namespaceName pod.name key = pod.annotation? key := by
        unfold annotation?
        rw [hstored, Option.bind_some]
      rw [hbefore, if_pos rfl, Option.bind_some, World.annotation?_written]
      unfold Annotations.contains Annotations.single
      rw [Annotations.get?_insert]
      by_cases hkey : added = key
      · subst hkey
        rw [Pod.annotation?_eq_none hlacks, if_pos rfl, if_pos rfl]
        exact .added value
      · rw [if_neg hkey, if_neg hkey]
        exact .untouched _

/-- **What an event can do to an annotation**, unless somebody from outside writes or drops the pod:
it is left as it is, or it was not there and is now. -/
theorem annotation_step (key : String) (h : r.Sound) (hstep : Step r e r')
    (hspares : e.spares ns name) :
    Written (r.annotation? ns name key) (e.writes ns name key) (r'.annotation? ns name key) := by
  cases hstep with
  | begin op hseen => exact .untouched _
  | call before after c next hrunning =>
    -- The call is that of an operation under way, and these are careful.
    have hcareful : c.IsCareful r.seen :=
      (h.careful (.call c next) (by rw [hrunning]; simp)).1
    cases c with
    | list scope =>
      show Written _ _ ((r.world.list.2.store.find? ns name).bind _)
      rw [(World.afterRegistry_list r.world).store]
      exact .untouched _
    | remove scope id =>
      show Written _ _ (((r.world.remove id).2.store.find? ns name).bind _)
      rw [(World.afterRegistry_remove r.world id).store]
      exact .untouched _
    | now => exact .untouched _
    | get namespaceName name' =>
      show Written _ _ (((r.world.get namespaceName name').2.store.find? ns name).bind _)
      rw [World.store_get]
      exact .untouched _
    | patch pod more => exact written_patch key h.trusts hcareful (r.world.patch_store pod more)
    | delete pod => exact hcareful.elim
  | change change =>
    -- A change from outside that spares the pod is to another pod, or to no pod at all.
    cases change with
    | putPod pod =>
      show Written _ _ (((r.world.store.put pod).find? ns name).bind _)
      rw [Store.find?_put, if_neg (fun hnamed => hspares (Store.isNamed_iff.1 hnamed))]
      exact .untouched _
    | dropPod ns' name' =>
      show Written _ _ (((r.world.store.drop ns' name').find? ns name).bind _)
      rw [Store.find?_drop, if_neg (fun hsame => hspares ⟨hsame.1.symm, hsame.2.symm⟩)]
      exact .untouched _
    | _ => exact .untouched _

/-- A run leaves a text as it is, and it writes the annotation exactly if it was not there in the
beginning and is in the end. -/
theorem annotation_run (key : String) (h : r.Sound) (hrun : Run r events r')
    (hspares : ∀ e ∈ events, e.spares ns name) :
    (∀ value, r.annotation? ns name key = some value → r'.annotation? ns name key = some value) ∧
      (r.annotation? ns name key).isSome.toNat + events.countP (·.writes ns name key) =
        (r'.annotation? ns name key).isSome.toNat := by
  induction hrun with
  | nil r => exact ⟨fun _ hvalue => hvalue, rfl⟩
  | @cons r r₁ r₂ e events hstep hrest ih =>
    -- an annotation that the first event writes is there for all the others
    obtain ⟨hkept, hcount⟩ :=
      ih (sound_step h hstep) fun e he => hspares e (List.mem_cons_of_mem _ he)
    have hwritten := annotation_step key h hstep (hspares e List.mem_cons_self)
    rw [List.countP_cons]
    generalize r.annotation? ns name key = before at hwritten ⊢
    generalize r₁.annotation? ns name key = between at hwritten hkept hcount
    generalize e.writes ns name key = wrote at hwritten ⊢
    cases hwritten with
    | untouched text => exact ⟨hkept, by simpa using hcount⟩
    | added value =>
      refine ⟨nofun, ?_⟩
      rw [Option.isSome_some, Bool.toNat_true] at hcount
      rw [Option.isSome_none, Bool.toNat_false, if_pos rfl]
      omega

/-- **Annotations are written once, however many controllers race.** Unless somebody from outside
writes or drops a pod, an annotation that it has keeps its text; and of all patches that go through,
by whichever controllers, at most one writes an annotation of that name, none at all if it was there
to begin with. -/
theorem annotations_written_once (key : String) {start finish : Race}
    (hstart : start.Reachable) (hrun : Run start events finish)
    (hspares : ∀ e ∈ events, e.spares ns name) :
    (∀ value, start.annotation? ns name key = some value →
      finish.annotation? ns name key = some value ∧
        events.countP (·.writes ns name key) = 0) ∧
      events.countP (·.writes ns name key) ≤ 1 := by
  obtain ⟨hkept, hcount⟩ := annotation_run key (sound_of_reachable hstart) hrun hspares
  have hle : (finish.annotation? ns name key).isSome.toNat ≤ 1 := Bool.toNat_le _
  refine ⟨fun value hvalue => ⟨hkept value hvalue, ?_⟩, by omega⟩
  rw [hvalue, Option.isSome_some, Bool.toNat_true] at hcount
  omega

/-! ### Two controllers and one number

Both have read the pod before anything was written on it, and each has looked up another number. The
second patch is refused, although the copy it is made on lacks the annotation. -/

def contestedPod : Pod where
  namespaceName := "default"
  name := "runner-abc"
  version := some "1"
  annotations := .empty
  phase := .running
  containers := []
  conditions := []

/-- What happens, call by call. -/
def contest : List Event := [
  .begun (.get "default" "runner-abc"),
  .answered (.get "default" "runner-abc") (.ok (some contestedPod)),
  .begun (.annotate contestedPod Pod.runnerIdKey "7"),
  .begun (.annotate contestedPod Pod.runnerIdKey "11"),
  .answered (.patch contestedPod (.single Pod.runnerIdKey "7"))
    (.ok { contestedPod with version := some "2", annotations := .single Pod.runnerIdKey "7" }),
  .answered (.patch contestedPod (.single Pod.runnerIdKey "11"))
    (.error (.conflict "default/runner-abc"))]

/-- The contest is a run of the race, and in the end the number is recorded. -/
theorem contest_run : ∃ finish, Run (initial .epoch [] [contestedPod]) contest finish ∧
    finish.annotation? "default" "runner-abc" Pod.runnerIdKey = some "7" := by
  have hseen : ∀ pod ∈ some contestedPod, pod ∈ [contestedPod] := by
    intro pod hpod
    exact List.mem_singleton.2 (Option.some.inj hpod).symm
  refine ⟨_, .cons (.begin _ nofun) <| .cons (.call [] [] _ _ rfl) <|
    .cons (.begin _ hseen) <| .cons (.begin _ hseen) <|
    .cons (.call [_] [_] _ _ rfl) <| .cons (.call [] [_, _] _ _ rfl) <| .nil _, ?_⟩
  decide

/-- Two numbers are written on copies of one pod, and only one of the writes goes through. -/
theorem annotations_written_once_contest : ∃ finish,
    (initial .epoch [] [contestedPod]).Reachable ∧
      Run (initial .epoch [] [contestedPod]) contest finish ∧
      (∀ e ∈ contest, e.spares "default" "runner-abc") ∧
      contest.countP (·.writes "default" "runner-abc" Pod.runnerIdKey) ≤ 1 ∧
      finish.annotation? "default" "runner-abc" Pod.runnerIdKey = some "7" := by
  obtain ⟨finish, hrun, hvalue⟩ := contest_run
  have hstart : (initial .epoch [] [contestedPod]).Reachable := ⟨.epoch, [], _, [], .nil _⟩
  have hspares : ∀ e ∈ contest, e.spares "default" "runner-abc" := by
    intro e he
    simp only [contest, List.mem_cons, List.not_mem_nil, or_false] at he
    rcases he with rfl | rfl | rfl | rfl | rfl | rfl <;> trivial
  exact ⟨finish, hstart, hrun, hspares, (annotations_written_once _ hstart hrun hspares).2, hvalue⟩

end Race
end Quiesce
