import Quiesce.Proofs.Atomicity
import Quiesce.Proofs.DrainEnds
import Quiesce.Proofs.Perseverance

/-!
# Completion is final

Once a step has found a pod deletable, nothing that the registry, the cluster or the clock may still
say makes a difference: the pod has both marks, marks are never taken back, and whoever asks about a
pod that has them is answered before anything is called.

* `Pod.Settled` is what is to be final, and `Pod.Confirmed.settled` says that the two marks suffice.
* `World.tick_confirms` is what a step leaves behind: never a complete mark that is empty, and both
  marks if it found the pod deletable.
* `Race.Unspoilt` carries this through everything that controllers do, `Race.Guarded.text` what has
  been marked through everything that comes later.
* `Drain.Walk.finished` is about the passes of a drain, and `completion_is_final` puts it together.
-/

namespace Quiesce

/-! ## Pods that are settled -/

/-- Whoever asks about the pod is told that it may go, whatever would be answered to their calls. A
decision makes none, and a step reads the clock for its two marks and does nothing else. -/
structure Pod.Settled (pod : Pod) : Prop where
  decision : ∀ {σ : Type} (handler : Handler σ) (s : σ) (target : Target)
    (timeout retryDelay : Duration),
    (ensureUnregistered target timeout retryDelay (some pod)).run handler s = ⟨.deletable, [], s⟩
  step : ∀ {σ : Type} (handler : Handler σ) (s : σ) (target : Target)
    (timeout retryDelay : Duration),
    (tick target timeout retryDelay (some pod)).run handler s =
      ⟨.deletable (some pod), [.now, .now], (handler .now (handler .now s).2).2⟩

/-- A confirmed pod is settled: no decision on it calls anything. -/
theorem Pod.Confirmed.settled {pod : Pod} (h : pod.Confirmed) : pod.Settled where
  decision handler s target timeout retryDelay :=
    ensureUnregistered_confirmed handler s target timeout retryDelay h.complete
  step handler s target timeout retryDelay :=
    tick_confirmed handler s target timeout retryDelay h

/-- Where both marks of such a pod are found, there is such a pod. -/
theorem Pod.Confirmed.of_texts {p : Pod} (h : p.Confirmed) {found : Option Pod}
    (hsame : ∀ key ∈ [startKey, completeKey],
      found.bind (·.annotation? key) = p.annotation? key) :
    ∃ q, found = some q ∧ q.Confirmed := by
  have hstart := hsame startKey (by simp)
  have hcomplete := hsame completeKey (by simp)
  obtain ⟨start, htext⟩ := Option.isSome_iff_exists.1 h.start
  have hbind : found.bind (·.annotation? startKey) = some start := hstart.trans htext
  obtain ⟨q, rfl, -⟩ := Option.bind_eq_some_iff.1 hbind
  rw [Option.bind_some] at hstart hcomplete
  exact ⟨q, rfl, (hasAnnotation_congr hstart).trans h.start,
    (isMarked_congr hcomplete).trans h.complete⟩

/-! ## What a step leaves behind -/

/-- Marking a pod hands out only pods that a later patch can tell from what is stored then. -/
theorem Store.Marked.trusts {s s' : Store} {pod : Pod} {key value : String}
    {answered : Except PodStoreError Pod} {seen : List Pod}
    (hmarked : s.Marked pod key value answered s') (h : s.Trusts seen) : s'.Trusts seen := by
  cases hmarked with
  | present hhas => exact h
  | refused e => exact h
  | written hlacks hcurrent => exact h.put _

namespace World

variable {w w' : World} {pod : Pod} {target : Target} {timeout retryDelay : Duration}
  {outcome : TickOutcome} {calls : List Call}

/-- A step on a copy hands out only pods that a later patch can tell from what is stored then. -/
theorem tick_trusts {seen : List Pod} (hcopy : w.store.Copies pod) (h : w.store.Trusts seen)
    (hticked : Ticked answer target timeout retryDelay w (some pod) outcome calls w') :
    w'.store.Trusts seen := by
  obtain ⟨answered, s, hstart, hrest⟩ := tick_stored hcopy hticked
  have hstarted := hstart.trusts h
  rcases hrest with ⟨-, hstore⟩ | ⟨p, q, -, -, hcomplete⟩
  · rwa [hstore]
  · exact hcomplete.trusts hstarted

/-- **What a step leaves of the stored pod.** It never leaves an empty complete mark that was not
there; and if it finds the pod deletable, the pod that it hands back is stored and has both
marks. -/
theorem tick_confirms (hcurrent : w.store.find? pod.namespaceName pod.name = some pod)
    (hopen : pod.annotation? Pod.completeKey ≠ some "")
    (hticked : Ticked answer target timeout retryDelay w (some pod) outcome calls w') :
    (∃ q, w'.store.find? pod.namespaceName pod.name = some q ∧
        q.annotation? Pod.completeKey ≠ some "") ∧
      ∀ q, outcome = .deletable (some q) →
        w'.store.find? pod.namespaceName pod.name = some q ∧ q.Confirmed := by
  have hcopy := Store.copies_of_stored hcurrent
  obtain ⟨answered, s, hstart, hrest⟩ := tick_stored hcopy hticked
  rcases hrest with ⟨hwaits, hstore⟩ | ⟨p, q, rfl, rfl, hcomplete⟩
  · refine ⟨?_, fun q hq => ?_⟩
    · -- whatever came of the start mark, the complete mark is as it was
      rw [hstore]
      cases answered with
      | error e => exact ⟨pod, by rw [hstart.store_of_error, hcurrent], hopen⟩
      | ok p =>
        refine ⟨p, (hstart.current hcurrent).1, ?_⟩
        rwa [hstart.annotation?_other (by decide)]
    · rw [hq] at hwaits
      cases hwaits
  · obtain ⟨hp, -⟩ := hstart.current hcurrent
    obtain ⟨-, hns, hname⟩ := hstart.copies hcopy
    have hpopen : p.annotation? Pod.completeKey ≠ some "" := by
      rwa [hstart.annotation?_other (by decide)]
    rw [← hns, ← hname] at hp
    obtain ⟨hq, -⟩ := hcomplete.current hp
    rw [hns, hname] at hq
    have hmarked : q.isMarked Pod.completeKey = true := hcomplete.isMarked_iff.2 hpopen
    have hstarted : q.hasAnnotation Pod.startKey = true :=
      (Pod.hasAnnotation_congr (hcomplete.annotation?_other (by decide))).trans
        (Pod.hasAnnotation_of_some hstart.annotation?_self)
    refine ⟨⟨q, hq, fun hempty => ?_⟩, fun r hr => ?_⟩
    · obtain ⟨text, htext, hne⟩ := Pod.isMarked_iff.1 hmarked
      rw [hempty] at htext
      exact hne (Option.some.inj htext).symm
    · cases hr
      exact ⟨hq, hstarted, hmarked⟩

end World

/-! ## Races in which only steps confirm -/

/-- The call does not write an empty complete mark. -/
def Call.IsHonest : Call → Prop
  | .patch _ more => more.get? Pod.completeKey ≠ some ""
  | _ => True

theorem Call.isHonest_single {pod : Pod} {key value : String}
    (h : key = Pod.completeKey → value ≠ "") : (Call.patch pod (.single key value)).IsHonest := by
  show Annotations.get? (.single key value) Pod.completeKey ≠ some ""
  unfold Annotations.single
  rw [Annotations.get?_insert]
  by_cases hkey : key = Pod.completeKey
  · rw [if_pos hkey]
    exact fun hempty => h hkey (Option.some.inj hempty)
  · rw [if_neg hkey]
    exact nofun

/-- Of all operations only one is told what to write; the others do not write an empty complete
mark. -/
theorem Operation.program_honest (op : Operation)
    (h : ∀ pod value, op ≠ .annotate pod Pod.completeKey value) :
    op.program.Asks Call.IsHonest := by
  cases op with
  | get namespaceName name => exact ⟨trivial, fun _ => trivial⟩
  | annotate pod key value =>
    have hkey : key ≠ Pod.completeKey := by
      rintro rfl
      exact h pod value rfl
    exact (annotateOnce_asks (Call.isHonest_single fun hsame => absurd hsame hkey)).bind
      fun _ => trivial
  | register target pod =>
    have hnumber : Pod.runnerIdKey ≠ Pod.completeKey := by decide
    exact (ensureRegistered_asks trivial
      (fun _ _ => Call.isHonest_single fun hsame => absurd hsame hnumber) pod).bind fun _ => trivial
  | tick target timeout retryDelay pod =>
    exact (tick_asks trivial (fun _ => trivial) trivial
      (fun _ _ t => Call.isHonest_single fun _ => markText_ne_empty t) timeout retryDelay pod).bind
        fun _ => trivial

namespace Race

variable {r r' : Race} {e : Event} {ns name : String} {keys : List String}

/-- Events one after the other in which the marks of a pod are left to the steps of the controllers.
Nobody writes a complete mark by hand, and whatever is done to the pod from outside, those of its
annotations stay what they are. -/
inductive Guarded (ns name : String) (keys : List String) : Race → Race → Prop
  | nil (r : Race) : Guarded ns name keys r r
  | cons {r r' r'' : Race} {e : Event} (step : Step r e r')
      (byStep : ∀ pod value, e ≠ .begun (.annotate pod Pod.completeKey value))
      (outside : e.spares ns name ∨
        ∀ key ∈ keys, r'.annotation? ns name key = r.annotation? ns name key)
      (rest : Guarded ns name keys r' r'') : Guarded ns name keys r r''

/-- The complete mark of the pod is not empty, and nothing that is under way will make it so. -/
structure Unspoilt (ns name : String) (r : Race) : Prop where
  sound : r.Sound
  honest : ∀ p ∈ r.running, p.Asks Call.IsHonest
  text : r.annotation? ns name Pod.completeKey ≠ some ""

/-- A patch that adds one annotation without making the complete mark empty does not leave it
empty. -/
theorem text_patch {pod : Pod} {more : Annotations} {result : Except PodStoreError Pod}
    {s s' : Store} {seen : List Pod} (hcareful : (Call.patch pod more).IsCareful seen)
    (hhonest : (Call.patch pod more).IsHonest)
    (htext : (s.find? ns name).bind (·.annotation? Pod.completeKey) ≠ some "")
    (hpatched : Store.Patched s pod more result s') :
    (s'.find? ns name).bind (·.annotation? Pod.completeKey) ≠ some "" := by
  obtain ⟨-, key, value, rfl, -⟩ := hcareful
  cases hpatched with
  | refused e => exact htext
  | @written stored hstored hversion =>
    rw [Store.find?_put]
    -- The patch is on this pod or on another; on this one it is an honest mark, or some other
    -- annotation.
    by_cases hnamed : Store.isNamed ns name (stored.annotate (.single key value)) = true
    · rw [if_pos hnamed]
      obtain ⟨hns, hname⟩ := Store.isNamed_iff.1 hnamed
      obtain ⟨hns', hname'⟩ := Store.isNamed_of_find? (p := stored) hstored
      have hfound : s.find? ns name = some stored := by
        rw [← hns, ← hname]
        show s.find? stored.namespaceName stored.name = some stored
        rw [hns', hname', hstored]
      rw [hfound, Option.bind_some] at htext
      rw [Option.bind_some, World.annotation?_written]
      by_cases hkey : key = Pod.completeKey
      · rw [if_pos hkey]
        intro hempty
        subst hkey
        refine hhonest ?_
        unfold Annotations.single
        rw [Annotations.get?_insert_self, hempty]
      · rwa [if_neg hkey]
    · rwa [if_neg hnamed]

/-- **Every guarded event keeps a race unspoilt.** -/
theorem unspoilt_step (h : r.Unspoilt ns name) (hstep : Step r e r')
    (hbyStep : ∀ pod value, e ≠ .begun (.annotate pod Pod.completeKey value))
    (houtside : e.spares ns name ∨
      r'.annotation? ns name Pod.completeKey = r.annotation? ns name Pod.completeKey) :
    r'.Unspoilt ns name := by
  have hsound := sound_step h.sound hstep
  -- whatever is not a patch leaves the annotations of a pod that is spared
  have huntouched : e.writes ns name Pod.completeKey = false →
      r'.annotation? ns name Pod.completeKey ≠ some "" := by
    intro hwrites
    rcases houtside with hspares | hsame
    · have hwritten := annotation_step Pod.completeKey h.sound hstep hspares
      rw [hwrites] at hwritten
      generalize hafter : r'.annotation? ns name Pod.completeKey = after at hwritten
      generalize hbefore : r.annotation? ns name Pod.completeKey = before at hwritten
      cases hwritten
      rw [← hbefore]
      exact h.text
    · rw [hsame]
      exact h.text
  cases hstep with
  | begin op hseen =>
    refine ⟨hsound, fun p hp => ?_, h.text⟩
    rcases List.mem_cons.1 hp with rfl | hp
    · exact op.program_honest fun pod value hop => hbyStep pod value (congrArg Event.begun hop)
    · exact h.honest p hp
  | call before after c next hrunning =>
    have hcalled : (Program.call c next).Asks Call.IsHonest :=
      h.honest _ (by rw [hrunning]; simp)
    refine ⟨hsound, fun p hp => ?_, ?_⟩
    · rcases List.mem_append.1 hp with hp | hp
      · exact h.honest p (by rw [hrunning]; exact List.mem_append_left _ hp)
      · rcases List.mem_cons.1 hp with rfl | hp
        · exact hcalled.2 _
        · refine h.honest p ?_
          rw [hrunning]
          exact List.mem_append_right _ (List.mem_cons_of_mem _ hp)
    · cases c with
      | patch pod more =>
        have hcareful : (Call.patch pod more).IsCareful r.seen :=
          (h.sound.careful (.call (.patch pod more) next) (by rw [hrunning]; simp)).1
        exact text_patch hcareful hcalled.1 h.text (r.world.patch_store pod more)
      | list scope => exact huntouched rfl
      | remove scope id => exact huntouched rfl
      | get namespaceName name => exact huntouched rfl
      | delete pod => exact huntouched rfl
      | now => exact huntouched rfl
  | change change => exact ⟨hsound, h.honest, huntouched rfl⟩

/-- As long as the mark for completion is guarded, nothing spoils it. -/
theorem Guarded.unspoilt (hrun : Guarded ns name keys r r') (hkeys : Pod.completeKey ∈ keys)
    (h : r.Unspoilt ns name) : r'.Unspoilt ns name := by
  induction hrun with
  | nil r => exact h
  | cons step byStep outside rest ih =>
    exact ih (unspoilt_step h step byStep (outside.imp_right fun hsame => hsame _ hkeys))

/-- A guarded annotation is never taken back. Induction on the events: one by a controller has found
the annotation there, and one from outside leaves it as it is. -/
theorem Guarded.text {key value : String} (hrun : Guarded ns name keys r r') (h : r.Sound)
    (hkey : key ∈ keys) (hvalue : r.annotation? ns name key = some value) :
    r'.annotation? ns name key = some value := by
  induction hrun with
  | nil r => exact hvalue
  | @cons r r₁ r₂ e step byStep outside rest ih =>
    refine ih (sound_step h step) ?_
    rcases outside with hspares | hsame
    · have hwritten := annotation_step key h step hspares
      rw [hvalue] at hwritten
      generalize e.writes ns name key = wrote at hwritten
      generalize r₁.annotation? ns name key = after at hwritten
      cases hwritten
      rfl
    · rw [hsame key hkey, hvalue]

/-- A pod that is confirmed stays stored and confirmed while its marks are guarded. -/
theorem Guarded.confirmed {p : Pod}
    (hrun : Guarded ns name [Pod.startKey, Pod.completeKey] r r') (h : r.Sound)
    (hp : r.world.store.find? ns name = some p) (hconfirmed : p.Confirmed) :
    ∃ q, r'.world.store.find? ns name = some q ∧ q.Confirmed := by
  obtain ⟨start, hstart⟩ := Option.isSome_iff_exists.1 hconfirmed.start
  obtain ⟨complete, hcomplete, -⟩ := Pod.isMarked_iff.1 hconfirmed.complete
  have hkept : ∀ key ∈ [Pod.startKey, Pod.completeKey], ∀ text, p.annotation? key = some text →
      r'.annotation? ns name key = p.annotation? key := by
    intro key hkey text htext
    rw [htext]
    refine hrun.text h hkey ?_
    unfold annotation?
    rw [hp]
    exact htext
  refine hconfirmed.of_texts fun key hkey => ?_
  rcases List.mem_cons.1 hkey with rfl | hcompleteKey
  · exact hkept Pod.startKey hkey start hstart
  · obtain rfl := List.mem_singleton.1 hcompleteKey
    exact hkept Pod.completeKey hkey complete hcomplete

/-- The race goes on after a step that was made in one go and has handed back a pod. -/
theorem sound_tick {pod q : Pod} {target : Target} {timeout retryDelay : Duration}
    {outcome : TickOutcome} {calls : List Call} {w' : World} (h : r.Sound)
    (hcurrent : r.world.store.find? pod.namespaceName pod.name = some pod)
    (hticked : Ticked World.answer target timeout retryDelay r.world (some pod) outcome calls w')
    (hq : w'.store.find? ns name = some q) : Sound ⟨w', q :: r.seen, r.running⟩ where
  trusts := (World.tick_trusts (Store.copies_of_stored hcurrent) h.trusts hticked).see hq
  careful p hp := (h.careful p hp).mono (List.subset_cons_self _ _) fun _ _ _ _ _ => trivial

end Race

namespace Drain

variable {host : Host World} {plan : Plan} {w w' t : World} {leg : Leg} {legs : List Leg}
  {ending : Ending}

/-- The text of an annotation of the stored pod that a drain is about. -/
def Plan.text? (plan : Plan) (key : String) (w : World) : Option String :=
  (plan.stored w).bind (·.annotation? key)

/-- A world as the host of a drain, in which between two passes anything may happen but to the marks
of the pod. -/
structure LeavesMarks (host : Host World) (plan : Plan) : Prop where
  answer : host.answer = World.answer
  sleep : ∀ d w, ∀ key ∈ [Pod.startKey, Pod.completeKey],
    plan.text? key (host.sleep d w).2 = plan.text? key w

/-- The pod that a drain is about is stored with both marks. -/
def Finished (plan : Plan) (w : World) : Prop :=
  ∃ p, plan.stored w = some p ∧ p.Confirmed

/-- A text is looked up in the store alone. -/
theorem text?_congr (key : String) (hstore : w'.store = w.store) :
    plan.text? key w' = plan.text? key w := by
  unfold Plan.text?
  rw [stored_congr plan hstore]

/-- Whether a drain is finished depends on two marks of its pod. -/
theorem Finished.congr (h : Finished plan w)
    (hsame : ∀ key ∈ [Pod.startKey, Pod.completeKey], plan.text? key w' = plan.text? key w) :
    Finished plan w' := by
  obtain ⟨p, hp, hconfirmed⟩ := h
  refine hconfirmed.of_texts fun key hkey => (hsame key hkey).trans ?_
  unfold Plan.text?
  rw [hp, Option.bind_some]

/-- What a pass reads is the stored pod. -/
theorem read_stored {pod : Option Pod} (hanswer : host.answer = World.answer)
    (read : host.answer (.get plan.podNamespace plan.podName) w = (.ok pod, w')) :
    pod = plan.stored w ∧ w' = w := by
  rw [hanswer] at read
  rcases get_stored plan w with ⟨e, w'', hget, -⟩ | hget
  · rw [hget] at read
    cases read
  · rw [hget] at read
    cases read
    exact ⟨rfl, rfl⟩

theorem unread_store {e : PodStoreError} (hanswer : host.answer = World.answer)
    (read : host.answer (.get plan.podNamespace plan.podName) w = (.error e, w')) :
    w'.store = w.store := by
  rw [hanswer] at read
  rcases get_stored plan w with ⟨e, w'', hget, hstore, -⟩ | hget
  · rw [hget] at read
    cases read
    exact hstore
  · rw [hget] at read
    cases read

/-- What the step of a pass leaves, if there is a pod or not. -/
theorem stepped_confirms {outcome : TickOutcome} {calls : List Call}
    (htext : plan.text? Pod.completeKey w ≠ some "")
    (stepped : (tick plan.target plan.timeout plan.retryDelay (plan.stored w)).run World.answer w =
      ⟨outcome, calls, w'⟩) :
    plan.text? Pod.completeKey w' ≠ some "" ∧
      ∀ p, outcome = .deletable (some p) → plan.stored w' = some p ∧ p.Confirmed := by
  have hticked := tick_cases World.answer plan.target plan.timeout plan.retryDelay w
    (plan.stored w)
  rw [stepped] at hticked
  dsimp only at hticked
  cases hp : plan.stored w with
  | none =>
    rw [hp] at hticked
    -- no pod to hand back
    obtain ⟨hframe, houtcome⟩ := tick_without_pod hticked
    refine ⟨by rwa [text?_congr _ hframe.store], fun p hdeletable => ?_⟩
    subst hdeletable
    rcases houtcome with ⟨hwaits, -⟩ | hnone
    · cases hwaits
    · cases hnone
  | some p =>
    rw [hp] at hticked
    obtain ⟨hns, hname⟩ := Store.isNamed_of_find? (p := p) hp
    have hopen : p.annotation? Pod.completeKey ≠ some "" := by
      unfold Plan.text? at htext
      rwa [hp] at htext
    obtain ⟨⟨q, hq, hqopen⟩, hconfirms⟩ :=
      World.tick_confirms (stored_current hp) hopen hticked
    rw [hns, hname] at hq hconfirms
    refine ⟨?_, hconfirms⟩
    have hstored : plan.stored w' = some q := hq
    unfold Plan.text?
    rwa [hstored]

/-- **What a pass leaves.** The complete mark is never empty afterwards, and if the step has found
the pod deletable but its deletion failed, the pod is stored with both marks. -/
theorem Course.confirms (hanswer : host.answer = World.answer) (h : Course host plan w leg w')
    (htext : plan.text? Pod.completeKey w ≠ some "") :
    plan.text? Pod.completeKey w' ≠ some "" ∧
      ∀ p, leg.outcome = some (.deletable (some p)) → leg.wait.isSome = true →
        Finished plan w' := by
  cases h with
  | unread read =>
    refine ⟨?_, nofun⟩
    rwa [text?_congr _ (unread_store hanswer read)]
  | postponed read stepped =>
    obtain ⟨rfl, rfl⟩ := read_stored hanswer read
    rw [hanswer] at stepped
    exact ⟨(stepped_confirms htext stepped).1, nofun⟩
  | failed read stepped =>
    obtain ⟨rfl, rfl⟩ := read_stored hanswer read
    rw [hanswer] at stepped
    exact ⟨(stepped_confirms htext stepped).1, nofun⟩
  | @undeleted pod q e calls w₁ w₂ w₃ read stepped refused there =>
    obtain ⟨rfl, rfl⟩ := read_stored hanswer read
    rw [hanswer] at stepped refused
    obtain ⟨htext₂, hconfirms⟩ := stepped_confirms htext stepped
    obtain ⟨hq, hconfirmed⟩ := hconfirms q rfl
    rcases delete_stored hq with ⟨e', rest, -, hdelete⟩ | hdelete
    · rw [hdelete] at refused
      cases refused
      exact ⟨htext₂, fun _ _ _ => ⟨q, hq, hconfirmed⟩⟩
    · rw [hdelete] at refused
      cases refused
  | @deleted pod q answer calls w₁ w₂ w₃ read stepped granted gone =>
    obtain ⟨rfl, rfl⟩ := read_stored hanswer read
    rw [hanswer] at stepped granted
    obtain ⟨htext₂, hconfirms⟩ := stepped_confirms htext stepped
    refine ⟨?_, nofun⟩
    rcases delete_stored (hconfirms q rfl).1 with ⟨e', rest, -, hdelete⟩ | hdelete
    · rw [hdelete] at granted
      cases granted
      exact htext₂
    · -- without the pod there is no mark
      rw [hdelete] at granted
      cases granted
      unfold Plan.text? Plan.stored
      dsimp only
      rw [Store.find?_drop, if_pos ⟨rfl, rfl⟩]
      exact nofun
  | absent read stepped =>
    obtain ⟨hpod, rfl⟩ := read_stored hanswer read
    rw [hanswer, hpod] at stepped
    exact ⟨(stepped_confirms htext stepped).1, nofun⟩

/-- A pass over a pod that has both marks does not call the registry, and leaves the pod at that
unless it deletes it. -/
theorem Course.finished (hanswer : host.answer = World.answer) (h : Course host plan w leg w')
    (hfinished : Finished plan w) :
    leg.calls.any Call.isRegistry = false ∧
      (leg.wait.isSome = true → Finished plan w') := by
  obtain ⟨p, hp, hconfirmed⟩ := hfinished
  -- The step of a pass on a confirmed pod is settled: deletable, after two looks at the clock.
  have hstep : (tick plan.target plan.timeout plan.retryDelay (some p)).run World.answer w =
      ⟨.deletable (some p), [.now, .now], w⟩ :=
    tick_confirmed World.answer w plan.target plan.timeout plan.retryDelay hconfirmed
  cases h with
  | unread read =>
    refine ⟨rfl, fun _ => ⟨p, ?_, hconfirmed⟩⟩
    rw [stored_congr plan (unread_store hanswer read), hp]
  | postponed read stepped =>
    obtain ⟨rfl, rfl⟩ := read_stored hanswer read
    rw [hanswer, hp, hstep] at stepped
    cases stepped
  | failed read stepped =>
    obtain ⟨rfl, rfl⟩ := read_stored hanswer read
    rw [hanswer, hp, hstep] at stepped
    cases stepped
  | @undeleted pod q e calls w₁ w₂ w₃ read stepped refused there =>
    obtain ⟨rfl, rfl⟩ := read_stored hanswer read
    rw [hanswer, hp, hstep] at stepped
    cases stepped
    rw [hanswer] at refused
    refine ⟨rfl, fun _ => ?_⟩
    -- A deletion that fails on a pod that is there leaves it as it was.
    rcases delete_stored hp with ⟨e', rest, -, hdelete⟩ | hdelete
    · rw [hdelete] at refused
      cases refused
      exact ⟨p, hp, hconfirmed⟩
    · rw [hdelete] at refused
      cases refused
  | deleted read stepped granted gone =>
    obtain ⟨rfl, rfl⟩ := read_stored hanswer read
    rw [hanswer, hp, hstep] at stepped
    cases stepped
    exact ⟨rfl, nofun⟩
  | absent read stepped =>
    obtain ⟨hpod, rfl⟩ := read_stored hanswer read
    rw [hp] at hpod
    cases hpod

/-- None of the passes over a pod that has both marks calls the registry. -/
theorem Walk.quiet (hleaves : LeavesMarks host plan) (hwalk : Walk host plan w legs ending t)
    (hfinished : Finished plan w) : ∀ leg ∈ legs, leg.calls.any Call.isRegistry = false := by
  induction hwalk with
  | underway w => exact fun leg hleg => absurd hleg List.not_mem_nil
  | returned course last =>
    intro leg hleg
    obtain rfl := List.mem_singleton.1 hleg
    exact (course.finished hleaves.answer hfinished).1
  | interrupted course waits stopped =>
    intro leg hleg
    obtain rfl := List.mem_singleton.1 hleg
    exact (course.finished hleaves.answer hfinished).1
  | @slept w w₁ w₂ t leg legs wait ending course waits woken rest ih =>
    obtain ⟨hquiet, hleft⟩ := course.finished hleaves.answer hfinished
    refine List.forall_mem_cons.2 ⟨hquiet, ih ?_⟩
    have hslept := hleaves.sleep wait w₁
    rw [woken] at hslept
    exact (hleft (by rw [waits]; rfl)).congr hslept

/-- **After a deletion that failed no pass calls the registry again.** Induction on the passes
before it, none of which leaves an empty complete mark. -/
theorem Walk.finished {legs₁ legs₂ : List Leg} {p : Pod} (hleaves : LeavesMarks host plan)
    (hwalk : Walk host plan w (legs₁ ++ leg :: legs₂) ending t)
    (htext : plan.text? Pod.completeKey w ≠ some "")
    (houtcome : leg.outcome = some (.deletable (some p))) (hfailed : leg.wait.isSome = true) :
    ∀ later ∈ legs₂, later.calls.any Call.isRegistry = false := by
  -- By induction on the legs before the one that finds the pod deletable: each keeps the complete
  -- mark from being empty, and so does the sleep behind it.
  induction legs₁ generalizing w with
  | nil =>
    cases hwalk with
    | returned course last => exact fun later hlater => absurd hlater List.not_mem_nil
    | interrupted course waits stopped =>
      exact fun later hlater => absurd hlater List.not_mem_nil
    | @slept _ w₁ w₂ _ _ _ wait _ course waits woken rest =>
      -- This is the leg: it has left the pod confirmed, and no leg behind it asks the registry.
      have hfinished := (course.confirms hleaves.answer htext).2 p houtcome hfailed
      have hslept := hleaves.sleep wait w₁
      rw [woken] at hslept
      exact rest.quiet hleaves (hfinished.congr hslept)
  | cons first legs₁ ih =>
    generalize hlegs : (first :: legs₁) ++ leg :: legs₂ = legs at hwalk
    cases hwalk with
    | underway w => cases hlegs
    | returned course last =>
      have hlength := congrArg List.length hlegs
      simp at hlength
    | interrupted course waits stopped =>
      have hlength := congrArg List.length hlegs
      simp at hlength
    | @slept _ w₁ w₂ _ _ _ wait _ course waits woken rest =>
      rw [List.cons_append, List.cons.injEq] at hlegs
      obtain ⟨rfl, rfl⟩ := hlegs
      have hslept := hleaves.sleep wait w₁ Pod.completeKey (by simp)
      rw [woken] at hslept
      refine ih rest ?_
      rw [hslept]
      exact (course.confirms hleaves.answer htext).1

end Drain

/-! ## The whole -/

/-- **Completion is final.** Begin with a pod that has no complete mark, in a world in which nothing
is under way, and let controllers do whatever they do, as long as the complete mark is left to their
steps. If a step on the pod as it is stored then finds it deletable, the pod that it hands back is
settled, and so is the pod as it is stored at any later time, as long as its marks are left to the
controllers. And if a drain of that pod fails to delete it, none of its later passes calls the
registry, whatever happens between them but to the marks. -/
theorem completion_is_final {ns name : String} {before r : Race} (hreach : before.Reachable)
    (hidle : before.running = []) (hopen : before.annotation? ns name Pod.completeKey = none)
    (hrun : Race.Guarded ns name [Pod.completeKey] before r) :
    (∀ (pod p : Pod) (target : Target) (timeout retryDelay : Duration),
      r.world.store.find? ns name = some pod →
      let o := (tick target timeout retryDelay (some pod)).run World.answer r.world
      o.value = .deletable (some p) →
        p.Settled ∧ ∀ r', Race.Guarded ns name [Pod.startKey, Pod.completeKey]
            ⟨o.state, p :: r.seen, r.running⟩ r' →
          ∃ q, r'.world.store.find? ns name = some q ∧ q.Settled) ∧
      ∀ (host : Drain.Host World) (plan : Drain.Plan) (leg : Drain.Leg)
        (legs₁ legs₂ : List Drain.Leg) (ending : Drain.Ending) (t : World) (p : Pod),
        Drain.LeavesMarks host plan → plan.podNamespace = ns → plan.podName = name →
        Drain.Walk host plan r.world (legs₁ ++ leg :: legs₂) ending t →
        leg.outcome = some (.deletable (some p)) → leg.wait.isSome = true →
          ∀ later ∈ legs₂, later.calls.any Call.isRegistry = false := by
  have hfirst : before.Unspoilt ns name :=
    ⟨Race.sound_of_reachable hreach, by rw [hidle]; exact nofun, by rw [hopen]; exact nofun⟩
  -- The guarded run has not emptied the complete mark.
  have hunspoilt : r.Unspoilt ns name := hrun.unspoilt (by simp) hfirst
  refine ⟨?_, ?_⟩
  · intro pod p target timeout retryDelay hstored o hdeletable
    obtain ⟨rfl, rfl⟩ := Store.isNamed_of_find? hstored
    have htext : pod.annotation? Pod.completeKey ≠ some "" := by
      have := hunspoilt.text
      unfold Race.annotation? at this
      rwa [hstored] at this
    have hticked := tick_cases World.answer target timeout retryDelay r.world (some pod)
    obtain ⟨hp, hconfirmed⟩ := (World.tick_confirms hstored htext hticked).2 p hdeletable
    refine ⟨hconfirmed.settled, fun r' hlater => ?_⟩
    have hsound := Race.sound_tick hunspoilt.sound hstored hticked hp
    obtain ⟨q, hq, hqconfirmed⟩ := hlater.confirmed hsound hp hconfirmed
    exact ⟨q, hq, hqconfirmed.settled⟩
  · -- the passes of a drain behind a failed deletion
    intro host plan leg legs₁ legs₂ ending t p hleaves hns hname hwalk houtcome hfailed
    subst hns hname
    exact hwalk.finished hleaves hunspoilt.text houtcome hfailed

/-! ### A pod that cannot be deleted at once

Its runner has left and is not known to the registry any more; then a runner of that name registers,
and failures arise. -/

/-- The pod of a runner that has left. -/
def leftPod : Pod where
  namespaceName := "default"
  name := "runner-abc"
  version := none
  annotations := .empty
  phase := .succeeded
  containers := []
  conditions := []

def leftPlan : Drain.Plan where
  target := ⟨.ofOrganization "acme", "runner-abc"⟩
  podNamespace := "default"
  podName := "runner-abc"
  timeout := .ofSeconds 60
  retryDelay := .ofSeconds 10

/-- The race before the drain, the first deletion of the pod being about to fail. -/
def leftRace : Race where
  world := (World.initial .epoch [] [leftPod]).apply (.failDelete (.api 500 "internal error"))
  seen := []
  running := []

/-- What happens later: a runner of that name registers, and the cluster refuses to write. -/
def World.reclaimed (w : World) : World :=
  (w.apply (.setRunners [⟨some 7, "runner-abc", "linux", .online, true, []⟩])).apply
    (.failPatch (.conflict "default/runner-abc"))

/-- The simulated world is a host that leaves the marks of the pod to the steps. -/
theorem leavesMarks_host (start : Instant) (plan : Drain.Plan) :
    Drain.LeavesMarks (World.host start) plan where
  answer := rfl
  sleep _ _ _ _ := rfl

/-- A pod that is confirmed while its deletion is about to fail: nothing that happens later reopens
it, and the second pass of a drain leaves the registry alone. -/
theorem completion_is_final_left :
    ∃ pod p, leftRace.world.store.find? "default" "runner-abc" = some pod ∧
      let o := (tick leftPlan.target leftPlan.timeout leftPlan.retryDelay (some pod)).run
        World.answer leftRace.world
      o.value = .deletable (some p) ∧ p.Settled ∧
        (∃ q, o.state.reclaimed.store.find? "default" "runner-abc" = some q ∧ q.Settled) ∧
        ∃ leg later t,
          Drain.Walk (World.host .epoch) leftPlan leftRace.world [leg, later] .returned t ∧
            leg.outcome = some (.deletable (some p)) ∧ leg.wait.isSome = true ∧
            later.calls.any Call.isRegistry = false := by
  have hreach : (Race.initial .epoch [] [leftPod]).Reachable := ⟨.epoch, [], _, [], .nil _⟩
  have hrun : Race.Guarded "default" "runner-abc" [Pod.completeKey]
      (Race.initial .epoch [] [leftPod]) leftRace :=
    .cons (.change (.failDelete (.api 500 "internal error"))) nofun (Or.inl trivial) (.nil _)
  obtain ⟨hsettles, hdrains⟩ := completion_is_final hreach rfl (by decide +kernel) hrun
  have hwalk : ∃ p leg later t,
      ((tick leftPlan.target leftPlan.timeout leftPlan.retryDelay
          (some { leftPod with version := some "1" })).run World.answer leftRace.world).value =
        .deletable (some p) ∧
      Drain.Walk (World.host .epoch) leftPlan leftRace.world [leg, later] .returned t ∧
        leg.outcome = some (.deletable (some p)) ∧ leg.wait.isSome = true :=
    ⟨_, _, _, _, rfl, .slept (.undeleted rfl rfl rfl rfl) rfl rfl
      (.returned (.deleted rfl rfl rfl (Or.inl rfl)) rfl), rfl, rfl⟩
  obtain ⟨p, leg, later, t, hdeletable, hwalk, houtcome, hfailed⟩ := hwalk
  have hstored : leftRace.world.store.find? "default" "runner-abc" =
      some { leftPod with version := some "1" } := by
    decide +kernel
  obtain ⟨hsettled, hlater⟩ := hsettles _ p leftPlan.target leftPlan.timeout leftPlan.retryDelay
    hstored hdeletable
  refine ⟨_, p, hstored, hdeletable, hsettled, ?_, leg, later, t, hwalk, houtcome, hfailed, ?_⟩
  · exact hlater ⟨_, _, _⟩ (.cons (.change (.setRunners _)) nofun (Or.inl trivial)
      (.cons (.change (.failPatch _)) nofun (Or.inl trivial) (.nil _)))
  · exact hdrains _ leftPlan leg [] [later] .returned t p (leavesMarks_host _ _) rfl rfl hwalk
      houtcome hfailed later List.mem_cons_self

end Quiesce
