import Quiesce.Proofs.TickCases
import Quiesce.Proofs.WriteOnce

/-!
# What a step leaves stored

A step can break off at any of its calls, after it has written the start mark and even after it has
removed the runner. What it leaves stored is one of three things all the same: the pod as it was,
the pod with a start mark, or, if and only if the step says so, the pod with both marks.

* `Store.Copies` is what is required of the pod that a step is given: it may be out of date, but if
  it has the version of the stored pod it *is* the stored pod. `Race.copies_of_seen` says it of
  every pod that was ever handed out.
* `Store.Marked` lists the ways in which the attempt to mark such a pod can end; the pod that comes
  of it is such a pod again, on which the second mark can build.
* `tick_stores_atomically` is the main statement.
-/

namespace Quiesce

/-! ## Marking a copy -/

/-- The one pod is the other in another version, with those texts for annotations. -/
structure Pod.Reannotated (p q : Pod) (texts : String → Option String) : Prop where
  same : q = { p with version := q.version, annotations := q.annotations }
  text : ∀ key, q.annotation? key = texts key

namespace Store

variable {s s' : Store} {pod : Pod} {key value : String}

/-- The pod is a copy of the stored one if it has its version. -/
def Copies (s : Store) (pod : Pod) : Prop :=
  ∀ stored, s.find? pod.namespaceName pod.name = some stored → stored.version = pod.version →
    stored = pod

/-- The pod as it is stored is a copy of itself. -/
theorem copies_of_stored (h : s.find? pod.namespaceName pod.name = some pod) : s.Copies pod := by
  intro stored hstored _
  rw [h] at hstored
  exact (Option.some.inj hstored).symm

/-- How the attempt to mark a pod ends that may be out of date: in an answer and another store. -/
inductive Marked (s : Store) (pod : Pod) (key value : String) :
    Except PodStoreError Pod → Store → Prop
  | present (hhas : pod.hasAnnotation key = true) : Marked s pod key value (.ok pod) s
  | refused (e : PodStoreError) : Marked s pod key value (.error e) s
  | written (hlacks : pod.hasAnnotation key = false)
      (hcurrent : s.find? pod.namespaceName pod.name = some pod) :
      Marked s pod key value (.ok (s.nextVersion (pod.annotate (.single key value))))
        (s.put (pod.annotate (.single key value)))

/-- A mark on one pod leaves the other pods of the store as they are. -/
theorem Marked.find?_other {answer : Except PodStoreError Pod}
    (h : Marked s pod key value answer s') {ns name : String}
    (hother : ¬(ns = pod.namespaceName ∧ name = pod.name)) :
    s'.find? ns name = s.find? ns name := by
  cases h with
  | present hhas => rfl
  | refused e => rfl
  | written hlacks hcurrent =>
    rw [find?_put, if_neg]
    intro hnamed
    obtain ⟨hns, hname⟩ := isNamed_iff.1 hnamed
    exact hother ⟨hns.symm, hname.symm⟩

/-- The pod that comes of the attempt has the name of the given one, and can be marked again. -/
theorem Marked.copies {q : Pod} (h : Marked s pod key value (.ok q) s') (hcopy : s.Copies pod) :
    s'.Copies q ∧ q.namespaceName = pod.namespaceName ∧ q.name = pod.name := by
  cases h with
  | present hhas => exact ⟨hcopy, rfl, rfl⟩
  | written hlacks hcurrent => exact ⟨copies_of_stored (find?_put_self s _), rfl, rfl⟩

/-- An attempt that is refused stores nothing. -/
theorem Marked.store_of_error {e : PodStoreError} (h : Marked s pod key value (.error e) s') :
    s' = s := by
  cases h with
  | refused e => rfl

/-- The mark is there and nothing is stored, or the given pod was the stored one, and what is stored
now has the mark. -/
theorem Marked.store_cases {q : Pod} (h : Marked s pod key value (.ok q) s') :
    pod.hasAnnotation key = true ∧ q = pod ∧ s' = s ∨
      s.find? pod.namespaceName pod.name = some pod ∧ pod.annotation? key = none ∧
        s'.find? pod.namespaceName pod.name = some q ∧
        pod.Reannotated q fun name => if name = key then some value else pod.annotation? name := by
  cases h with
  | present hhas => exact Or.inl ⟨hhas, rfl, rfl⟩
  | written hlacks hcurrent =>
    refine Or.inr ⟨hcurrent, Pod.annotation?_eq_none hlacks, find?_put_self s _, rfl, ?_⟩
    intro name
    rw [World.annotation?_written]
    by_cases hname : key = name
    · rw [if_pos hname, if_pos hname.symm]
    · rw [if_neg hname, if_neg fun h => hname h.symm]

/-- A mark leaves the other annotations alone. -/
theorem Marked.annotation?_other {q : Pod} (h : Marked s pod key value (.ok q) s') {name : String}
    (hname : name ≠ key) : q.annotation? name = pod.annotation? name := by
  rcases h.store_cases with ⟨-, rfl, -⟩ | ⟨-, -, -, -, htext⟩
  · rfl
  · rw [htext, if_neg hname]

/-- A mark says nothing about the life of the pod. -/
theorem Marked.isStopped {q : Pod} (h : Marked s pod key value (.ok q) s') :
    q.isStopped = pod.isStopped := by
  rcases h.store_cases with ⟨-, rfl, -⟩ | ⟨-, -, -, hmarked⟩
  · rfl
  · rw [hmarked.same]
    rfl

/-- The stored pod is stored again, with the mark that it had or the one that it lacked. -/
theorem Marked.current {q : Pod} (h : Marked s pod key value (.ok q) s')
    (hcurrent : s.find? pod.namespaceName pod.name = some pod) :
    s'.find? pod.namespaceName pod.name = some q ∧
      pod.Reannotated q fun name =>
        if name = key then some ((pod.annotation? key).getD value) else pod.annotation? name := by
  rcases h.store_cases with ⟨hhas, rfl, rfl⟩ | ⟨-, hnone, hstored, hmarked⟩
  · refine ⟨hcurrent, rfl, fun name => ?_⟩
    by_cases hname : name = key
    · obtain ⟨text, htext⟩ := Option.isSome_iff_exists.1 hhas
      rw [if_pos hname, hname, show q.annotation? key = some text from htext, Option.getD_some]
    · rw [if_neg hname]
  · rw [hnone, Option.getD_none]
    exact ⟨hstored, hmarked⟩

/-- A pod that was marked has the text that it had before or, if it had none, the new one. -/
theorem Marked.annotation?_self {q : Pod} (h : s.Marked pod key value (.ok q) s') :
    q.annotation? key = some ((pod.annotation? key).getD value) := by
  rcases h.store_cases with ⟨hhas, rfl, -⟩ | ⟨-, hnone, -, -, htext⟩
  · obtain ⟨text, htext⟩ := Option.isSome_iff_exists.1 hhas
    rw [show q.annotation? key = some text from htext, Option.getD_some]
  · rw [htext, if_pos rfl, hnone, Option.getD_none]

/-- A mark that is written is seen, and one that is there is seen unless it is empty. -/
theorem Marked.isMarked_iff {q : Pod} {t : Instant}
    (h : s.Marked pod key (markText t) (.ok q) s') :
    q.isMarked key = true ↔ pod.annotation? key ≠ some "" := by
  rw [Pod.isMarked_iff, h.annotation?_self]
  cases pod.annotation? key with
  | none => simp [markText_ne_empty t]
  | some text => simp

end Store

/-! ## The step -/

namespace World

variable {w w' : World} {pod : Pod}

/-- Annotating a copy reads no clock, and ends in one of the ways of `Store.Marked`: a copy that is
out of date is refused for its version. -/
theorem annotateOnce_copy (key value : String) (hcopy : w.store.Copies pod) :
    ((annotateOnce pod key value).run answer w).state.clock = w.clock ∧
      w.store.Marked pod key value ((annotateOnce pod key value).run answer w).value
        ((annotateOnce pod key value).run answer w).state.store := by
  unfold annotateOnce
  cases hkey : pod.hasAnnotation key with
  | true => exact ⟨rfl, .present hkey⟩
  | false =>
    show (w.patch pod (.single key value)).2.clock = w.clock ∧
      w.store.Marked pod key value (w.patch pod (.single key value)).1
        (w.patch pod (.single key value)).2.store
    refine ⟨(World.patch_frame w pod _).1, ?_⟩
    have hpatched := w.patch_store pod (.single key value)
    generalize (w.patch pod (.single key value)).1 = result at hpatched ⊢
    generalize (w.patch pod (.single key value)).2.store = s at hpatched ⊢
    cases hpatched with
    | refused e => exact .refused e
    | @written stored hstored hversion =>
      -- the version is that of the stored pod, so the copy is not out of date
      obtain rfl := hcopy stored hstored hversion
      exact .written hkey hstored

/-- Marking a copy is annotating it with the time of the clock. -/
theorem markPod_copy {key : String} {calls : List Call}
    {result : Except PodStoreError (Option Pod)} (hcopy : w.store.Copies pod)
    (hrun : (markPod key (some pod)).run answer w = ⟨result, calls, w'⟩) :
    w'.clock = w.clock ∧ ∃ answered, result = answered.map some ∧
      w.store.Marked pod key (markText w.clock) answered w'.store := by
  change ((mark pod key).bind fun answered => .done (Except.map some answered)).run answer w = _
    at hrun
  rw [Program.run_bind] at hrun
  simp only [Program.run_done, Outcome.mk.injEq] at hrun
  obtain ⟨rfl, -, rfl⟩ := hrun
  obtain ⟨hclock, hmarked⟩ := annotateOnce_copy key (markText w.clock) hcopy
  exact ⟨hclock, ((mark pod key).run answer w).value, rfl, hmarked⟩

/-- **What a step stores**, on any copy. A step that does not find its pod deletable has stored what
came of the start mark; one that does has stored, on top of it, what came of the complete mark. -/
theorem tick_stored {target : Target} {timeout retryDelay : Duration} {outcome : TickOutcome}
    {calls : List Call} (hcopy : w.store.Copies pod)
    (hticked : Ticked answer target timeout retryDelay w (some pod) outcome calls w') :
    ∃ answered s, w.store.Marked pod Pod.startKey (markText w.clock) answered s ∧
      (outcome.isDeletable = false ∧ w'.store = s ∨
        ∃ p q, answered = .ok p ∧ outcome = .deletable (some q) ∧
          s.Marked p Pod.completeKey (markText w.clock) (.ok q) w'.store) := by
  -- the decision leaves the store and the clock to the second mark as the first has left them
  have hdecision : ∀ {pod' : Option Pod} {decision : Decision} {calls : List Call} {w₁ w₂ : World},
      (ensureUnregistered target timeout retryDelay pod').run answer w₁ = ⟨decision, calls, w₂⟩ →
        w₂.store = w₁.store ∧ w₂.clock = w₁.clock := by
    intro pod' decision calls w₁ w₂ hrun
    have hasks := ensureUnregistered_sparesPods target timeout retryDelay pod'
    have hframe := afterRegistry_run hasks w₁
    rw [hrun] at hframe
    exact ⟨hframe.store, hframe.clock⟩
  cases hticked with
  | @startRefused e _ _ start =>
    obtain ⟨-, answered, -, hmarked⟩ := markPod_copy hcopy start
    exact ⟨answered, _, hmarked, Or.inl ⟨TickOutcome.isDeletable_ofPatchError _ e, rfl⟩⟩
  | requeued start decided =>
    obtain ⟨-, answered, -, hmarked⟩ := markPod_copy hcopy start
    exact ⟨answered, _, hmarked, Or.inl ⟨rfl, (hdecision decided).1⟩⟩
  | failed start decided =>
    obtain ⟨-, answered, -, hmarked⟩ := markPod_copy hcopy start
    exact ⟨answered, _, hmarked, Or.inl ⟨rfl, (hdecision decided).1⟩⟩
  | @completeRefused pod' e _ _ _ w₁ w₂ _ start decided complete =>
    obtain ⟨-, answered, hanswered, hmarked⟩ := markPod_copy hcopy start
    refine ⟨answered, _, hmarked, Or.inl ⟨TickOutcome.isDeletable_ofPatchError _ e, ?_⟩⟩
    cases answered with
    | error e' => cases hanswered
    | ok p =>
      cases hanswered
      obtain ⟨hstore, -⟩ := hdecision decided
      have hcopy₂ : w₂.store.Copies p := by
        rw [hstore]
        exact (hmarked.copies hcopy).1
      obtain ⟨-, answered', hanswered', hmarked'⟩ := markPod_copy hcopy₂ complete
      cases answered' with
      | error e' => exact hmarked'.store_of_error.trans hstore
      | ok q => cases hanswered'
  | @deletable pod' pod'' _ _ _ w₁ w₂ _ start decided complete =>
    obtain ⟨hclock₁, answered, hanswered, hmarked⟩ := markPod_copy hcopy start
    cases answered with
    | error e' => cases hanswered
    | ok p =>
      cases hanswered
      obtain ⟨hstore, hclock₂⟩ := hdecision decided
      have hcopy₂ : w₂.store.Copies p := by
        rw [hstore]
        exact (hmarked.copies hcopy).1
      obtain ⟨-, answered', hanswered', hmarked'⟩ := markPod_copy hcopy₂ complete
      cases answered' with
      | error e' => cases hanswered'
      | ok q =>
        cases hanswered'
        rw [hstore, hclock₂, hclock₁] at hmarked'
        exact ⟨.ok p, _, hmarked, Or.inr ⟨p, q, rfl, rfl, hmarked'⟩⟩

end World

/-! ## The whole -/

/-- Every pod that has been handed out in a race is a copy, however old it is. -/
theorem Race.copies_of_seen {r : Race} (hreach : r.Reachable) {pod : Pod} (hseen : pod ∈ r.seen) :
    r.world.store.Copies pod :=
  (sound_of_reachable hreach).trusts.current pod hseen

/-- Both marks, one after the other. -/
theorem Pod.Reannotated.both {p q r : Pod} {text : String}
    (hstart : p.Reannotated q fun key =>
      if key = startKey then some ((p.annotation? startKey).getD text) else p.annotation? key)
    (hcomplete : q.Reannotated r fun key =>
      if key = completeKey then some ((q.annotation? completeKey).getD text)
      else q.annotation? key) :
    p.Reannotated r fun key =>
      if key = startKey ∨ key = completeKey then some ((p.annotation? key).getD text)
      else p.annotation? key := by
  refine ⟨?_, fun key => ?_⟩
  · rw [hcomplete.same, hstart.same]
  · rw [hcomplete.text, hstart.text, hstart.text]
    by_cases hkey : key = completeKey
    · subst hkey
      rw [if_pos rfl, if_neg (by decide), if_pos (Or.inr rfl)]
    · by_cases hkey' : key = startKey
      · subst hkey'
        rw [if_neg hkey, if_pos rfl, if_pos (Or.inl rfl)]
      · rw [if_neg hkey, if_neg hkey', if_neg (not_or.2 ⟨hkey', hkey⟩)]

/-- **A step is atomic in what it stores.** Take any world that controllers have been at work on,
and a pod that it has handed out at any time, out of date or not. A step that does not find the pod
deletable leaves the stored pod as it was, or with nothing but the start mark added that it lacked,
and never with a complete mark; a step that finds the stored pod deletable hands back the pod that
is stored then, which is the given one with each mark that it lacked. No other pod is touched. -/
theorem tick_stores_atomically {r : Race} (hreach : r.Reachable) (target : Target)
    (timeout retryDelay : Duration) {pod : Pod} (hseen : pod ∈ r.seen) :
    let o := (tick target timeout retryDelay (some pod)).run World.answer r.world
    let text := markText r.world.clock
    let before := r.world.store.find? pod.namespaceName pod.name
    let after := o.state.store.find? pod.namespaceName pod.name
    (o.value.isDeletable = false →
      (after = before ∨
        ∃ p q, before = some p ∧ after = some q ∧ p.annotation? Pod.startKey = none ∧
          p.Reannotated q fun key =>
            if key = Pod.startKey then some text else p.annotation? key) ∧
      after.bind (·.annotation? Pod.completeKey) = before.bind (·.annotation? Pod.completeKey)) ∧
    (before = some pod → ∀ q, o.value = .deletable (some q) →
      after = some q ∧
        pod.Reannotated q fun key =>
          if key = Pod.startKey ∨ key = Pod.completeKey then some ((pod.annotation? key).getD text)
          else pod.annotation? key) ∧
    ∀ ns name, ¬(ns = pod.namespaceName ∧ name = pod.name) →
      o.state.store.find? ns name = r.world.store.find? ns name := by
  intro o text before after
  have hcopy := Race.copies_of_seen hreach hseen
  obtain ⟨answered, s, hstart, hrest⟩ := World.tick_stored hcopy
    (tick_cases World.answer target timeout retryDelay r.world (some pod))
  refine ⟨fun hwaits => ?_, fun hcurrent q hq => ?_, fun ns name hother => ?_⟩
  · -- a step that waits stores at most what came of the start mark
    rcases hrest with ⟨-, hstore⟩ | ⟨p, q, -, hdeletable, -⟩
    · have hafter : after = s.find? pod.namespaceName pod.name := by
        rw [← hstore]
      cases answered with
      | error e =>
        have hsame : after = before := by rw [hafter, hstart.store_of_error]
        exact ⟨Or.inl hsame, by rw [hsame]⟩
      | ok p =>
        rcases hstart.store_cases with ⟨-, -, hs⟩ | ⟨hcurrent, hlacks, hstored, hmarked⟩
        · have hsame : after = before := by rw [hafter, hs]
          exact ⟨Or.inl hsame, by rw [hsame]⟩
        · have hbefore : before = some pod := hcurrent
          have hstored' : after = some p := hafter.trans hstored
          refine ⟨Or.inr ⟨pod, p, hbefore, hstored', hlacks, hmarked⟩, ?_⟩
          rw [hbefore, hstored', Option.bind_some, Option.bind_some, hmarked.text,
            if_neg (by decide)]
    · rw [show o.value = .deletable (some q) from hdeletable] at hwaits
      cases hwaits
  · -- a step that ends has both marks in place, each added to what was stored just before
    rcases hrest with ⟨hwaits, -⟩ | ⟨p, q', rfl, hdeletable, hcomplete⟩
    · rw [show o.value.isDeletable = true by rw [hq]; rfl] at hwaits
      cases hwaits
    · obtain rfl : q = q' := by
        have := hq.symm.trans hdeletable
        cases this
        rfl
      obtain ⟨hp, hstarted⟩ := hstart.current hcurrent
      obtain ⟨-, hns, hname⟩ := hstart.copies hcopy
      rw [← hns, ← hname] at hp
      obtain ⟨hstored, hcompleted⟩ := hcomplete.current hp
      rw [hns, hname] at hstored
      exact ⟨hstored, hstarted.both hcompleted⟩
  · -- other pods: the pod with the start mark has the name of the given one
    rcases hrest with ⟨-, hstore⟩ | ⟨p, q, rfl, -, hcomplete⟩
    · show (_ : World).store.find? ns name = _
      rw [hstore, hstart.find?_other hother]
    · obtain ⟨-, hns, hname⟩ := hstart.copies hcopy
      rw [← hns, ← hname] at hother
      exact (hcomplete.find?_other hother).trans (hstart.find?_other (by rwa [← hns, ← hname]))

/-! ### A refused removal

The registry lists the runner but fails to remove it, after the start mark has been written. -/

def refusedPod : Pod where
  namespaceName := "default"
  name := "runner-abc"
  version := some "1"
  annotations := .empty
  phase := .running
  containers := [⟨"runner", .running⟩]
  conditions := []

def refusedTarget : Target := ⟨.ofOrganization "acme", "runner-abc"⟩

/-- The world after the pod was read and a failure was queued for the removal of its runner. -/
def refusedRace : Race where
  world :=
    { World.initial .epoch [⟨some 7, "runner-abc", "linux", .online, true, []⟩] [refusedPod] with
      faults := { Faults.none with remove := [.error (.api 500 "internal error")] } }
  seen := [refusedPod]
  running := [.done ()]

/-- A step whose removal fails has left its start mark in the store, and no other. -/
theorem tick_stores_atomically_refused :
    let o := (tick refusedTarget (.ofSeconds 60) (.ofSeconds 10) (some refusedPod)).run
      World.answer refusedRace.world
    refusedRace.Reachable ∧ refusedPod ∈ refusedRace.seen ∧
      o.value = .failed (.registry (.api 500 "internal error")) ∧
      ∃ q, o.state.store.find? "default" "runner-abc" = some q ∧
        q.annotation? Pod.startKey = some "1970-01-01T00:00:00Z" ∧
        q.annotation? Pod.completeKey = none := by
  intro o
  have hreach : refusedRace.Reachable :=
    ⟨.epoch, _, [refusedPod], _, .cons (.begin (.get "default" "runner-abc") nofun) <|
      .cons (.call [] [] _ _ rfl) <|
      .cons (.change (.queueRemoval (.error (.api 500 "internal error")))) <| .nil _⟩
  have hseen : refusedPod ∈ refusedRace.seen := List.mem_cons_self
  have hfails : o.value = .failed (.registry (.api 500 "internal error")) := by decide +kernel
  have hwaits : o.value.isDeletable = false := by rw [hfails]; rfl
  refine ⟨hreach, hseen, hfails, ?_⟩
  have hread : refusedRace.world.store.find? "default" "runner-abc" = some refusedPod := by
    decide +kernel
  rcases ((tick_stores_atomically hreach refusedTarget (.ofSeconds 60) (.ofSeconds 10)
    hseen).1 hwaits).1 with hsame | ⟨p, q, hp, hq, -, hmarked⟩
  · exact absurd hsame (by decide +kernel)
  · obtain rfl : refusedPod = p := Option.some.inj (hread.symm.trans hp)
    refine ⟨q, hq, ?_, ?_⟩
    · rw [hmarked.text]
      decide +kernel
    · rw [hmarked.text]
      decide +kernel

end Quiesce
