import Quiesce.Proofs.WorldSteps
import Quiesce.World.Timeline

/-!
# Whether runners are at work

Nothing here looks at whether a runner is at work: that is left to the registry, which refuses to
remove one that is. Neither its operating system, nor whether its agent is connected, nor its labels
matter. So two worlds that differ in nothing but these fields of their runners cannot be told apart
by what is done in them.

* `Runner.bare` takes these fields away, and `World.bare` takes them away from a whole world.
* `Program.Indifferent` says of a program that they are nothing to it, and `Program.Indifferent.run`
  that it then runs in the bare world as it does in the world itself.
* `busy_goes_unnoticed` is the main statement, on sequences of registrations, decisions, steps,
  annotations, drains and changes from outside.
-/

namespace Quiesce

/-! ## Taking away what does not matter -/

/-- A runner without operating system, status, business and labels. -/
def Runner.bare (r : Runner) : Runner :=
  { r with os := "", status := .offline, busy := false, labels := [] }

/-- A listing of bare runners in the place of a listing; every other answer is left as it is. -/
def Call.bareAnswer : (c : Call) → c.Answer → c.Answer
  | .list _, answer => Except.map (List.map Runner.bare) answer
  | .remove _ _, answer => answer
  | .get _ _, answer => answer
  | .patch _ _, answer => answer
  | .delete _, answer => answer
  | .now, answer => answer

/-- All calls but listings. -/
def Call.listsNothing : Call → Prop
  | .list _ => False
  | _ => True

/-- A runner is found by its name whatever else is known about it. -/
theorem firstNamed_bare (name : String) (runners : List Runner) :
    firstNamed name (runners.map Runner.bare) = (firstNamed name runners).map Runner.bare := by
  unfold firstNamed
  rw [List.find?_map]
  rfl

theorem bind_id_bare (found : Option Runner) :
    (found.map Runner.bare).bind (·.id) = found.bind (·.id) := by
  cases found <;> rfl

/-! ## Programs to which it does not matter -/

namespace Program

variable {σ α β : Type}

/-- The program goes on in the same way if the runners that it gets listed are bare. -/
def Indifferent : Program α → Prop
  | .done _ => True
  | .call c next =>
    (∀ answer, next (c.bareAnswer answer) = next answer) ∧ ∀ answer, (next answer).Indifferent

/-- Indifference passes from the parts of a program to the whole. -/
theorem Indifferent.bind {p : Program α} {f : α → Program β} (hp : p.Indifferent)
    (hf : ∀ a, (f a).Indifferent) : (p.bind f).Indifferent := by
  induction p with
  | done a => exact hf a
  | call c next ih =>
    refine ⟨fun answer => ?_, fun answer => ih answer (hp.2 answer)⟩
    exact congrArg (fun q : Program α => q.bind f) (hp.1 answer)

/-- A program that lists nothing does not see the fields. -/
theorem Asks.indifferent {p : Program α} (hp : p.Asks Call.listsNothing) : p.Indifferent := by
  induction p with
  | done a => trivial
  | call c next ih =>
    refine ⟨fun answer => congrArg next ?_, fun answer => ih answer (hp.2 answer)⟩
    cases c with
    | list scope => exact hp.1.elim
    | _ => rfl

/-- A look-up is followed by what depends on the number of the runner only. -/
theorem indifferent_findRunner {target : Target}
    {f : Except RegistryError (Option Runner) → Program α}
    (hbare : ∀ found, f (.ok (found.map Runner.bare)) = f (.ok found))
    (hf : ∀ answer, (f answer).Indifferent) : ((findRunner target).bind f).Indifferent := by
  refine ⟨fun answer => ?_, fun answer => hf _⟩
  change Except RegistryError (List Runner) at answer
  cases answer with
  | error e => rfl
  | ok runners =>
    show f (.ok (firstNamed target.name (runners.map Runner.bare))) =
      f (.ok (firstNamed target.name runners))
    rw [firstNamed_bare]
    exact hbare _

/-- A source of answers that answers alike when something is taken away from its state, but that
it lists bare runners. -/
def Bares (handler : Handler σ) (erase : σ → σ) : Prop :=
  ∀ c s, handler c (erase s) = (c.bareAnswer (handler c s).1, erase (handler c s).2)

/-- **An indifferent program runs alike when the fields are taken away.** Induction on the program:
at each call the answers are alike, and the program goes on in the same way. -/
theorem Indifferent.run {handler : Handler σ} {erase : σ → σ} (hhandler : Bares handler erase)
    {p : Program α} (hp : p.Indifferent) (s : σ) :
    p.run handler (erase s) =
      ⟨(p.run handler s).value, (p.run handler s).calls, erase (p.run handler s).state⟩ := by
  induction p generalizing s with
  | done a => rfl
  | call c next ih =>
    rw [run_call, run_call, hhandler c s]
    dsimp only
    rw [hp.1, ih _ (hp.2 _)]

end Program

/-! ## The operations -/

/-- A removal uses the name of a runner to find its number, and nothing else of it. -/
theorem unregister_indifferent (target : Target) (id : Option Int64) :
    (unregister target id).Indifferent := by
  have hremove : ∀ n, (removeById target.scope n).Indifferent :=
    fun n => (removeById_asks (fun _ => trivial) n).indifferent
  cases id with
  | some n => exact hremove n
  | none =>
    -- of the runner that is found only the number is used, and `bare` keeps it
    refine Program.indifferent_findRunner (fun found => ?_) fun answer => ?_
    · dsimp only
      rw [bind_id_bare]
    · cases answer with
      | error e => trivial
      | ok found =>
        dsimp only
        cases found.bind (·.id) with
        | none => trivial
        | some n => exact hremove n

theorem decideFailure_indifferent (target : Target) (pod : Option Pod) (e : RegistryError) :
    (decideFailure target pod e).Indifferent := by
  rcases decideFailure_cases target pod e with ⟨-, hd⟩ | ⟨-, hd⟩ | ⟨-, -, hd⟩
  · rw [hd]
    trivial
  · -- the answer to this look-up is dropped
    rw [hd]
    exact ⟨fun _ => rfl, fun _ => trivial⟩
  · rw [hd]
    trivial

/-- The decision is indifferent: all it uses of a listing is a number. -/
theorem ensureUnregistered_indifferent (target : Target) (timeout retryDelay : Duration)
    (pod : Option Pod) : (ensureUnregistered target timeout retryDelay pod).Indifferent := by
  unfold ensureUnregistered
  by_cases hconfirmed : pod.any (·.isMarked Pod.completeKey) = true
  · rw [if_pos hconfirmed]
    trivial
  rw [if_neg hconfirmed]
  cases recordedId pod with
  | error e => trivial
  | ok id =>
    refine (unregister_indifferent target id).bind fun removal => ?_
    cases removal with
    | removed => trivial
    | notFound =>
      refine ((decideNotFound_asksClock timeout retryDelay pod).mono fun c hc => ?_).indifferent
      subst hc
      trivial
    | failed e => exact decideFailure_indifferent target pod e

theorem annotateOnce_indifferent (pod : Pod) (key value : String) :
    (annotateOnce pod key value).Indifferent :=
  (annotateOnce_asks trivial).indifferent

theorem markPod_indifferent (key : String) (pod : Option Pod) :
    (markPod key pod).Indifferent :=
  (markPod_asks trivial (fun _ _ _ => trivial) key pod).indifferent

/-- The step is indifferent. -/
theorem tick_indifferent (target : Target) (timeout retryDelay : Duration) (pod : Option Pod) :
    (tick target timeout retryDelay pod).Indifferent := by
  unfold tick
  refine (markPod_indifferent Pod.startKey pod).bind fun marked => ?_
  cases marked with
  | error e => trivial
  | ok pod' =>
    refine (ensureUnregistered_indifferent target timeout retryDelay pod').bind fun decision => ?_
    cases decision with
    | requeue after cause => trivial
    | failed e => trivial
    | deletable =>
      refine (markPod_indifferent Pod.completeKey pod').bind fun marked => ?_
      cases marked with
      | error e => trivial
      | ok pod'' => trivial

/-- So is recording the registration: all it uses of a listing is a number. -/
theorem ensureRegistered_indifferent (target : Target) (pod : Pod) :
    (ensureRegistered target pod).Indifferent := by
  unfold ensureRegistered
  by_cases hsettled : (pod.isStopped || pod.hasAnnotation Pod.runnerIdKey) = true
  · rw [if_pos hsettled]
    trivial
  · rw [if_neg hsettled]
    refine Program.indifferent_findRunner (fun found => ?_) fun answer => ?_
    · dsimp only
      rw [bind_id_bare]
    · cases answer with
      | error e => trivial
      | ok found =>
        dsimp only
        cases found.bind (·.id) with
        | none => trivial
        | some id =>
          refine (annotateOnce_indifferent pod _ _).bind fun written => ?_
          cases written with
          | error e => trivial
          | ok q => trivial

/-! ## Drains -/

namespace Drain

theorem recordRegistration_indifferent (plan : Plan) : (recordRegistration plan).Indifferent := by
  refine ⟨fun _ => rfl, fun answer => ?_⟩
  change Except PodStoreError (Option Pod) at answer
  cases answer with
  | error e => trivial
  | ok found =>
    cases found with
    | none => trivial
    | some pod => exact (ensureRegistered_indifferent plan.target pod).bind fun _ => trivial

theorem conclude_indifferent (plan : Plan) (attempt : Nat) (outcome : TickOutcome) :
    (conclude plan attempt outcome).Indifferent := by
  cases outcome with
  | requeue after cause => trivial
  | failed e => trivial
  | deletable pod =>
    cases pod with
    | none => trivial
    | some p =>
      refine ⟨fun _ => rfl, fun answer => ?_⟩
      change Except PodStoreError Unit at answer
      cases answer with
      | ok u => trivial
      | error e =>
        dsimp only
        cases e.isNotFound with
        | true => trivial
        | false => trivial

/-- Every pass of a drain is indifferent. -/
theorem pass_indifferent (plan : Plan) (attempt : Nat) : (pass plan attempt).Indifferent := by
  refine ⟨fun _ => rfl, fun answer => ?_⟩
  change Except PodStoreError (Option Pod) at answer
  cases answer with
  | error e => trivial
  | ok pod =>
    refine (tick_indifferent plan.target plan.timeout plan.retryDelay pod).bind fun outcome => ?_
    exact conclude_indifferent plan attempt outcome

variable {σ : Type}

/-- A host that goes on alike when something is taken away from its state, but that it lists bare
runners. -/
structure Host.Bares (host : Host σ) (erase : σ → σ) : Prop where
  answer : Program.Bares host.answer erase
  elapsed : ∀ s, host.elapsed (erase s) = host.elapsed s
  sleep : ∀ d s, host.sleep d (erase s) = ((host.sleep d s).1, erase (host.sleep d s).2)

/-- A report with something taken away from its state. -/
def Report.erase (erase : σ → σ) (r : Report σ) : Report σ :=
  { r with state := erase r.state }

/-- The passes of a drain go alike: induction on their number. -/
theorem runPasses_bare {host : Host σ} {erase : σ → σ} (hhost : host.Bares erase) (plan : Plan)
    (passes attempt : Nat) (s : σ) :
    runPasses host plan passes attempt (erase s) =
      (runPasses host plan passes attempt s).erase erase := by
  induction passes generalizing attempt s with
  | zero => rfl
  | succ passes ih =>
    have hpass := (pass_indifferent plan attempt).run hhost.answer s
    simp only [runPasses, hpass, stamped, hhost.elapsed]
    generalize (pass plan attempt).run host.answer s = o
    obtain ⟨⟨notes, next⟩, calls, s'⟩ := o
    cases next with
    | none => rfl
    | some wait =>
      dsimp only
      rw [hhost.sleep]
      cases host.sleep wait s' with
      | mk awake s'' =>
        cases awake with
        | false => rfl
        | true =>
          dsimp only
          rw [ih]
          rfl

/-- **A whole drain is indifferent**, on a host that takes no notice of the fields either. -/
theorem run_bare {host : Host σ} {erase : σ → σ} (hhost : host.Bares erase) (plan : Plan)
    (passes : Nat) (s : σ) :
    run host plan passes (erase s) = (run host plan passes s).erase erase := by
  have hstart := (recordRegistration_indifferent plan).run hhost.answer s
  unfold run
  rw [hstart]
  dsimp only [stamped]
  rw [runPasses_bare hhost, hhost.elapsed]
  rfl

end Drain

/-! ## Worlds -/

namespace World

/-- A world whose runners are bare. -/
def bare (w : World) : World :=
  { w with runners := w.runners.map Runner.bare }

@[simp] theorem faults_bare (w : World) : w.bare.faults = w.faults := rfl

/-- A listing shows bare runners for bare runners, and fails alike. -/
theorem list_bare (w : World) :
    w.bare.list = (Except.map (List.map Runner.bare) w.list.1, w.list.2.bare) := by
  unfold World.list
  rw [faults_bare]
  cases w.faults.list <;> rfl

/-- The registry finds a runner by its number, bare or not. -/
theorem remove_bare (w : World) (id : Int64) :
    w.bare.remove id = ((w.remove id).1, (w.remove id).2.bare) := by
  have hany : (w.runners.map Runner.bare).any (fun r => r.id = some id) =
      w.runners.any fun r => r.id = some id := by
    rw [List.any_map]
    rfl
  have hfilter : (w.runners.map Runner.bare).filter (fun r => r.id ≠ some id) =
      (w.runners.filter fun r => r.id ≠ some id).map Runner.bare := by
    rw [List.filter_map]
    rfl
  unfold World.remove
  rw [faults_bare]
  cases w.faults.remove with
  | cons result rest => rfl
  | nil =>
    -- no failure is queued, so the answer depends on the list of runners
    show (if (w.runners.map Runner.bare).any (fun r => r.id = some id) then _ else _) = _
    rw [hany]
    dsimp only
    by_cases hlisted : w.runners.any (·.id = some id) = true
    · rw [if_pos hlisted, if_pos hlisted]
      show (Except.ok (), { w.bare with
        runners := (w.runners.map Runner.bare).filter fun r => r.id ≠ some id }) = _
      rw [hfilter]
      rfl
    · rw [if_neg hlisted, if_neg hlisted]

/-- **A bare world answers alike**, but that its listings are bare. -/
theorem bares_answer : Program.Bares answer bare := by
  intro c w
  cases c with
  | list scope => exact list_bare w
  | remove scope id => exact remove_bare w id
  | get namespaceName name =>
    show w.bare.get namespaceName name =
      ((w.get namespaceName name).1, (w.get namespaceName name).2.bare)
    unfold World.get
    rw [faults_bare]
    cases w.faults.get <;> rfl
  | patch pod more =>
    show w.bare.patch pod more = ((w.patch pod more).1, (w.patch pod more).2.bare)
    unfold World.patch
    rw [faults_bare]
    cases w.faults.patch <;> rfl
  | delete pod =>
    show w.bare.delete pod = ((w.delete pod).1, (w.delete pod).2.bare)
    unfold World.delete
    rw [faults_bare]
    cases w.faults.delete <;> rfl
  | now => rfl

/-- A change from outside that brings bare runners. -/
def Change.bare : Change → Change
  | .setRunners runners => .setRunners (runners.map Runner.bare)
  | change => change

/-- A change from outside does the same to the bare world. -/
theorem apply_bare (w : World) (change : Change) :
    w.bare.apply change.bare = (w.apply change).bare := by
  cases change <;> rfl

end World

namespace Timeline

/-- A timeline on which the runners are bare, now and later. -/
def bare (t : Timeline) : Timeline :=
  { t with world := t.world.bare, due := t.due.map fun change => (change.1, change.2.bare) }

/-- So does a sequence of changes. -/
theorem foldl_apply_bare (due : List (Duration × World.Change)) (w : World) :
    (due.map fun change => (change.1, change.2.bare)).foldl (fun w change => w.apply change.2)
        w.bare =
      (due.foldl (fun w change => w.apply change.2) w).bare := by
  induction due generalizing w with
  | nil => rfl
  | cons change due ih =>
    show List.foldl _ (w.bare.apply change.2.bare) _ = _
    rw [World.apply_bare]
    exact ih (w.apply change.2)

/-- What falls due on the way falls due in the bare world too. -/
theorem settled_bare (t : Timeline) : t.bare.settled = t.settled.bare := by
  have htake : t.bare.due.takeWhile t.bare.isDue =
      (t.due.takeWhile t.isDue).map fun change => (change.1, change.2.bare) := by
    show (t.due.map _).takeWhile _ = _
    rw [List.takeWhile_map]
    rfl
  have hdrop : t.bare.due.dropWhile t.bare.isDue =
      (t.due.dropWhile t.isDue).map fun change => (change.1, change.2.bare) := by
    show (t.due.map _).dropWhile _ = _
    rw [List.dropWhile_map]
    rfl
  unfold settled
  rw [htake, hdrop]
  show Timeline.mk (List.foldl _ t.world.bare _) _ _ _ = _
  rw [foldl_apply_bare]
  rfl

/-- A call other than a reading of the clock is answered by the world after the changes that are
due. -/
theorem answer_of_ne_now {c : Call} (hc : c ≠ .now) (t : Timeline) :
    answer c t = ((World.answer c t.settled.world).1,
      { t.settled with world := (World.answer c t.settled.world).2 }) := by
  cases c with
  | now => exact absurd rfl hc
  | _ => rfl

theorem bares_answer : Program.Bares answer bare := by
  intro c t
  -- the clock is read from the timeline itself, every other call goes to its world
  by_cases hc : c = .now
  · subst hc
    show (t.bare.settled.present.clock, t.bare.settled) = _
    rw [settled_bare]
    rfl
  · rw [answer_of_ne_now hc, answer_of_ne_now hc, settled_bare]
    show ((World.answer c t.settled.world.bare).1,
      { t.settled.bare with world := (World.answer c t.settled.world.bare).2 }) = _
    rw [World.bares_answer]
    rfl

theorem bares_host : host.Bares bare where
  answer := bares_answer
  elapsed := fun _ => rfl
  sleep := by
    intro d t
    show sleep d t.bare = ((sleep d t).1, (sleep d t).2.bare)
    unfold sleep
    show (if t.elapsed + d ≤ t.limit then _ else _) = _
    by_cases hroom : t.elapsed + d ≤ t.limit
    · rw [if_pos hroom, if_pos hroom]
      rfl
    · rw [if_neg hroom, if_neg hroom]
      rfl

/-- **A drain on a bare timeline goes alike.** -/
theorem drain_bare (plan : Drain.Plan) (t : Timeline) :
    drain plan t.bare = (drain plan t).erase bare := by
  have hbound : t.bare.passBound = t.passBound := by
    unfold passBound bare
    rw [List.length_map]
    rfl
  unfold drain
  rw [hbound, Drain.run_bare bares_host]

end Timeline

/-! ## Sequences of operations -/

/-- What may be done in a world. -/
inductive Errand where
  /-- The world changes from outside. -/
  | change (change : World.Change)
  /-- To annotate a pod, unless it has the annotation. -/
  | annotate (pod : Pod) (key value : String)
  /-- To record the registration of a runner. -/
  | register (target : Target) (pod : Pod)
  /-- To decide whether a pod may be deleted. -/
  | decide (target : Target) (timeout retryDelay : Duration) (pod : Option Pod)
  /-- To make a step of stopping a runner. -/
  | tick (target : Target) (timeout retryDelay : Duration) (pod : Option Pod)
  /-- To drain a runner within a limit, with changes from outside that are due meanwhile. -/
  | drain (plan : Drain.Plan) (limit : Duration) (due : List (Duration × World.Change))

/-- What came of an errand. -/
inductive Errand.Result where
  | changed
  | annotated (answer : Except PodStoreError Pod)
  | registered (outcome : RegistrationOutcome)
  | decided (decision : Decision)
  | ticked (outcome : TickOutcome)
  | drained (finished : Bool) (notes : List Drain.Note)

/-- What is seen of an errand: what came of it, its calls, each with the time that had passed, and
the pods that it leaves. -/
structure Observation where
  result : Errand.Result
  calls : List (Duration × Call)
  store : Store

namespace Errand

/-- The errand with bare runners in its changes. -/
def bare : Errand → Errand
  | .change c => .change c.bare
  | .drain plan limit due => .drain plan limit (due.map fun change => (change.1, change.2.bare))
  | errand => errand

/-- What is seen of a program that runs at once, and the world that it leaves. -/
def observe {α : Type} (result : α → Result) (p : Program α) (w : World) : Observation × World :=
  let o := p.run World.answer w
  (⟨result o.value, o.calls.map fun c => (.zero, c), o.state.store⟩, o.state)

/-- What is seen of a drain, and the world that it leaves: its clock shows the time that has
passed. -/
def observeDrain (r : Drain.Report Timeline) : Observation × World :=
  (⟨.drained r.finished r.notes, r.calls, r.state.present.store⟩, r.state.present)

/-- An errand in a world. -/
def perform : Errand → World → Observation × World
  | .change c, w => (⟨.changed, [], (w.apply c).store⟩, w.apply c)
  | .annotate pod key value, w => observe .annotated (annotateOnce pod key value) w
  | .register target pod, w => observe .registered (ensureRegistered target pod) w
  | .decide target timeout retryDelay pod, w =>
    observe .decided (ensureUnregistered target timeout retryDelay pod) w
  | .tick target timeout retryDelay pod, w =>
    observe .ticked (Quiesce.tick target timeout retryDelay pod) w
  | .drain plan limit due, w => observeDrain (Timeline.drain plan ⟨w, .zero, limit, due⟩)

/-- What is seen of a program does not show the fields. -/
theorem observe_bare {α : Type} (result : α → Result) {p : Program α} (hp : p.Indifferent)
    (w : World) :
    observe result p w.bare = ((observe result p w).1, (observe result p w).2.bare) := by
  unfold observe
  rw [hp.run World.bares_answer]
  rfl

theorem observeDrain_bare (r : Drain.Report Timeline) :
    observeDrain (r.erase Timeline.bare) = ((observeDrain r).1, (observeDrain r).2.bare) := rfl

/-- **An errand in a bare world goes alike.** -/
theorem perform_bare (errand : Errand) (w : World) :
    errand.bare.perform w.bare = ((errand.perform w).1, (errand.perform w).2.bare) := by
  cases errand with
  | change c =>
    show (Observation.mk .changed [] (w.bare.apply c.bare).store, w.bare.apply c.bare) = _
    rw [World.apply_bare]
    rfl
  | annotate pod key value => exact observe_bare _ (annotateOnce_indifferent pod key value) w
  | register target pod => exact observe_bare _ (ensureRegistered_indifferent target pod) w
  | decide target timeout retryDelay pod =>
    exact observe_bare _ (ensureUnregistered_indifferent target timeout retryDelay pod) w
  | tick target timeout retryDelay pod =>
    exact observe_bare _ (tick_indifferent target timeout retryDelay pod) w
  | drain plan limit due =>
    exact (congrArg observeDrain (Timeline.drain_bare plan ⟨w, .zero, limit, due⟩)).trans
      (observeDrain_bare _)

/-- Errands one after the other, each of which may depend on all that has been seen before. -/
def enact : List (List Observation → Errand) → List Observation → World → List Observation × World
  | [], seen, w => (seen, w)
  | errand :: errands, seen, w =>
    let performed := (errand seen).perform w
    enact errands (seen ++ [performed.1]) performed.2

end Errand

/-- **Whether runners are at work makes no difference to what is done.** Two worlds that differ only
in the operating systems, the statuses, the labels and the being at work of their runners are told
apart by no sequence of errands, even if the runners that come in meanwhile differ in the same way:
step by step the same comes of them, by the same calls and with the same pods. Induction on the
errands, what has been seen before being the same. -/
theorem busy_goes_unnoticed {w w' : World} {errands errands' : List (List Observation → Errand)}
    (hworld : w.bare = w'.bare)
    (herrands : errands.map (fun errand seen => (errand seen).bare) =
      errands'.map fun errand seen => (errand seen).bare) (seen : List Observation) :
    (Errand.enact errands seen w).1 = (Errand.enact errands' seen w').1 ∧
      (Errand.enact errands seen w).2.bare = (Errand.enact errands' seen w').2.bare := by
  induction errands generalizing errands' seen w w' with
  | nil =>
    cases errands' with
    | nil => exact ⟨rfl, hworld⟩
    | cons errand' errands' => cases herrands
  | cons errand errands ih =>
    cases errands' with
    | nil => cases herrands
    | cons errand' errands' =>
      rw [List.map_cons, List.map_cons, List.cons.injEq] at herrands
      have hperformed := (errand seen).perform_bare w
      rw [congrFun herrands.1 seen, hworld, (errand' seen).perform_bare w', Prod.mk.injEq]
        at hperformed
      obtain ⟨hobserved, hleft⟩ := hperformed
      unfold Errand.enact
      dsimp only
      rw [hobserved]
      exact ih hleft.symm herrands.2 _

/-! ### Two worlds that are not told apart -/

/-- A runner that is at work, or one that is not even connected. -/
def eitherRunner (busy : Bool) : Runner where
  id := some 7
  name := "runner-abc"
  os := if busy then "linux" else ""
  status := if busy then .online else .offline
  busy := busy
  labels := if busy then [⟨some 1, "gpu"⟩] else []

def eitherPod : Pod := ⟨"ci", "runner-abc", none, .empty, .running, [], []⟩

def eitherWorld (busy : Bool) : World :=
  World.initial .epoch [eitherRunner busy] [eitherPod]

def eitherPlan : Drain.Plan :=
  ⟨⟨⟨none, some "org", none⟩, "runner-abc"⟩, "ci", "runner-abc", .ofSeconds 60, .ofSeconds 10⟩

/-- The registration of the runner, a step on the pod as it is then stored, and a drain after the
runner has been listed anew. -/
def eitherErrands (busy : Bool) : List (List Observation → Errand) :=
  [fun _ => .register eitherPlan.target eitherPod,
    fun seen => .tick eitherPlan.target eitherPlan.timeout eitherPlan.retryDelay
      (seen.getLast?.bind fun o => o.store.find? "ci" "runner-abc"),
    fun _ => .change (.setRunners [eitherRunner busy]),
    fun _ => .drain eitherPlan (.ofSeconds 120) []]

/-- Two worlds in which the same runner is busy or not, and one sequence of errands. -/
theorem busy_goes_unnoticed_either :
    (eitherWorld true).runners ≠ (eitherWorld false).runners ∧
      (Errand.enact (eitherErrands true) [] (eitherWorld true)).1 =
        (Errand.enact (eitherErrands false) [] (eitherWorld false)).1 := by
  have hworld : (eitherWorld true).bare = (eitherWorld false).bare := rfl
  have herrands : (eitherErrands true).map (fun errand seen => (errand seen).bare) =
      (eitherErrands false).map fun errand seen => (errand seen).bare := rfl
  have halike := busy_goes_unnoticed hworld herrands []
  exact ⟨by decide, halike.1⟩

end Quiesce
