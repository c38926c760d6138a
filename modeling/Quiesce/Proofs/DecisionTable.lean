import Mathlib.Tactic.Set
import Quiesce.Proofs.WorldSteps

/-!
# The decision as a table

Whether a pod may be deleted is decided by four functions that call one another. This module sets
the decision down a second time, as a table whose rows are tried from the top, and shows that the
functions decide by it, whatever the registry and the clock answer.

* `Situation` is everything that a decision turns on, and `Situation.faced` the situation that a
  decision meets on a given source of answers.
* `Situation.table` is the table and `Situation.decision` its first row that applies.
* `ensureUnregistered_follows_table` is the main statement.
-/

namespace Quiesce

/-- What a decision turns on: the pod, the patience of the caller, and what the registry and the
clock would answer. -/
structure Situation where
  /-- The name of the runner. -/
  name : String
  pod : Option Pod
  timeout : Duration
  retryDelay : Duration
  listing : Except RegistryError (List Runner)
  removal : Int64 → Except RegistryError Unit
  now : Instant

namespace Situation

/-! ## What the rows ask -/

/-- Whether an earlier step has confirmed that the runner is unregistered: the annotation for that
is there and not empty. -/
def isConfirmed (x : Situation) : Bool :=
  (x.pod.bind (·.annotation? Pod.completeKey)).any (· ≠ "")

/-- The text that the pod records as the number of the runner. -/
def idText? (x : Situation) : Option String :=
  x.pod.bind (·.annotation? Pod.runnerIdKey)

/-- The recorded text, with its fault, if it is not a number. -/
def malformedId? (x : Situation) : Option StopError :=
  x.idText?.bind fun text =>
    match Text.readInt64 text with
    | .ok _ => none
    | .error reason => some (.invalidRunnerId text reason)

/-- The number to be removed: the recorded one or, if the pod records none, that of the first listed
runner of the name. -/
def id? (x : Situation) : Option Int64 :=
  match x.idText? with
  | some text => (Text.readInt64 text).toOption
  | none => x.listing.toOption.bind fun runners =>
      (runners.find? fun r => r.name = x.name).bind (·.id)

/-- Whether the registry removes the runner. -/
def isRemoved (x : Situation) : Bool :=
  x.id?.any fun id => (x.removal id).isOk

/-- The failure of the listing, which is asked for only if the pod records no number. -/
def listingFailure? (x : Situation) : Option RegistryError :=
  match x.idText?, x.listing with
  | none, .error e => some e
  | _, _ => none

/-- The failure of the removal, unless all it says is that there is no such runner. -/
def removalFailure? (x : Situation) : Option RegistryError :=
  x.id?.bind fun id =>
    match x.removal id with
    | .ok () => none
    | .error e => if e.isNotFound then none else some e

/-- The failure of the listing or of the removal. -/
def failure? (x : Situation) : Option RegistryError :=
  x.listingFailure?.or x.removalFailure?

/-- Whether a container of the runner's name has terminated. -/
def hasTerminated (x : Situation) : Bool :=
  x.pod.any fun p =>
    p.containers.any fun c => c.name = Pod.runnerContainer && c.state.exitCode?.isSome

/-- The text of the start mark: of the annotation for it, if that is there and not empty. -/
def startText? (x : Situation) : Option String :=
  (x.pod.bind (·.annotation? Pod.startKey)).filter (· ≠ "")

/-- The start mark, with its fault, if it is not a timestamp. -/
def malformedStart? (x : Situation) : Option StopError :=
  x.startText?.bind fun text =>
    match Timestamp.read text with
    | .ok _ => none
    | .error reason => some (.invalidTimestamp Pod.startKey text reason)

/-- The time that has passed since the start mark; none if the start is yet to come. -/
def elapsed? (x : Situation) : Option Duration :=
  x.startText?.bind fun text => (Timestamp.read text).toOption.map x.now.elapsed

/-! ## The table -/

/-- The rows, each deciding the situations that it applies to. -/
def table : List (Situation → Option Decision) :=
  [ fun x => if x.isConfirmed then some .deletable else none,
    fun x => x.malformedId?.map .failed,
    fun x => if x.isRemoved then some .deletable else none,
    fun x => x.failure?.bind fun e =>
      if e.isRateLimited then some (.requeue (.ofSeconds 60) (some (.registry e))) else none,
    fun x => x.failure?.bind fun e =>
      if e.status? = some 422 ∧ x.hasTerminated then some .deletable else none,
    fun x => x.failure?.map fun e => .failed (.registry e),
    -- From here on the registry does not know the runner.
    fun x => if x.pod.isNone then some .deletable else none,
    fun x => if x.pod.any (·.isStopped) then some .deletable else none,
    fun x => x.malformedStart?.map .failed,
    fun x => x.elapsed?.map fun t =>
      if t < x.timeout then .requeue x.retryDelay none else .deletable ]

/-- The decision of the first row that applies; without any, the pod is looked at again later. -/
def decision (x : Situation) : Decision :=
  (table.findSome? fun row => row x).getD (.requeue x.retryDelay none)

/-! ## The situation that a decision meets -/

variable {σ : Type} (handler : Handler σ) (s : σ) (target : Target) (pod : Option Pod)

/-- Where a removal would be asked for: at once if the pod records a number, else after a
listing. -/
def beforeRemoval : σ :=
  if (pod.bind (·.annotation? Pod.runnerIdKey)).isSome then s
  else (handler (.list target.scope) s).2

/-- Where the clock would be read: after the removal, if there is a number to be removed. -/
def beforeClock (id : Option Int64) : σ :=
  match id with
  | some id => (handler (.remove target.scope id) (beforeRemoval handler s target pod)).2
  | none => beforeRemoval handler s target pod

/-- The situation in which a decision is taken that begins in state `s`. -/
def faced (timeout retryDelay : Duration) : Situation :=
  -- The clock is read last, and which number is removed does not depend on it.
  let x : Situation :=
    { name := target.name
      pod := pod
      timeout := timeout
      retryDelay := retryDelay
      listing := (handler (.list target.scope) s).1
      removal := fun id =>
        (handler (.remove target.scope id) (beforeRemoval handler s target pod)).1
      now := default }
  { x with now := (handler .now (beforeClock handler s target pod x.id?)).1 }

/-! ## The functions against the rows

The functions ask for the marks of a pod where the rows speak of its annotations. Each of the
functions that take the decision together has its rows: `unregister` finds out whether the runner
was removed, is not known, or whether something failed, and one function decides each of the two
latter cases. -/

variable {handler s target pod} {timeout retryDelay : Duration} {id : Option Int64}

/-- The functions take a pod for confirmed when the row for confirmations does. -/
theorem isConfirmed_eq (x : Situation) :
    x.isConfirmed = x.pod.any (·.isMarked Pod.completeKey) := by
  cases hpod : x.pod with
  | none => simp [isConfirmed, hpod]
  | some p =>
    rw [isConfirmed, hpod, Option.bind_some, Option.any_some, Bool.eq_iff_iff, Pod.isMarked_iff]
    simp [Option.any_eq_true]

/-- The start mark that the functions read is that of the rows about it. -/
theorem startText?_of_pod {x : Situation} {p : Pod} (hpod : x.pod = some p) :
    x.startText? = p.mark? Pod.startKey := by
  ext text
  rw [startText?, hpod, Option.bind_some, Pod.mark?_eq_some, Option.filter_eq_some_iff]
  simp

/-- The number recorded on a pod decides how a removal begins. -/
theorem idText?_of_recordedId (h : recordedId pod = .ok id) :
    (pod.bind (·.annotation? Pod.runnerIdKey) = none ∧ id = none) ∨
      ∃ text n, pod.bind (·.annotation? Pod.runnerIdKey) = some text ∧
        Text.readInt64 text = .ok n ∧ id = some n := by
  unfold recordedId at h
  cases htext : pod.bind (·.annotation? Pod.runnerIdKey) with
  | none =>
    rw [htext] at h
    cases h
    exact Or.inl ⟨rfl, rfl⟩
  | some text =>
    rw [htext] at h
    cases hn : Text.readInt64 text with
    | ok n =>
      simp only [hn, Except.ok.injEq] at h
      exact Or.inr ⟨text, n, rfl, hn, h.symm⟩
    | error reason => simp [hn] at h

/-- A number that cannot be recorded is the fault of the row for malformed numbers. -/
theorem malformedId?_of_error {x : Situation} {e : StopError} (h : recordedId x.pod = .error e) :
    x.malformedId? = some e := by
  unfold recordedId at h
  cases htext : x.pod.bind (·.annotation? Pod.runnerIdKey) with
  | none => simp [htext] at h
  | some text =>
    rw [htext] at h
    cases hn : Text.readInt64 text with
    | ok n => simp [hn] at h
    | error reason =>
      simp only [hn, Except.error.injEq] at h
      simp [malformedId?, idText?, htext, hn, h]

/-- A number that can be read, or none at all, leaves the row for malformed numbers out. -/
theorem malformedId?_of_ok {x : Situation} (h : recordedId x.pod = .ok id) :
    x.malformedId? = none := by
  rcases idText?_of_recordedId h with ⟨htext, -⟩ | ⟨text, n, htext, hn, -⟩
  · simp [malformedId?, idText?, htext]
  · simp [malformedId?, idText?, htext, hn]

/-- What the registry makes of the runner, put together from the rows' questions. -/
def outcome (x : Situation) : Removal :=
  if x.isRemoved then .removed else x.failure?.elim .notFound .failed

/-- With a number to be removed, all depends on the answer to its removal. -/
theorem outcome_of_id {x : Situation} {n : Int64} (hid : x.id? = some n)
    (hlisting : x.listingFailure? = none) : x.outcome = .ofAnswer (x.removal n) := by
  unfold outcome isRemoved failure? removalFailure?
  rw [hid, hlisting]
  cases hn : x.removal n with
  | ok u => simp [hn, Removal.ofAnswer, Except.isOk, Except.toBool]
  | error e =>
    by_cases he : e.isNotFound
    · simp [hn, he, Removal.ofAnswer, Except.isOk, Except.toBool]
    · simp [hn, he, Removal.ofAnswer, Except.isOk, Except.toBool]

/-- Without a number to be removed, all depends on whether the listing failed. -/
theorem outcome_of_no_id {x : Situation} (hid : x.id? = none) :
    x.outcome = x.listingFailure?.elim .notFound .failed := by
  unfold outcome isRemoved failure? removalFailure?
  rw [hid]
  simp

/-- The removal of the situation in which it is asked for, and where it leads: by the number that
the pod records, else by that of a look-up. -/
theorem unregister_faced (handler : Handler σ) (s : σ) (target : Target)
    (timeout retryDelay : Duration) (h : recordedId pod = .ok id) :
    ((unregister target id).run handler s).value =
        (faced handler s target pod timeout retryDelay).outcome ∧
      ((unregister target id).run handler s).state =
        beforeClock handler s target pod (faced handler s target pod timeout retryDelay).id? := by
  set x := faced handler s target pod timeout retryDelay with hx
  have htext : x.idText? = pod.bind (·.annotation? Pod.runnerIdKey) := rfl
  have hlisting : x.listing = (handler (.list target.scope) s).1 := rfl
  have hname : x.name = target.name := rfl
  rcases idText?_of_recordedId h with ⟨hnone, rfl⟩ | ⟨text, n, hsome, hn, rfl⟩
  · -- nothing recorded: the listing comes first
    rw [hnone] at htext
    have hbefore : beforeRemoval handler s target pod = (handler (.list target.scope) s).2 := by
      simp [beforeRemoval, hnone]
    cases hlist : (handler (.list target.scope) s).1 with
    | error e =>
      rw [hlist] at hlisting
      have hid : x.id? = none := by simp [id?, htext, hlisting, Except.toOption]
      rw [outcome_of_no_id hid, hid]
      simp [unregister, findRunner, Program.run_call, hlist, listingFailure?, htext, hlisting,
        Except.map, beforeClock, hbefore]
    | ok runners =>
      rw [hlist] at hlisting
      have hid : x.id? = (runners.find? fun r => r.name = target.name).bind (·.id) := by
        simp [id?, htext, hlisting, Except.toOption, hname]
      have hfailure : x.listingFailure? = none := by simp [listingFailure?, htext, hlisting]
      cases hfound : (runners.find? fun r => r.name = target.name).bind (·.id) with
      | none =>
        rw [hfound] at hid
        rw [outcome_of_no_id hid, hid, hfailure]
        simp [unregister, findRunner, firstNamed, Program.run_call, hlist, Except.map, hfound,
          beforeClock, hbefore]
      | some n =>
        rw [hfound] at hid
        rw [outcome_of_id hid hfailure, hid]
        simp [unregister, findRunner, firstNamed, removeById, Program.run_call, hlist, Except.map,
          hfound, beforeClock, hbefore, hx, faced]
  · -- the recorded number is removed at once
    rw [hsome] at htext
    have hbefore : beforeRemoval handler s target pod = s := by simp [beforeRemoval, hsome]
    have hid : x.id? = some n := by simp [id?, htext, hn, Except.toOption]
    have hfailure : x.listingFailure? = none := by simp [listingFailure?, htext]
    rw [outcome_of_id hid hfailure, hid]
    simp [unregister, removeById, Program.run_call, beforeClock, hbefore, hx, faced]

/-- A removal asks the registry, be it for a listing only. -/
theorem asks_registry (target : Target) (id : Option Int64) :
    ((unregister target id).run handler s).calls.any Call.isRegistry = true := by
  cases id with
  | some n => rfl
  | none =>
    show (Call.list target.scope :: _).any Call.isRegistry = true
    rfl

/-- Having terminated is having an exit code. -/
theorem hasTerminated_eq (x : Situation) :
    x.hasTerminated = (x.pod.bind (·.exitCode?)).isSome := by
  unfold hasTerminated
  cases x.pod with
  | none => rfl
  | some p =>
    show (p.containers.any fun c => c.name = Pod.runnerContainer && c.state.exitCode?.isSome) =
      p.exitCode?.isSome
    unfold Pod.exitCode?
    rw [List.isSome_findSome?, List.any_filter]

/-- A failure of the registry is decided by the rows for failures, whatever the look-up that is
made for the record is answered. -/
theorem value_decideFailure (x : Situation) (e : RegistryError) :
    ((decideFailure target x.pod e).run handler s).value =
      if e.isRateLimited then .requeue rateLimitDelay (some (.registry e))
      else if e.status? = some 422 ∧ x.hasTerminated then .deletable
      else .failed (.registry e) := by
  have hrefused : (e.isStillRegistering && (x.pod.bind (·.exitCode?)).isSome) = true ↔
      e.status? = some 422 ∧ x.hasTerminated = true := by
    rw [hasTerminated_eq, Bool.and_eq_true]
    exact and_congr_left fun _ => decide_eq_true_iff
  unfold decideFailure
  by_cases hlimit : e.isRateLimited = true
  · rw [if_pos hlimit, if_pos hlimit]
    rfl
  · rw [if_neg hlimit, if_neg hlimit]
    by_cases h : e.status? = some 422 ∧ x.hasTerminated = true
    · rw [if_pos (hrefused.2 h), if_pos h]
      rfl
    · rw [if_neg (mt hrefused.1 h), if_neg h]
      rfl

/-- A runner that the registry does not know is decided by the rows for it. -/
theorem value_decideNotFound (x : Situation) (hnow : (handler .now s).1 = x.now) :
    ((decideNotFound x.timeout x.retryDelay x.pod).run handler s).value =
      (List.findSome? (fun row : Situation → Option Decision => row x) (table.drop 6)).getD
        (.requeue x.retryDelay none) := by
  unfold decideNotFound
  cases hpod : x.pod with
  | none => simp [table, hpod]
  | some p =>
    by_cases hstopped : p.isStopped
    · simp [table, hpod, hstopped]
    · have hmark : x.startText? = p.mark? Pod.startKey := startText?_of_pod hpod
      cases htext : p.mark? Pod.startKey with
      | none => simp [table, hpod, hstopped, malformedStart?, elapsed?, hmark, htext]
      | some text =>
        cases hread : Timestamp.read text with
        | error reason =>
          simp [table, hpod, hstopped, malformedStart?, hmark, htext, decideByStart, hread]
        | ok start =>
          by_cases hwithin : x.now.elapsed start < x.timeout
          · simp [table, hpod, hstopped, malformedStart?, elapsed?, hmark, htext, decideByStart,
              hread, Program.run_call, hnow, hwithin, Except.toOption]
          · simp [table, hpod, hstopped, malformedStart?, elapsed?, hmark, htext, decideByStart,
              hread, Program.run_call, hnow, hwithin, Except.toOption]

/-! ## The whole decision -/

/-- The rows before the last ones, when they are left to the registry. -/
theorem decision_of_open {x : Situation} (hopen : x.isConfirmed = false)
    (hid : x.malformedId? = none) :
    x.decision =
      match x.outcome with
      | .removed => .deletable
      | .failed e =>
        if e.isRateLimited then .requeue rateLimitDelay (some (.registry e))
        else if e.status? = some 422 ∧ x.hasTerminated then .deletable
        else .failed (.registry e)
      | .notFound =>
        (List.findSome? (fun row : Situation → Option Decision => row x) (table.drop 6)).getD
          (.requeue x.retryDelay none) := by
  unfold decision outcome
  by_cases hremoved : x.isRemoved
  · simp [table, hopen, hid, hremoved]
  · cases hfailure : x.failure? with
    | none => simp [table, hopen, hid, hremoved, hfailure]
    | some e =>
      by_cases hlimit : e.isRateLimited
      · simp [table, hopen, hid, hremoved, hfailure, hlimit, rateLimitDelay]
      · by_cases hrefused : e.status? = some 422 ∧ x.hasTerminated
        · simp [table, hopen, hid, hremoved, hfailure, hlimit, hrefused]
        · simp [table, hopen, hid, hremoved, hfailure, hlimit, hrefused]

end Situation

open Situation in
/-- **The decision is that of the table**, on every source of answers and in every state of it; and
the registry is asked exactly if neither a confirmation nor a malformed number comes first. -/
theorem ensureUnregistered_follows_table {σ : Type} (handler : Handler σ) (s : σ) (target : Target)
    (timeout retryDelay : Duration) (pod : Option Pod) :
    let x := faced handler s target pod timeout retryDelay
    let o := (ensureUnregistered target timeout retryDelay pod).run handler s
    o.value = x.decision ∧
      o.calls.any Call.isRegistry = !(x.isConfirmed || x.malformedId?.isSome) := by
  intro x o
  have hrun : o = (ensureUnregistered target timeout retryDelay pod).run handler s := rfl
  unfold ensureUnregistered at hrun
  have hmarked : x.isConfirmed = pod.any (·.isMarked Pod.completeKey) := isConfirmed_eq x
  cases hconfirmed : x.isConfirmed with
  | true =>
    -- row 1: confirmed, no call
    rw [if_pos (hmarked.symm.trans hconfirmed)] at hrun
    rw [hrun]
    simp [decision, table, hconfirmed]
  | false =>
    rw [if_neg (Bool.eq_false_iff.1 (hmarked.symm.trans hconfirmed))] at hrun
    cases hid : recordedId pod with
    | error e =>
      -- row 2: the recorded number cannot be read, no call
      have hmalformed : x.malformedId? = some e := malformedId?_of_error hid
      rw [hid] at hrun
      rw [hrun]
      simp [decision, table, hconfirmed, hmalformed]
    | ok id =>
      have hmalformed : x.malformedId? = none := malformedId?_of_ok hid
      -- The other rows: the registry is asked, and its answer is the outcome that the situation
      -- shows.
      obtain ⟨hvalue, hstate⟩ := unregister_faced handler s target timeout retryDelay hid
      rw [hid] at hrun
      simp only [Program.bind_eq] at hrun
      rw [hrun, Program.value_bind, Program.calls_bind, hvalue, hstate]
      refine ⟨?_, ?_⟩
      · rw [decision_of_open hconfirmed hmalformed]
        cases x.outcome with
        | removed => rfl
        | failed e => exact value_decideFailure x e
        | notFound => exact value_decideNotFound x rfl
      · rw [hmalformed, List.any_append, asks_registry]
        rfl

end Quiesce
