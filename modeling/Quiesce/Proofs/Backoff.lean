import Quiesce.Proofs.FailureTexts
import Quiesce.Proofs.IntegerTexts

/-!
# The wait that a failed response suggests

Who is told to slow down may be told for how long: by a number of seconds, or by the moment at
which the limit is lifted. What the headers ask for is said here by the integers that they write,
and the function is held against it.

The moment is any integer of 64 bits, and its distance from the present need not be one. Where it is
none, the process panics.

* `NamesMoment` and `Asks` are what the headers say, and `Overflows` that the distance is too large.
* `difference_eq_ok_iff` is the checked difference of two machine words.
* `suggestedBackoff_eq_ok_iff` and `suggestedBackoff_eq_error_iff` say what is suggested, and when
  the process panics.
* `suggested_wait` is the main statement, and `bygone_reset_panics` a moment that nobody waits for.
-/

namespace Quiesce

namespace Http

/-- The first header of that name holds a text that, without white space around it, reads so. -/
def HeaderReads (headers : Headers) (name : String) (reads : String → Prop) : Prop :=
  ∃ value text, FirstHeader headers name value ∧ isHeaderText value = true ∧
    Text.Trims value text ∧ reads text

/-- Reading a header and then its text is finding the first header of the name with a text that
reads so. -/
theorem header?_bind_eq_some_iff {ε α : Type} {headers : Headers} {name : String} {a : α}
    {read : String → Except ε α} {reads : String → Prop}
    (hread : ∀ s, read s = .ok a ↔ reads s) :
    ((header? headers name).bind fun s => (read s).toOption) = some a ↔
      HeaderReads headers name reads := by
  rw [Option.bind_eq_some_iff]
  constructor
  · rintro ⟨text, htext, hsome⟩
    obtain ⟨value, hfirst, hascii, htrims⟩ := header?_eq_some_iff.1 htext
    refine ⟨value, text, hfirst, hascii, htrims, (hread text).1 ?_⟩
    cases hok : read text with
    | error e =>
      rw [hok] at hsome
      cases hsome
    | ok b =>
      rw [hok] at hsome
      cases hsome
      rfl
  · rintro ⟨value, text, hfirst, hascii, htrims, hreads⟩
    refine ⟨text, header?_eq_some_iff.2 ⟨value, hfirst, hascii, htrims⟩, ?_⟩
    rw [(hread text).2 hreads]
    rfl

end Http

namespace RegistryError

open Http (Headers HeaderReads header?)
open Text (IsWord64 IsInt64)

/-! ## What the headers ask for -/

/-- The headers name the moment at which the limit is lifted, and no number of seconds. -/
structure NamesMoment (headers : Headers) (moment : Int) : Prop where
  noSeconds : ∀ n, ¬HeaderReads headers "retry-after" (IsWord64 · n)
  reads : HeaderReads headers "x-ratelimit-reset" (IsInt64 · moment)

/-- The wait that the headers ask for at the present moment: the seconds that they name, else those
until the moment that they name, unless it is past. -/
inductive Asks (now : Int) (headers : Headers) : Option Duration → Prop
  | seconds {n : Nat} (reads : HeaderReads headers "retry-after" (IsWord64 · n)) :
      Asks now headers (some (.ofSeconds n))
  | ahead {moment : Int} (names : NamesMoment headers moment) (ahead : now ≤ moment) :
      Asks now headers (some (.ofSeconds (moment - now).toNat))
  | past {moment : Int} (names : NamesMoment headers moment) (past : moment < now) :
      Asks now headers none
  | nothing (noSeconds : ∀ n, ¬HeaderReads headers "retry-after" (IsWord64 · n))
      (noMoment : ∀ moment, ¬NamesMoment headers moment) : Asks now headers none

section Words

variable {headers : Headers} {name : String}

theorem header_word_iff {n : Nat} :
    ((header? headers name).bind fun s => (Text.readWord64 s).toOption) = some n ↔
      HeaderReads headers name (IsWord64 · n) :=
  Http.header?_bind_eq_some_iff fun _ => Text.readWord64_eq_ok_iff

theorem header_int_iff {i : Int64} :
    ((header? headers name).bind fun s => (Text.readInt64 s).toOption) = some i ↔
      HeaderReads headers name (IsInt64 · i.toInt) :=
  Http.header?_bind_eq_some_iff fun _ => Text.readInt64_eq_ok_iff

theorem header_word_eq_none_iff :
    ((header? headers name).bind fun s => (Text.readWord64 s).toOption) = none ↔
      ∀ n, ¬HeaderReads headers name (IsWord64 · n) := by
  rw [Option.eq_none_iff_forall_ne_some]
  exact forall_congr' fun n => not_congr header_word_iff

/-- The headers name a moment exactly if no number of seconds is given and the other header reads as
the moment. -/
theorem namesMoment_iff {word : Int64} :
    NamesMoment headers word.toInt ↔
      ((header? headers "retry-after").bind fun s => (Text.readWord64 s).toOption) = none ∧
      ((header? headers "x-ratelimit-reset").bind fun s => (Text.readInt64 s).toOption) =
        some word := by
  rw [header_word_eq_none_iff, header_int_iff]
  exact ⟨fun h => ⟨h.noSeconds, h.reads⟩, fun h => ⟨h.1, h.2⟩⟩

/-- A moment that headers name fits a word, since it is read as one. -/
theorem NamesMoment.exists_word {moment : Int} (h : NamesMoment headers moment) :
    ∃ word : Int64, word.toInt = moment := by
  obtain ⟨value, text, hfirst, hascii, htrims, hlow, hhigh, -⟩ := h.reads
  exact ⟨Int64.ofInt moment, Int64.toInt_ofInt_of_le (by omega) (by omega)⟩

end Words

/-! ## The difference of two machine words -/

/-- The integer is a machine word. -/
def IsWord (i : Int) : Prop :=
  -0x8000000000000000 ≤ i ∧ i < 0x8000000000000000

/-- Every word is within the bounds of one. -/
theorem isWord_toInt (word : Int64) : IsWord word.toInt :=
  ⟨word.le_toInt, word.toInt_lt⟩

/-- The difference is that of the integers, and it is there exactly if that is a machine word. -/
theorem difference_eq_ok_iff {a b rest : Int64} :
    difference a b = .ok rest ↔ rest.toInt = a.toInt - b.toInt := by
  unfold difference
  constructor
  · intro h
    by_cases hexact : (a - b).toInt = a.toInt - b.toInt
    · rw [if_pos hexact] at h
      cases h
      exact hexact
    · rw [if_neg hexact] at h
      cases h
  · intro h
    have hexact : a - b = rest := by
      rw [← Int64.toInt_inj, Int64.toInt_sub, ← h]
      have hlow := rest.le_toInt
      have hhigh := rest.toInt_lt
      apply Int.bmod_eq_of_le
      · omega
      · omega
    rw [if_pos (hexact ▸ h), hexact]

/-- A subtraction panics exactly if its exact result fits no word. -/
theorem difference_eq_error_iff {a b : Int64} {panic : Panic} :
    difference a b = .error panic ↔ ¬IsWord (a.toInt - b.toInt) := by
  constructor
  · intro h hword
    have hrest : (Int64.ofInt (a.toInt - b.toInt)).toInt = a.toInt - b.toInt := by
      obtain ⟨hlow, hhigh⟩ := hword
      exact Int64.toInt_ofInt_of_le (by omega) (by omega)
    rw [difference_eq_ok_iff.2 hrest] at h
    cases h
  · intro hword
    cases hrest : difference a b with
    | error panic' =>
      cases panic
      cases panic'
      rfl
    | ok rest => exact absurd (difference_eq_ok_iff.1 hrest ▸ isWord_toInt rest) hword

section Difference

variable {moment now : Int64}

/-- A moment whose distance is a machine word is waited for, unless it is past. -/
theorem secondsUntil?_of_isWord (h : IsWord (moment.toInt - now.toInt)) :
    secondsUntil? moment now =
      .ok (if now.toInt ≤ moment.toInt then some (moment.toInt - now.toInt).toNat else none) := by
  unfold secondsUntil?
  cases hrest : difference moment now with
  | error panic => exact absurd h (difference_eq_error_iff.1 hrest)
  | ok rest =>
    simp only [Except.map, Int64.le_iff_toInt_le, Int64.toInt_zero,
      difference_eq_ok_iff.1 hrest, Int.sub_nonneg]

/-- A moment too far in the past cannot be compared with the present. -/
theorem secondsUntil?_of_not_isWord (h : ¬IsWord (moment.toInt - now.toInt)) :
    secondsUntil? moment now = .error .subtraction := by
  unfold secondsUntil?
  rw [difference_eq_error_iff.2 h]
  rfl

end Difference

/-! ## What is suggested -/

/-- The headers name a moment whose distance from the present is no machine word. -/
def Overflows (now : Int) (headers : Headers) : Prop :=
  ∃ moment, NamesMoment headers moment ∧ ¬IsWord (moment - now)

/-- For a present that is not before 1970, such a moment is one more than `2 ^ 63` seconds ago. -/
theorem overflows_iff {now : Int} {headers : Headers} (hnow : 0 ≤ now) :
    Overflows now headers ↔
      ∃ moment, NamesMoment headers moment ∧ moment - now < -0x8000000000000000 := by
  refine exists_congr fun moment => and_congr_right fun hnames => ?_
  obtain ⟨word, rfl⟩ := hnames.exists_word
  have hhigh := word.toInt_lt
  unfold IsWord
  omega

section Suggested

variable {now : Int64} {headers : Headers} {wait : Option Duration}

/-- Seconds that the registry gives come before a moment that it names. -/
theorem suggestedBackoff_of_seconds {n : Nat}
    (h : HeaderReads headers "retry-after" (IsWord64 · n)) :
    suggestedBackoff now headers = .ok (some (.ofSeconds n)) := by
  unfold suggestedBackoff
  rw [header_word_iff.2 h]

/-- Without seconds, the wait is the time until the moment that the registry names. -/
theorem suggestedBackoff_of_moment {word : Int64} (h : NamesMoment headers word.toInt) :
    suggestedBackoff now headers = (secondsUntil? word now).map (·.map .ofSeconds) := by
  obtain ⟨hseconds, hmoment⟩ := namesMoment_iff.1 h
  unfold suggestedBackoff
  rw [hseconds, hmoment]

/-- Without either, no wait is suggested. -/
theorem suggestedBackoff_of_nothing
    (hseconds : ∀ n, ¬HeaderReads headers "retry-after" (IsWord64 · n))
    (hmoment : ∀ moment, ¬NamesMoment headers moment) :
    suggestedBackoff now headers = .ok none := by
  unfold suggestedBackoff
  rw [header_word_eq_none_iff.2 hseconds]
  cases hword : (header? headers "x-ratelimit-reset").bind fun s => (Text.readInt64 s).toOption with
  | none => rfl
  | some word => exact absurd ⟨hseconds, header_int_iff.1 hword⟩ (hmoment word.toInt)

/-- What the headers ask for is what is suggested, if the moment that they name is near enough. -/
theorem suggestedBackoff_of_asks (h : Asks now.toInt headers wait)
    (hfits : ¬Overflows now.toInt headers) : suggestedBackoff now headers = .ok wait := by
  have hword : ∀ {word : Int64}, NamesMoment headers word.toInt →
      IsWord (word.toInt - now.toInt) :=
    fun hnames => Classical.not_not.1 fun hfar => hfits ⟨_, hnames, hfar⟩
  cases h with
  | seconds reads => exact suggestedBackoff_of_seconds reads
  | ahead names ahead =>
    obtain ⟨word, rfl⟩ := names.exists_word
    rw [suggestedBackoff_of_moment names, secondsUntil?_of_isWord (hword names), if_pos ahead]
    rfl
  | past names past =>
    obtain ⟨word, rfl⟩ := names.exists_word
    rw [suggestedBackoff_of_moment names, secondsUntil?_of_isWord (hword names),
      if_neg (by omega)]
    rfl
  | nothing noSeconds noMoment => exact suggestedBackoff_of_nothing noSeconds noMoment

theorem suggestedBackoff_of_overflows (h : Overflows now.toInt headers) :
    suggestedBackoff now headers = .error .subtraction := by
  obtain ⟨moment, hnames, hfar⟩ := h
  obtain ⟨word, rfl⟩ := hnames.exists_word
  rw [suggestedBackoff_of_moment hnames, secondsUntil?_of_not_isWord hfar]
  rfl

/-- Any headers ask for some wait or none. -/
theorem exists_asks (now : Int) (headers : Headers) : ∃ wait, Asks now headers wait := by
  by_cases hseconds : ∃ n, HeaderReads headers "retry-after" (IsWord64 · n)
  · obtain ⟨n, hn⟩ := hseconds
    exact ⟨_, .seconds hn⟩
  · by_cases hmoment : ∃ moment, NamesMoment headers moment
    · obtain ⟨moment, hnames⟩ := hmoment
      rcases Int.lt_or_le moment now with hpast | hahead
      · exact ⟨_, .past hnames hpast⟩
      · exact ⟨_, .ahead hnames hahead⟩
    · exact ⟨_, .nothing (not_exists.1 hseconds) (not_exists.1 hmoment)⟩

/-- **What is suggested is what the headers ask for**, as long as the process does not panic. -/
theorem suggestedBackoff_eq_ok_iff :
    suggestedBackoff now headers = .ok wait ↔
      Asks now.toInt headers wait ∧ ¬Overflows now.toInt headers := by
  constructor
  · intro h
    have hfits : ¬Overflows now.toInt headers := by
      intro hover
      rw [suggestedBackoff_of_overflows hover] at h
      cases h
    -- the headers ask for something, and whatever that is has been suggested
    obtain ⟨asked, hasks⟩ := exists_asks now.toInt headers
    rw [suggestedBackoff_of_asks hasks hfits] at h
    cases h
    exact ⟨hasks, hfits⟩
  · rintro ⟨hasks, hfits⟩
    exact suggestedBackoff_of_asks hasks hfits

/-- **The classification of a failure panics exactly if the headers ask for it**: over a moment
whose distance from the present is no word. -/
theorem suggestedBackoff_eq_error_iff {panic : Panic} :
    suggestedBackoff now headers = .error panic ↔ Overflows now.toInt headers := by
  cases panic
  refine ⟨fun h => Classical.not_not.1 fun hfits => ?_, suggestedBackoff_of_overflows⟩
  obtain ⟨asked, hasks⟩ := exists_asks now.toInt headers
  rw [suggestedBackoff_of_asks hasks hfits] at h
  cases h

end Suggested

/-! ## Classification -/

section Classification

variable (now : Int64) {status : Nat} {headers : Headers} {body message : String}

/-- A response that means to slow down is classified with the wait that is suggested. -/
theorem ofFailure_of_slowsDown (hbody : Says body message)
    (hslow : SlowsDown status headers message) :
    ofFailure now status headers body =
      (suggestedBackoff now headers).map (.rateLimited message) := by
  have hmessage := says_iff.1 hbody
  unfold ofFailure
  dsimp only
  rw [hmessage, if_pos (asksToSlowDown_iff.2 hslow)]

/-- No other response panics, and its status is its cause. -/
theorem ofFailure_of_not_slowsDown (hbody : Says body message)
    (hcalm : ¬SlowsDown status headers message) :
    ofFailure now status headers body =
      .ok (if status = 404 then .notFound message else .api status message) := by
  have hmessage := says_iff.1 hbody
  unfold ofFailure
  dsimp only
  rw [hmessage, if_neg (mt asksToSlowDown_iff.1 hcalm)]
  by_cases hstatus : status = 404
  · rw [if_pos hstatus, if_pos hstatus]
  · rw [if_neg hstatus, if_neg hstatus]

/-- The one thing that a classification panics over is the wait of a response that means to slow
down. -/
theorem ofFailure_eq_error_iff {now : Int64} {panic : Panic} :
    ofFailure now status headers body = .error panic ↔
      SlowsDown status headers (failureMessage body) ∧ Overflows now.toInt headers := by
  have hbody : Says body (failureMessage body) := says_iff.2 rfl
  by_cases hslow : SlowsDown status headers (failureMessage body)
  · have hover : suggestedBackoff now headers = .error panic ↔ Overflows now.toInt headers :=
      suggestedBackoff_eq_error_iff
    rw [ofFailure_of_slowsDown now hbody hslow, and_iff_right hslow, ← hover]
    cases suggestedBackoff now headers with
    | error panic' => exact ⟨congrArg _ ∘ Except.error.inj, congrArg _ ∘ Except.error.inj⟩
    | ok wait => exact ⟨nofun, nofun⟩
  · rw [ofFailure_of_not_slowsDown now hbody hslow]
    exact ⟨nofun, fun h => absurd h.1 hslow⟩

end Classification

/-- **The wait that comes with a rate limit.** Take a response that means to slow down, with any
headers, at any present. It is classified as a rate limit with the wait that its headers ask for,
unless the moment that they name is too far from the present for the distance to be a machine word:
then the process panics. For a present that is not before 1970, this is so exactly if the moment is
more than `2 ^ 63` seconds ago. -/
theorem suggested_wait (now : Int64) {status : Nat} {headers : Headers} {body message : String}
    (hbody : Says body message) (hslow : SlowsDown status headers message) :
    (∀ asked, ofFailure now status headers body = .ok (.rateLimited message asked) ↔
      Asks now.toInt headers asked ∧ ¬Overflows now.toInt headers) ∧
    (∀ panic, ofFailure now status headers body = .error panic ↔ Overflows now.toInt headers) ∧
    (0 ≤ now.toInt → (Overflows now.toInt headers ↔
      ∃ moment, NamesMoment headers moment ∧ moment - now.toInt < -0x8000000000000000)) := by
  have hclassified := ofFailure_of_slowsDown now hbody hslow
  refine ⟨fun asked => ?_, fun panic => ?_, overflows_iff⟩
  · rw [hclassified, ← suggestedBackoff_eq_ok_iff]
    cases suggestedBackoff now headers with
    | error panic => exact ⟨nofun, nofun⟩
    | ok wait =>
      constructor
      · intro h
        cases h
        rfl
      · intro h
        cases h
        rfl
  · rw [ofFailure_eq_error_iff, says_iff.1 hbody, and_iff_right hslow]

/-- A limit that is lifted after a hundred seconds. The other header names no number of seconds, and
of the two that name a moment the first one counts. -/
def liftedSoon : Headers :=
  [("X-RateLimit-Reset", "\t1792324900 "), ("Retry-After", "soon"), ("x-ratelimit-reset", "0")]

/-- A limit that is lifted in a hundred seconds. -/
theorem suggested_wait_until_lifted :
    Says "slow" "slow" ∧ SlowsDown 429 liftedSoon "slow" ∧
      ofFailure 1792324800 429 liftedSoon "slow" =
        .ok (.rateLimited "slow" (some (.ofSeconds 100))) ∧
      Asks 1792324800 liftedSoon (some (.ofSeconds 100)) := by
  have hbody : Says "slow" "slow" := says_iff.2 (by decide +kernel)
  have hslow : SlowsDown 429 liftedSoon "slow" := .inl rfl
  have hclassified : ofFailure 1792324800 429 liftedSoon "slow" =
      .ok (.rateLimited "slow" (some (.ofSeconds 100))) := by
    decide +kernel
  obtain ⟨hwaits, -⟩ := suggested_wait 1792324800 hbody hslow
  exact ⟨hbody, hslow, hclassified, ((hwaits _).1 hclassified).1⟩

/-- A limit that was lifted at the least moment that can be written. -/
def liftedLongAgo : Headers := [("x-ratelimit-reset", "-9223372036854775808")]

/-- The headers of that limit name the earliest moment that a word can hold. -/
theorem liftedLongAgo_names : NamesMoment liftedLongAgo (-9223372036854775808 : Int64).toInt :=
  namesMoment_iff.2 (by decide +kernel)

/-- A response that means to slow down until that moment. -/
def bygone : Http.Response := ⟨429, liftedLongAgo, some ""⟩

/-- The answer with those headers asks the client to slow down, whatever its body says. -/
theorem bygone_slowsDown :
    Says bygone.failureText "" ∧ SlowsDown bygone.status bygone.headers "" :=
  ⟨says_iff.2 (by decide +kernel), .inl rfl⟩

/-- A limit that was lifted long ago asks for no wait, but the difference to the present is no
machine word, and the process panics. -/
theorem bygone_reset_panics :
    Says bygone.failureText "" ∧ SlowsDown bygone.status bygone.headers "" ∧
      Asks 1792324800 bygone.headers none ∧
      ofFailure 1792324800 bygone.status bygone.headers bygone.failureText =
        .error .subtraction :=
  ⟨bygone_slowsDown.1, bygone_slowsDown.2, .past liftedLongAgo_names (by decide),
    by decide +kernel⟩

end RegistryError
end Quiesce
