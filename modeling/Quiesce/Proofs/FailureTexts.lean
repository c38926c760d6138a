import Mathlib.Data.List.Infix
import Mathlib.Data.List.TakeWhile
import Quiesce.Registry.Failure

/-!
# What a failed response says

The cause of a failure is found in texts: in the message that a body holds, in a header, and in
words that stand somewhere in the message. This module says what is looked for without saying how,
and shows that the functions find just that.

* `Text.Trims`, `Http.FirstHeader` and `Json.LastField` are about any text, headers and fields.
* `Says` is the message of a body, `SlowsDown` what tells the caller to slow down.
* `says_iff` and `asksToSlowDown_iff` are the main statements.
-/

namespace Quiesce

/-! ## Texts without the blanks around them -/

namespace Text

/-- The one text with white space around it is the other. -/
structure Trims (s t : String) : Prop where
  framed : ∃ before after, s.toList = before ++ t.toList ++ after ∧
    ∀ c ∈ before ++ after, isBlank c = true
  bare : ∀ c, t.toList.head? = some c ∨ t.toList.getLast? = some c → isBlank c = false

theorem head?_trimStart {cs : List Char} {c : Char} (h : (trimStart cs).head? = some c) :
    isBlank c = false := by
  have hnot := List.head?_dropWhile_not isBlank cs
  unfold trimStart at h
  rwa [h] at hnot

theorem trimStart_bare {cs : List Char} (h : ∀ c, cs.head? = some c → isBlank c = false) :
    trimStart cs = cs := by
  cases cs with
  | nil => rfl
  | cons c cs =>
    have hc := h c rfl
    unfold trimStart
    rw [List.dropWhile_cons_of_neg (by rw [hc]; decide)]

/-- What is trimmed in front of a text is blank. -/
theorem exists_trimStart (cs : List Char) :
    ∃ before, cs = before ++ trimStart cs ∧ ∀ c ∈ before, isBlank c = true :=
  ⟨cs.takeWhile isBlank, List.takeWhile_append_dropWhile.symm, fun _ => List.mem_takeWhile_imp⟩

theorem trims_trim (s : String) : Trims s (trim s) := by
  obtain ⟨before, hbefore, hblank⟩ := exists_trimStart s.toList
  obtain ⟨after, hafter, hblank'⟩ := exists_trimStart (trimStart s.toList).reverse
  have hsplit : trimStart s.toList = trimEnd (trimStart s.toList) ++ after.reverse := by
    unfold trimEnd
    rw [← List.reverse_append, ← hafter, List.reverse_reverse]
  refine ⟨⟨before, after.reverse, ?_, ?_⟩, ?_⟩
  · rw [trim, String.toList_ofList, List.append_assoc, ← hsplit]
    exact hbefore
  · intro c hc
    rcases List.mem_append.1 hc with hc | hc
    · exact hblank c hc
    · exact hblank' c (List.mem_reverse.1 hc)
  · rw [trim, String.toList_ofList]
    rintro c (hhead | hlast)
    · -- what is left starts where the first cut has ended
      have hstart : (trimStart s.toList).head? = some c := by
        rw [hsplit, List.head?_append, hhead]
        rfl
      exact head?_trimStart hstart
    · unfold trimEnd at hlast
      rw [List.getLast?_reverse] at hlast
      exact head?_trimStart hlast

/-- There is one way to trim a text. -/
theorem trim_of_trims {s t : String} (h : Trims s t) : trim s = t := by
  obtain ⟨before, after, hs, hblank⟩ := h.framed
  have hbefore : ∀ c ∈ before, isBlank c = true := fun c hc => hblank c (List.mem_append_left _ hc)
  have hafter : ∀ c ∈ after.reverse, isBlank c = true :=
    fun c hc => hblank c (List.mem_append_right _ (List.mem_reverse.1 hc))
  have hend : trimEnd (t.toList ++ after) = t.toList := by
    unfold trimEnd trimStart
    rw [List.reverse_append, List.dropWhile_append_of_pos hafter]
    have hbare : trimStart t.toList.reverse = t.toList.reverse := by
      refine trimStart_bare fun c hc => h.bare c (Or.inr ?_)
      rwa [List.head?_reverse] at hc
    unfold trimStart at hbare
    rw [hbare, List.reverse_reverse]
  have hstart : trimStart s.toList = trimStart (t.toList ++ after) := by
    unfold trimStart
    rw [hs, List.append_assoc, List.dropWhile_append_of_pos hbefore]
  unfold trim
  rw [hstart]
  cases ht : t.toList with
  | nil =>
    -- the text is nothing but white space, which the first cut takes away
    have hnil : trimStart ([] ++ after) = [] := List.dropWhile_eq_nil_iff.2
      fun c hc => hblank c (List.mem_append_right _ hc)
    rw [hnil, ← String.ofList_toList (s := t), ht]
    rfl
  | cons c cs =>
    rw [ht] at hend
    rw [trimStart_bare, hend, ← ht, String.ofList_toList]
    intro c' hc'
    refine h.bare c' (Or.inl ?_)
    rw [ht]
    exact hc'

/-- **What is trimmed** is the text without the blanks on both sides. -/
theorem trims_iff {s t : String} : Trims s t ↔ trim s = t := by
  refine ⟨trim_of_trims, ?_⟩
  rintro rfl
  exact trims_trim s

end Text

/-! ## Headers -/

namespace Http

/-- The first header of that name, case aside, has that value. -/
def FirstHeader (headers : Headers) (name value : String) : Prop :=
  ∃ before given after, headers = before ++ (given, value) :: after ∧ sameName given name = true ∧
    ∀ h ∈ before, sameName h.1 name = false

/-- The first header of a name, in either case, is the one that is found. -/
theorem firstHeader_iff {headers : Headers} {name value : String} :
    FirstHeader headers name value ↔
      ∃ given, headers.find? (fun h => sameName h.1 name) = some (given, value) := by
  constructor
  · rintro ⟨before, given, after, rfl, hsame, hothers⟩
    refine ⟨given, List.find?_eq_some_iff_append.2 ⟨hsame, before, after, rfl, fun h hh => ?_⟩⟩
    rw [hothers h hh]
    rfl
  · rintro ⟨given, hfind⟩
    obtain ⟨hsame, before, after, rfl, hothers⟩ := List.find?_eq_some_iff_append.1 hfind
    refine ⟨before, given, after, rfl, hsame, fun h hh => ?_⟩
    have hnot := hothers h hh
    rwa [Bool.not_eq_true'] at hnot

/-- The text of a header is what its first value is without white space, if that value is a text. -/
theorem header?_eq_some_iff {headers : Headers} {name text : String} :
    header? headers name = some text ↔
      ∃ value, FirstHeader headers name value ∧ isHeaderText value = true ∧
        Text.Trims value text := by
  unfold header?
  cases hfind : headers.find? fun h => sameName h.1 name with
  | none =>
    refine ⟨nofun, ?_⟩
    rintro ⟨value, hfirst, -⟩
    obtain ⟨given, hgiven⟩ := firstHeader_iff.1 hfirst
    rw [hfind] at hgiven
    cases hgiven
  | some h =>
    obtain ⟨given, value⟩ := h
    constructor
    · intro htext
      dsimp only at htext
      by_cases hascii : isHeaderText value = true
      · rw [if_pos hascii, Option.some.injEq] at htext
        exact ⟨value, firstHeader_iff.2 ⟨given, hfind⟩, hascii, Text.trims_iff.2 htext⟩
      · rw [if_neg hascii] at htext
        cases htext
    · rintro ⟨value', hfirst, hascii, htrims⟩
      obtain ⟨given', hgiven⟩ := firstHeader_iff.1 hfirst
      rw [hfind] at hgiven
      cases hgiven
      dsimp only
      rw [if_pos hascii, Text.trims_iff.1 htrims]

end Http

/-! ## Fields -/

/-- The last field of that name has that value. -/
def Json.LastField (fields : Json.Fields) (name : String) (value : Json) : Prop :=
  ∃ before after, fields = before ++ (some name, value) :: after ∧ ∀ f ∈ after, f.1 ≠ some name

/-- The last field of a name is the one that is found from behind. -/
theorem Json.lastField_iff {fields : Json.Fields} {name : String} {value : Json} :
    LastField fields name value ↔
      fields.reverse.find? (fun f => f.1 = some name) = some (some name, value) := by
  constructor
  · rintro ⟨before, after, rfl, hothers⟩
    refine List.find?_eq_some_iff_append.2 ⟨by simp, after.reverse, before.reverse, by simp,
      fun f hf => ?_⟩
    have hne := hothers f (List.mem_reverse.1 hf)
    simp [hne]
  · intro hfind
    obtain ⟨-, after, before, hreverse, hothers⟩ := List.find?_eq_some_iff_append.1 hfind
    refine ⟨before.reverse, after.reverse, ?_, fun f hf => ?_⟩
    · rw [← List.reverse_reverse fields, hreverse]
      simp
    · have hnot := hothers f (List.mem_reverse.1 hf)
      simpa using hnot

namespace RegistryError

/-! ## The message of a body -/

/-- The body is an object of which all can be kept, and its message is that text. -/
def HoldsMessage (body text : String) : Prop :=
  ∃ fields, Json.read body = some (.object fields) ∧
    (Json.object fields).isKept Json.nestingLimit = true ∧
    Json.LastField fields "message" (.string (some text))

/-- What a failed response says: the message that its body holds, or else the body without white
space around it. -/
inductive Says (body : String) : String → Prop
  | document {text : String} (holds : HoldsMessage body text) : Says body text
  | plain {text : String} (bare : ∀ t, ¬HoldsMessage body t) (trims : Text.Trims body text) :
      Says body text

/-- A message is read from a body exactly if that is a document which holds it. -/
theorem documentMessage?_eq_some_iff {body text : String} :
    documentMessage? body = some text ↔ HoldsMessage body text := by
  have hguard : ∀ {document : Json}, document.isKept Json.nestingLimit = true →
      (guard (document.isKept Json.nestingLimit = true) : Option Unit) = some () :=
    fun h => if_pos h
  have hfound : ∀ fields : Json.Fields, Json.read body = some (.object fields) →
      (Json.object fields).isKept Json.nestingLimit = true →
      documentMessage? body =
        (fields.reverse.find? fun f => f.1 = some "message").bind fun f => f.2.text? := by
    intro fields hread hkept
    unfold documentMessage?
    rw [hread, Option.bind_eq_bind, Option.bind_some, hguard hkept]
    rfl
  constructor
  · intro htext
    -- A message was read, so the body is an object that the reader keeps.
    obtain ⟨fields, hread, hkept⟩ : ∃ fields, Json.read body = some (.object fields) ∧
        (Json.object fields).isKept Json.nestingLimit = true := by
      unfold documentMessage? at htext
      cases hread : Json.read body with
      | none =>
        rw [hread] at htext
        cases htext
      | some document =>
        rw [hread] at htext
        cases hkept : document.isKept Json.nestingLimit with
        | false =>
          rw [Option.bind_eq_bind, Option.bind_some, hkept] at htext
          cases htext
        | true =>
          rw [Option.bind_eq_bind, Option.bind_some, hguard hkept] at htext
          cases document with
          | object fields => exact ⟨fields, rfl, hkept⟩
          | _ => cases htext
    rw [hfound fields hread hkept] at htext
    obtain ⟨⟨name, value⟩, hlast, htext⟩ := Option.bind_eq_some_iff.1 htext
    have hname : name = some "message" := by simpa using List.find?_some hlast
    subst hname
    cases value with
    | string shown =>
      cases htext
      exact ⟨fields, hread, hkept, Json.lastField_iff.2 hlast⟩
    | _ => cases htext
  · rintro ⟨fields, hread, hkept, hlast⟩
    rw [hfound fields hread hkept, Json.lastField_iff.1 hlast]
    rfl

/-- The text of a failure is the one that its body says. -/
theorem says_iff {body message : String} : Says body message ↔ failureMessage body = message := by
  unfold failureMessage
  cases hdocument : documentMessage? body with
  | none =>
    have hbare : ∀ t, ¬HoldsMessage body t := by
      intro t ht
      rw [documentMessage?_eq_some_iff.2 ht] at hdocument
      cases hdocument
    rw [Option.getD_none, ← Text.trims_iff]
    refine ⟨fun h => ?_, .plain hbare⟩
    cases h with
    | document holds => exact absurd holds (hbare _)
    | plain bare trims => exact trims
  | some text =>
    have hholds := documentMessage?_eq_some_iff.1 hdocument
    rw [Option.getD_some]
    constructor
    · intro h
      cases h with
      | document holds =>
        rw [documentMessage?_eq_some_iff.2 holds] at hdocument
        exact (Option.some.inj hdocument).symm
      | plain bare trims => exact absurd hholds (bare _)
    · rintro rfl
      exact .document hholds

/-! ## What tells the caller to slow down -/

/-- A part occurs in a text if the text is something, the part, and something more. -/
theorem occursIn_iff {part cs : List Char} : occursIn part cs = true ↔ part <:+: cs := by
  induction cs with
  | nil =>
    unfold occursIn
    rw [List.isEmpty_iff, List.infix_nil]
  | cons c cs ih =>
    rw [occursIn, Bool.or_eq_true, List.isPrefixOf_iff_prefix, ih, List.infix_cons_iff]

/-- The words "rate limit" stand somewhere in the message, in ASCII letters of either case. -/
def MentionsRateLimit (message : String) : Prop :=
  ∃ before found after, message.toList = before ++ found ++ after ∧
    found.map Char.toLower = "rate limit".toList

theorem mentionsRateLimit_iff {message : String} :
    mentionsRateLimit message = true ↔ MentionsRateLimit message := by
  unfold mentionsRateLimit MentionsRateLimit
  rw [occursIn_iff]
  constructor
  · rintro ⟨before, after, hlower⟩
    obtain ⟨front, after', hmessage, hfront, -⟩ := List.map_eq_append_iff.1 hlower.symm
    obtain ⟨before', found, rfl, -, hfound⟩ := List.map_eq_append_iff.1 hfront
    exact ⟨before', found, after', hmessage, hfound⟩
  · rintro ⟨before, found, after, hmessage, hfound⟩
    refine ⟨before.map Char.toLower, after.map Char.toLower, ?_⟩
    rw [hmessage, List.map_append, List.map_append, hfound]

/-- The first header that says how much of the quota remains says that nothing does: a zero with
blanks and tabs around it. -/
def QuotaExhausted (headers : Http.Headers) : Prop :=
  ∃ value before after, Http.FirstHeader headers "x-ratelimit-remaining" value ∧
    value.toList = before ++ '0' :: after ∧ ∀ c ∈ before ++ after, c = ' ' ∨ c = '\t'

/-- The only white space that a header can hold are blanks and tabs. -/
theorem eq_of_isBlank {c : Char} (h : ((0x20 ≤ c.toNat && c.toNat < 0x7f) || c = '\t') = true)
    (hblank : Text.isBlank c = true) : c = ' ' ∨ c = '\t' := by
  by_cases htab : c = '\t'
  · exact Or.inr htab
  · have hrange : 0x20 ≤ c.toNat ∧ c.toNat < 0x7f := by simpa [htab] using h
    simp only [Text.isBlank, Text.inRanges, Text.blankRanges, List.any_cons, List.any_nil,
      Bool.or_eq_true, Bool.and_eq_true, decide_eq_true_eq, Bool.false_eq_true, or_false] at hblank
    have hspace : c.toNat = ' '.toNat := by
      show c.toNat = 32
      omega
    exact Or.inl (Char.toNat_inj.1 hspace)

/-- A header text that is a zero without white space is one with blanks and tabs around it. -/
theorem zeroText_iff {value : String} :
    Http.isHeaderText value = true ∧ Text.Trims value "0" ↔
      ∃ before after, value.toList = before ++ '0' :: after ∧
        ∀ c ∈ before ++ after, c = ' ' ∨ c = '\t' := by
  constructor
  · rintro ⟨hascii, ⟨before, after, hframed, hblank⟩, -⟩
    have hvalue : value.toList = before ++ '0' :: after := by
      rw [hframed, List.append_assoc]
      rfl
    refine ⟨before, after, hvalue, fun c hc => ?_⟩
    -- In a header text, the blanks that `Trims` allows are the blank and the tab.
    have hmem : c ∈ value.toList := by
      rw [hvalue]
      rcases List.mem_append.1 hc with hc | hc
      · exact List.mem_append_left _ hc
      · exact List.mem_append_right _ (List.mem_cons_of_mem _ hc)
    exact eq_of_isBlank (List.all_eq_true.1 hascii c hmem) (hblank c hc)
  · rintro ⟨before, after, hvalue, hblank⟩
    have hascii : Http.isHeaderText value = true := by
      unfold Http.isHeaderText
      rw [List.all_eq_true, hvalue]
      intro c hc
      have hcases : c = '0' ∨ c ∈ before ++ after := by
        rcases List.mem_append.1 hc with hc | hc
        · exact Or.inr (List.mem_append_left _ hc)
        · rcases List.mem_cons.1 hc with hc | hc
          · exact Or.inl hc
          · exact Or.inr (List.mem_append_right _ hc)
      rcases hcases with rfl | hc
      · decide
      · rcases hblank c hc with rfl | rfl
        · decide
        · decide
    refine ⟨hascii, ⟨before, after, ?_, fun c hc => ?_⟩, fun c hc => ?_⟩
    · rw [hvalue, List.append_assoc]
      rfl
    · rcases hblank c hc with rfl | rfl
      · decide
      · decide
    · have hzero : c = '0' := by
        rcases hc with hc | hc
        · exact (Option.some.inj hc).symm
        · exact (Option.some.inj hc).symm
      rw [hzero]
      decide

/-- The quota is exhausted if the header about what remains of it says so. -/
theorem quotaIsExhausted_iff {headers : Http.Headers} :
    quotaIsExhausted headers = true ↔ QuotaExhausted headers := by
  unfold quotaIsExhausted QuotaExhausted
  rw [decide_eq_true_iff, Http.header?_eq_some_iff]
  constructor
  · rintro ⟨value, hfirst, htext⟩
    obtain ⟨before, after, hvalue, hblank⟩ := zeroText_iff.1 htext
    exact ⟨value, before, after, hfirst, hvalue, hblank⟩
  · rintro ⟨value, before, after, hfirst, hvalue, hblank⟩
    exact ⟨value, hfirst, zeroText_iff.2 ⟨before, after, hvalue, hblank⟩⟩

/-- A response with that message tells the caller to slow down. -/
def SlowsDown (status : Nat) (headers : Http.Headers) (message : String) : Prop :=
  status = 429 ∨ status = 403 ∧ (QuotaExhausted headers ∨ MentionsRateLimit message)

/-- Only two statuses can tell the caller to slow down. -/
theorem status_of_slowsDown {status : Nat} {headers : Http.Headers} {message : String}
    (h : SlowsDown status headers message) : status = 429 ∨ status = 403 := by
  rcases h with hmany | ⟨hforbidden, -⟩
  · exact Or.inl hmany
  · exact Or.inr hforbidden

/-- **When a failure counts as a rate limit**: by the status 429 alone, or by the status 403 with an
exhausted quota or a message about rate limits. -/
theorem asksToSlowDown_iff {status : Nat} {headers : Http.Headers} {message : String} :
    asksToSlowDown status headers message = true ↔ SlowsDown status headers message := by
  unfold asksToSlowDown SlowsDown
  simp [quotaIsExhausted_iff, mentionsRateLimit_iff]

end RegistryError
end Quiesce
