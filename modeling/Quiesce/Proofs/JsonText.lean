import Mathlib.Data.Option.Basic
import Mathlib.Tactic.SplitIfs
import Quiesce.Json.Printer
import Quiesce.Json.Reader
import Quiesce.Proofs.Digits

/-!
# Documents, written and read back

Reading the compact text of a value gives the value. The text of a value may stand anywhere in a
document, so each reader is shown to take what was written and to leave what comes after it. Only
the text of a number could go on into what follows; in a document a comma, a bracket or a brace
stands there, or nothing.

* `readString_stringChars` and `readNumber_numberChars` read the atoms back.
* `ReadsBack` says of a bound on nested readers that it is enough for every text of half its length,
  and `readsBack` that every bound is.
* `read_render` is the main statement.
-/

namespace Quiesce.Json

open Text (EndsDigits endsDigits_cons takeWhile_digits dropWhile_digits isDigit_of_mem_toDigits
  exists_toDigits toDigits_append_ne)

/-! ## Strings -/

/-- A control is written by the two digits of its code point behind two zeros. -/
theorem codeUnit?_control {n : Nat} (h : n < 0x20) :
    codeUnit? '0' '0' (hexDigit (n / 16)) (hexDigit (n % 16)) = some n := by
  have hall : ∀ n < 0x20, codeUnit? '0' '0' (hexDigit (n / 16)) (hexDigit (n % 16)) = some n := by
    decide
  exact hall n h

/-- How a character can be written: as an escape of one letter, as an escape of four digits, or as
itself. -/
theorem escapeChar_cases (c : Char) :
    (∃ letter, escapeChar c = ['\\', letter] ∧ escaped? letter = some c.toNat) ∨
      (∃ a b d e, escapeChar c = ['\\', 'u', a, b, d, e] ∧ codeUnit? a b d e = some c.toNat) ∨
      (escapeChar c = [c] ∧ c ≠ '"' ∧ c ≠ '\\' ∧ 0x20 ≤ c.toNat) := by
  unfold escapeChar
  split_ifs with hquote hbackslash hb hf hn hr ht hcontrol
  · subst hquote
    exact Or.inl ⟨'"', rfl, rfl⟩
  · subst hbackslash
    exact Or.inl ⟨'\\', rfl, rfl⟩
  · subst hb
    exact Or.inl ⟨'b', rfl, rfl⟩
  · subst hf
    exact Or.inl ⟨'f', rfl, rfl⟩
  · subst hn
    exact Or.inl ⟨'n', rfl, rfl⟩
  · subst hr
    exact Or.inl ⟨'r', rfl, rfl⟩
  · subst ht
    exact Or.inl ⟨'t', rfl, rfl⟩
  · exact Or.inr (Or.inl ⟨_, _, _, _, rfl, codeUnit?_control hcontrol⟩)
  · exact Or.inr (Or.inr ⟨rfl, hquote, hbackslash, Nat.not_lt.1 hcontrol⟩)

/-- A character that is written, escaped or not, is read back as its code. -/
theorem readCodes_escapeChar (c : Char) (cs : List Char) :
    readCodes (escapeChar c ++ cs) = (readCodes cs).map fun r => (c.toNat :: r.1, r.2) := by
  rcases escapeChar_cases c with ⟨letter, hwritten, hread⟩ | ⟨a, b, d, e, hwritten, hread⟩ |
    ⟨hwritten, hquote, hbackslash, hshown⟩
  · -- the letter is not the one that four digits follow
    have hletter : letter ≠ 'u' := by
      rintro rfl
      cases hread
    rw [hwritten]
    show readCodes ('\\' :: letter :: cs) = _
    rw [readCodes.eq_4 letter cs fun _ _ _ _ _ hu _ => hletter hu, hread]
    cases readCodes cs with
    | none => rfl
    | some r => rfl
  · rw [hwritten]
    show readCodes ('\\' :: 'u' :: a :: b :: d :: e :: cs) = _
    rw [readCodes, hread]
    cases readCodes cs with
    | none => rfl
    | some r => rfl
  · rw [hwritten]
    show readCodes (c :: cs) = _
    rw [readCodes.eq_5 c cs hquote (fun _ _ _ _ _ h _ => hbackslash h)
      (fun _ _ h _ => hbackslash h),
      show (guard (0x20 ≤ c.toNat) : Option Unit) = some () from if_pos hshown]
    cases readCodes cs with
    | none => rfl
    | some r => rfl

/-- A text is read back as its codes, up to the quote that ends it. -/
theorem readCodes_escaped (cs rest : List Char) :
    readCodes (cs.flatMap escapeChar ++ '"' :: rest) = some (cs.map Char.toNat, rest) := by
  induction cs with
  | nil => rw [List.flatMap_nil, List.nil_append, readCodes, List.map_nil]
  | cons c cs ih =>
    rw [List.flatMap_cons, List.append_assoc, readCodes_escapeChar, ih]
    rfl

/-- No character is half of a surrogate pair. -/
theorem not_surrogate (c : Char) :
    isHighSurrogate c.toNat = false ∧ isLowSurrogate c.toNat = false := by
  have hvalid : c.toNat < 0xd800 ∨ 0xdfff < c.toNat ∧ c.toNat < 0x110000 := c.valid
  unfold isHighSurrogate isLowSurrogate
  simp only [Bool.and_eq_false_iff, decide_eq_false_iff_not]
  omega

/-- Codes of characters have no surrogates among them, so they are the characters again. -/
theorem joinSurrogates_map (cs : List Char) : joinSurrogates (cs.map Char.toNat) = some cs := by
  induction cs with
  | nil => rw [List.map_nil, joinSurrogates]
  | cons c cs ih =>
    obtain ⟨hhigh, hlow⟩ := not_surrogate c
    rw [List.map_cons, joinSurrogates.eq_def]
    dsimp only
    rw [hhigh, hlow, ih]
    simp [Char.ofNat_toNat]

/-- **A string is read back**, be it a text or the half of a pair that denotes none. -/
theorem readString_stringChars (s : Option String) (rest : List Char) :
    ∃ body, stringChars s ++ rest = '"' :: body ∧ readString body = some (s, rest) := by
  cases s with
  | none =>
    refine ⟨['\\', 'u', 'd', '8', '0', '0', '"'] ++ rest, rfl, ?_⟩
    have hcodes : readCodes (['\\', 'u', 'd', '8', '0', '0', '"'] ++ rest) =
        some ([0xd800], rest) := rfl
    unfold readString
    rw [hcodes]
    rfl
  | some s =>
    refine ⟨s.toList.flatMap escapeChar ++ '"' :: rest, ?_, ?_⟩
    · simp [stringChars]
    · unfold readString
      rw [readCodes_escaped, Option.map_some, joinSurrogates_map, Option.map_some,
        String.ofList_toList]

/-! ## Numbers -/

/-- What follows a number that is over: nothing, or something that does not continue one. -/
def EndsNumber (rest : List Char) : Prop :=
  ∀ c ∈ rest.head?, c.isDigit = false ∧ c ≠ '.' ∧ c ≠ 'e' ∧ c ≠ 'E'

theorem endsNumber_cons {c : Char} (hdigit : c.isDigit = false)
    (h : c ≠ '.' ∧ c ≠ 'e' ∧ c ≠ 'E') (rest : List Char) : EndsNumber (c :: rest) := by
  intro d hd
  cases hd
  exact ⟨hdigit, h⟩

/-- The fraction consists of digits, as that of every number that is read. -/
def Number.IsDecimal (n : Number) : Prop :=
  ∀ c ∈ n.fraction, c.isDigit = true

/-- Digits are read up to the first character that is none. -/
theorem readDigits1_digits {digits rest : List Char} (hdigits : ∀ c ∈ digits, c.isDigit = true)
    (hne : digits ≠ []) (hrest : EndsDigits rest) :
    readDigits1 (digits ++ rest) = some (digits, rest) := by
  unfold readDigits1
  rw [takeWhile_digits hdigits hrest, dropWhile_digits hdigits hrest]
  cases digits with
  | nil => exact absurd rfl hne
  | cons d ds => rfl

theorem digitsValue_toDigits (n : Nat) : digitsValue (Nat.toDigits 10 n) = n := by
  have hfold : digitsValue (Nat.toDigits 10 n) = Nat.ofDigitChars 10 (Nat.toDigits 10 n) 0 := by
    rw [Nat.ofDigitChars_eq_foldl]
    unfold digitsValue
    congr 1
    funext m c
    omega
  rw [hfold, Nat.ofDigitChars_ten_toDigits]

/-- A number is read back from its digits, which begin with 0 only if there is no other. -/
theorem readWhole_toDigits (n : Nat) {rest : List Char} (hrest : EndsDigits rest) :
    readWhole (Nat.toDigits 10 n ++ rest) = some (n, rest) := by
  have hzero : (Nat.toDigits 10 n).head? ≠ some '0' ∨ (Nat.toDigits 10 n).length = 1 := by
    rcases Nat.eq_zero_or_pos n with rfl | hpos
    · exact Or.inr rfl
    · exact Or.inl (Text.head?_toDigits hpos)
  unfold readWhole
  refine Option.bind_eq_some_iff.2
    ⟨_, readDigits1_digits isDigit_of_mem_toDigits Nat.toDigits_ne_nil hrest, ?_⟩
  refine Option.bind_eq_some_iff.2 ⟨(), if_pos hzero, ?_⟩
  rw [digitsValue_toDigits]
  rfl

/-- The digits behind the decimal point, and the point, if there are any. -/
def fractionChars (fraction : List Char) : List Char :=
  if fraction = [] then [] else '.' :: fraction

/-- The exponent, if there is one. -/
def exponentChars : Option Int → List Char
  | none => []
  | some e => 'e' :: (if e < 0 then ['-'] else []) ++ Nat.toDigits 10 e.natAbs

/-- A number is written in four parts, most of which may be empty. -/
theorem numberChars_eq (n : Number) (rest : List Char) :
    numberChars n ++ rest = (if n.negative then ['-'] else []) ++ (Nat.toDigits 10 n.whole ++
      (fractionChars n.fraction ++ (exponentChars n.exponent ++ rest))) := by
  unfold numberChars fractionChars exponentChars
  cases n.exponent with
  | none => simp only [List.append_assoc]
  | some e => simp only [List.append_assoc]

/-- A fraction is read back digit by digit, its zeros at the end included. -/
theorem readFractionPart_fractionChars {fraction rest : List Char}
    (hdigits : ∀ c ∈ fraction, c.isDigit = true) (hrest : EndsDigits rest)
    (hpoint : rest.head? ≠ some '.') :
    readFractionPart (fractionChars fraction ++ rest) = some (fraction, rest) := by
  unfold fractionChars
  by_cases hnone : fraction = []
  · rw [if_pos hnone, hnone, List.nil_append]
    unfold readFractionPart
    split
    case h_1 => exact absurd rfl hpoint
    case h_2 => rfl
  · rw [if_neg hnone]
    exact readDigits1_digits hdigits hnone hrest

/-- An exponent is read back with its sign. -/
theorem readExponentPart_exponentChars (exponent : Option Int) {rest : List Char}
    (hrest : EndsNumber rest) :
    readExponentPart (exponentChars exponent ++ rest) = some (exponent, rest) := by
  have hends : EndsDigits rest := fun c hc => (hrest c hc).1
  cases exponent with
  | none =>
    rw [exponentChars, List.nil_append]
    cases rest with
    | nil => rfl
    | cons c rest =>
      obtain ⟨-, -, he, hE⟩ := hrest c rfl
      unfold readExponentPart
      exact if_neg (not_or.2 ⟨he, hE⟩)
  | some e =>
    have hdigits := readDigits1_digits (isDigit_of_mem_toDigits (n := e.natAbs))
      Nat.toDigits_ne_nil hends
    rw [exponentChars]
    by_cases hneg : e < 0
    · rw [if_pos hneg]
      show readExponentPart ('e' :: '-' :: (Nat.toDigits 10 e.natAbs ++ rest)) = _
      rw [readExponentPart, if_pos (Or.inl rfl), hdigits, Option.map_some, digitsValue_toDigits]
      congr 3
      omega
    · rw [if_neg hneg]
      show readExponentPart ('e' :: (Nat.toDigits 10 e.natAbs ++ rest)) = _
      rw [readExponentPart, if_pos (Or.inl rfl), hdigits, Option.map_some, digitsValue_toDigits]
      · congr 3
        omega
      · exact toDigits_append_ne (by decide) _ _
      · exact toDigits_append_ne (by decide) _ _

/-- The parts of a number are read back together. -/
theorem readUnsigned_digits {n : Number} (hn : n.IsDecimal) {rest : List Char}
    (hrest : EndsNumber rest) :
    readUnsigned n.negative (Nat.toDigits 10 n.whole ++
      (fractionChars n.fraction ++ (exponentChars n.exponent ++ rest))) = some (n, rest) := by
  have hexponent : EndsDigits (exponentChars n.exponent ++ rest) ∧
      (exponentChars n.exponent ++ rest).head? ≠ some '.' := by
    cases n.exponent with
    | none =>
      refine ⟨fun c hc => (hrest c hc).1, fun hc => ?_⟩
      exact (hrest '.' hc).2.1 rfl
    | some e => exact ⟨endsDigits_cons (by decide) _, by simp [exponentChars]⟩
  have hfraction : EndsDigits (fractionChars n.fraction ++ (exponentChars n.exponent ++ rest)) := by
    unfold fractionChars
    by_cases hnone : n.fraction = []
    · rw [if_pos hnone]
      exact hexponent.1
    · rw [if_neg hnone]
      exact endsDigits_cons (by decide) _
  unfold readUnsigned
  rw [readWhole_toDigits n.whole hfraction]
  dsimp only [Option.bind_eq_bind, Option.bind_some]
  rw [readFractionPart_fractionChars hn hexponent.1 hexponent.2]
  dsimp only [Option.bind_eq_bind, Option.bind_some]
  rw [readExponentPart_exponentChars n.exponent hrest]
  rfl

/-- A number begins with a minus sign or a digit. -/
theorem exists_numberChars (n : Number) (rest : List Char) :
    ∃ c cs, numberChars n ++ rest = c :: cs ∧ (c = '-' ∨ c.isDigit = true) := by
  rw [numberChars_eq]
  cases n.negative with
  | true => exact ⟨'-', _, rfl, Or.inl rfl⟩
  | false =>
    obtain ⟨d, ds, hwritten, hd⟩ := exists_toDigits n.whole
    rw [hwritten]
    exact ⟨d, _, rfl, Or.inr hd⟩

/-- **A number is read back** where it is over. -/
theorem readNumber_numberChars {n : Number} (hn : n.IsDecimal) {rest : List Char}
    (hrest : EndsNumber rest) : readNumber (numberChars n ++ rest) = some (n, rest) := by
  have hread := readUnsigned_digits hn hrest
  rw [numberChars_eq]
  cases hneg : n.negative with
  | true =>
    rw [hneg] at hread
    exact hread
  | false =>
    rw [hneg] at hread
    rw [if_neg Bool.false_ne_true, List.nil_append]
    unfold readNumber
    split
    case h_1 cs hminus => exact absurd hminus (toDigits_append_ne (by decide) _ _ _)
    case h_2 => exact hread

/-! ## Values -/

/-- Every number in the value is decimal. -/
inductive IsDecimal : Json → Prop
  | null : IsDecimal .null
  | bool (b : Bool) : IsDecimal (.bool b)
  | number {n : Number} (h : n.IsDecimal) : IsDecimal (.number n)
  | string (s : Option String) : IsDecimal (.string s)
  | array {items : List Json} (h : ∀ item ∈ items, IsDecimal item) : IsDecimal (.array items)
  | object {fields : Fields} (h : ∀ f ∈ fields, IsDecimal f.2) : IsDecimal (.object fields)

theorem skipBlanks_cons {c : Char} (h : c ≠ ' ' ∧ c ≠ '\n' ∧ c ≠ '\t' ∧ c ≠ '\r') (cs : List Char) :
    skipBlanks (c :: cs) = c :: cs := by
  unfold skipBlanks
  rw [List.dropWhile_cons, if_neg (by simp [h])]

/-- No digit and no minus sign begins anything else in a document. -/
theorem ne_of_beginsNumber {c d : Char} (hc : c = '-' ∨ c.isDigit = true) (hminus : d ≠ '-')
    (hdigit : d.isDigit = false) : c ≠ d := by
  rintro rfl
  rcases hc with hc | hc
  · exact hminus hc
  · rw [hdigit] at hc
    cases hc

/-- A value begins neither with a blank nor with a closing bracket. -/
theorem exists_chars (j : Json) (rest : List Char) :
    ∃ c cs, chars j ++ rest = c :: cs ∧ (c ≠ ' ' ∧ c ≠ '\n' ∧ c ≠ '\t' ∧ c ≠ '\r') ∧ c ≠ ']' := by
  cases j with
  | null => exact ⟨'n', _, rfl, by decide, by decide⟩
  | bool b =>
    cases b with
    | true => exact ⟨'t', _, rfl, by decide, by decide⟩
    | false => exact ⟨'f', _, rfl, by decide, by decide⟩
  | number n =>
    obtain ⟨c, cs, hwritten, hc⟩ := exists_numberChars n rest
    have hne : ∀ d : Char, d ≠ '-' → d.isDigit = false → c ≠ d := fun _ => ne_of_beginsNumber hc
    refine ⟨c, cs, hwritten, ⟨?_, ?_, ?_, ?_⟩, ?_⟩
    all_goals exact hne _ (by decide) (by decide)
  | string s =>
    obtain ⟨body, hwritten, -⟩ := readString_stringChars s rest
    exact ⟨'"', body, hwritten, by decide, by decide⟩
  | array items =>
    cases items with
    | nil => exact ⟨'[', _, rfl, by decide, by decide⟩
    | cons item items => exact ⟨'[', _, rfl, by decide, by decide⟩
  | object fields =>
    cases fields with
    | nil => exact ⟨'\x7b', _, rfl, by decide, by decide⟩
    | cons f fields => exact ⟨'\x7b', _, rfl, by decide, by decide⟩

/-- A bound on nested readers is enough for every text of at most half its length: values, items
from one on, and fields from one on are read back. -/
structure ReadsBack (bound : Nat) : Prop where
  value : ∀ {j : Json} (rest : List Char), j.IsDecimal → EndsNumber rest →
    2 * (chars j).length ≤ bound → readValue bound (chars j ++ rest) = some (j, rest)
  items : ∀ {item : Json} {items : List Json} (rest : List Char), item.IsDecimal →
    (∀ j ∈ items, j.IsDecimal) → 2 * (chars item ++ itemsChars items).length ≤ bound →
    readItems bound (chars item ++ (itemsChars items ++ rest)) = some (item :: items, rest)
  fields : ∀ (name : Option String) {value : Json} {fields : Fields} (rest : List Char),
    value.IsDecimal → (∀ f ∈ fields, f.2.IsDecimal) →
    2 * (stringChars name ++ ':' :: (chars value ++ fieldsChars fields)).length ≤ bound →
    readFields bound (stringChars name ++ ':' :: (chars value ++ (fieldsChars fields ++ rest))) =
      some ((name, value) :: fields, rest)

/-- Every value is written in at least one character, so that the bound goes down with the text. -/
theorem length_chars_pos (j : Json) : 0 < (chars j).length := by
  obtain ⟨c, cs, hwritten, -⟩ := exists_chars j []
  rw [List.append_nil] at hwritten
  rw [hwritten]
  exact Nat.succ_pos _

theorem readsBack_zero : ReadsBack 0 where
  value := by
    intro j _ _ _ hbound
    have hpos := length_chars_pos j
    omega
  items := by
    intro item items _ _ _ hbound
    have hpos := length_chars_pos item
    rw [List.length_append] at hbound
    omega
  fields := by
    intro name value fields _ _ _ hbound
    rw [List.length_append, List.length_cons] at hbound
    omega

theorem readValue_number (bound : Nat) {c : Char} (hc : c = '-' ∨ c.isDigit = true)
    (cs : List Char) :
    readValue (bound + 1) (c :: cs) = (readNumber (c :: cs)).map fun r => (.number r.1, r.2) := by
  have hne : ∀ d : Char, d ≠ '-' → d.isDigit = false → c ≠ d := fun _ => ne_of_beginsNumber hc
  have hblank : c ≠ ' ' ∧ c ≠ '\n' ∧ c ≠ '\t' ∧ c ≠ '\r' :=
    ⟨hne _ (by decide) (by decide), hne _ (by decide) (by decide), hne _ (by decide) (by decide),
      hne _ (by decide) (by decide)⟩
  rw [readValue, skipBlanks_cons hblank]
  split
  case h_7 => rfl
  -- each of the other values begins with a character of its own
  all_goals
    next hbegins =>
      cases hbegins
      exact absurd rfl (hne _ (by decide) (by decide))

theorem readValue_opening (bound : Nat) (cs : List Char) :
    readValue (bound + 1) ('[' :: cs) =
      match skipBlanks cs with
      | ']' :: rest => some (.array [], rest)
      | rest => (readItems bound rest).map fun r => (.array r.1, r.2) := rfl

/-- An array that does not end at once is read item by item. -/
theorem readValue_items (bound : Nat) {c : Char}
    (hblank : c ≠ ' ' ∧ c ≠ '\n' ∧ c ≠ '\t' ∧ c ≠ '\r') (hclosing : c ≠ ']') (cs : List Char) :
    readValue (bound + 1) ('[' :: c :: cs) =
      (readItems bound (c :: cs)).map fun r => (.array r.1, r.2) := by
  rw [readValue_opening, skipBlanks_cons hblank]
  split
  case h_1 rest hends =>
    cases hends
    exact absurd rfl hclosing
  case h_2 => rfl

/-- An array is read back if its items are within the smaller bound. -/
theorem ReadsBack.array_succ {bound : Nat} (h : ReadsBack bound) {item : Json} {items : List Json}
    (rest : List Char) (hitems : ∀ j ∈ item :: items, j.IsDecimal)
    (hbound : 2 * (chars (.array (item :: items))).length ≤ bound + 1) :
    readValue (bound + 1) (chars (.array (item :: items)) ++ rest) =
      some (.array (item :: items), rest) := by
  obtain ⟨c, cs, hwritten, hblank, hclosing⟩ := exists_chars item (itemsChars items ++ rest)
  have hread := h.items rest (hitems item List.mem_cons_self)
    (fun j hj => hitems j (List.mem_cons_of_mem _ hj)) (by
      rw [chars] at hbound
      simp only [List.length_append, List.length_cons] at hbound ⊢
      omega)
  have hchars : chars (.array (item :: items)) ++ rest =
      '[' :: (chars item ++ (itemsChars items ++ rest)) := by
    rw [chars]
    simp
  rw [hwritten] at hread hchars
  rw [hchars, readValue_items bound hblank hclosing, hread]
  rfl

/-- An object is read back if its fields are within the smaller bound. -/
theorem ReadsBack.object_succ {bound : Nat} (h : ReadsBack bound) (name : Option String)
    {value : Json} {fields : Fields} (rest : List Char)
    (hfields : ∀ f ∈ (name, value) :: fields, f.2.IsDecimal)
    (hbound : 2 * (chars (.object ((name, value) :: fields))).length ≤ bound + 1) :
    readValue (bound + 1) (chars (.object ((name, value) :: fields)) ++ rest) =
      some (.object ((name, value) :: fields), rest) := by
  obtain ⟨body, hwritten, -⟩ := readString_stringChars name
    (':' :: (chars value ++ (fieldsChars fields ++ rest)))
  have hread := h.fields name rest (hfields (name, value) List.mem_cons_self)
    (fun f hf => hfields f (List.mem_cons_of_mem _ hf)) (by
      rw [chars] at hbound
      simp only [List.length_append, List.length_cons] at hbound ⊢
      omega)
  have hchars : chars (.object ((name, value) :: fields)) ++ rest =
      '\x7b' :: (stringChars name ++ ':' :: (chars value ++ (fieldsChars fields ++ rest))) := by
    rw [chars]
    simp
  rw [hwritten] at hread hchars
  rw [hchars]
  show (readFields bound ('"' :: body)).map
    (fun r : Fields × List Char => (object r.1, r.2)) = _
  rw [hread]
  rfl

/-- One case for each kind of value: those without parts are read at once. -/
theorem ReadsBack.value_succ {bound : Nat} (h : ReadsBack bound) {j : Json} (rest : List Char)
    (hj : j.IsDecimal) (hrest : EndsNumber rest) (hbound : 2 * (chars j).length ≤ bound + 1) :
    readValue (bound + 1) (chars j ++ rest) = some (j, rest) := by
  cases hj with
  | null => rfl
  | bool b =>
    cases b with
    | true => rfl
    | false => rfl
  | @number n hn =>
    have hread := readNumber_numberChars hn hrest
    -- The first character of a number sends the reader to the numbers.
    obtain ⟨c, cs, hwritten, hc⟩ := exists_numberChars n rest
    show readValue (bound + 1) (numberChars n ++ rest) = _
    rw [hwritten] at hread ⊢
    rw [readValue_number bound hc, hread]
    rfl
  | string s =>
    obtain ⟨body, hwritten, hread⟩ := readString_stringChars s rest
    show readValue (bound + 1) (stringChars s ++ rest) = _
    rw [hwritten]
    show (readString body).map (fun r => (Json.string r.1, r.2)) = _
    rw [hread]
    rfl
  | @array items hitems =>
    cases items with
    | nil => rfl
    | cons item items => exact h.array_succ rest hitems hbound
  | @object fields hfields =>
    cases fields with
    | nil => rfl
    | cons f fields => exact h.object_succ f.1 rest hfields hbound

/-- Items are read back one by one, each of them with a comma or the end behind it. -/
theorem ReadsBack.items_succ {bound : Nat} (h : ReadsBack bound) {item : Json} {items : List Json}
    (rest : List Char) (hitem : item.IsDecimal) (hitems : ∀ j ∈ items, j.IsDecimal)
    (hbound : 2 * (chars item ++ itemsChars items).length ≤ bound + 1) :
    readItems (bound + 1) (chars item ++ (itemsChars items ++ rest)) =
      some (item :: items, rest) := by
  cases items with
  | nil =>
    -- the last item: what follows it is the closing bracket
    have hread := h.value (']' :: rest) hitem
      (endsNumber_cons (by decide) (by decide) _) (by
      rw [itemsChars, List.length_append, List.length_singleton] at hbound
      omega)
    show readItems (bound + 1) (chars item ++ ']' :: rest) = _
    rw [readItems, hread]
    rfl
  | cons next items =>
    have hread := h.value (',' :: (chars next ++ (itemsChars items ++ rest))) hitem
      (endsNumber_cons (by decide) (by decide) _) (by
        rw [itemsChars] at hbound
        simp only [List.length_append, List.length_cons] at hbound
        omega)
    -- a comma follows the item, and the items behind it are shorter
    have hmore := h.items rest (hitems next List.mem_cons_self)
      (fun j hj => hitems j (List.mem_cons_of_mem _ hj)) (by
        rw [itemsChars] at hbound
        simp only [List.length_append, List.length_cons] at hbound ⊢
        omega)
    have hchars : itemsChars (next :: items) ++ rest =
        ',' :: (chars next ++ (itemsChars items ++ rest)) := by
      rw [itemsChars]
      simp
    rw [hchars, readItems, hread]
    show (do
      let r ← readItems bound (chars next ++ (itemsChars items ++ rest))
      return (item :: r.1, r.2)) = _
    rw [hmore]
    rfl

/-- What a reader of fields does after a name and its value. -/
theorem readFields_field {bound : Nat} {body cs rest : List Char} {name : Option String}
    {value : Json} (hname : readString body = some (name, ':' :: cs))
    (hvalue : readValue bound cs = some (value, rest)) :
    readFields (bound + 1) ('"' :: body) =
      match skipBlanks rest with
      | ',' :: cs => (readFields bound cs).map fun r => ((name, value) :: r.1, r.2)
      | '\x7d' :: cs => some ([(name, value)], cs)
      | _ => none := by
  have hquote : skipBlanks ('"' :: body) = '"' :: body := skipBlanks_cons (by decide) _
  have hcolon : skipBlanks (':' :: cs) = ':' :: cs := skipBlanks_cons (by decide) _
  rw [readFields, hquote]
  simp only [hname, hcolon, hvalue, Option.bind_eq_bind, Option.bind_some]
  simp only [Option.map_eq_bind, Function.comp_def]
  rfl

/-- Fields are read back one by one, as items are. -/
theorem ReadsBack.fields_succ {bound : Nat} (h : ReadsBack bound) (name : Option String)
    {value : Json} {fields : Fields} (rest : List Char) (hvalue : value.IsDecimal)
    (hfields : ∀ f ∈ fields, f.2.IsDecimal)
    (hbound : 2 * (stringChars name ++ ':' :: (chars value ++ fieldsChars fields)).length ≤
      bound + 1) :
    readFields (bound + 1)
        (stringChars name ++ ':' :: (chars value ++ (fieldsChars fields ++ rest))) =
      some ((name, value) :: fields, rest) := by
  obtain ⟨body, hwritten, hname⟩ := readString_stringChars name
    (':' :: (chars value ++ (fieldsChars fields ++ rest)))
  rw [hwritten]
  cases fields with
  | nil =>
    -- the last field: what follows its value is the closing brace
    have hread := h.value ('\x7d' :: rest) hvalue
      (endsNumber_cons (by decide) (by decide) _) (by
        simp only [List.length_append, List.length_cons] at hbound
        omega)
    rw [readFields_field hname hread]
    rfl
  | cons next fields =>
    obtain ⟨name', value'⟩ := next
    have hread := h.value
      (',' :: (stringChars name' ++ ':' :: (chars value' ++ (fieldsChars fields ++ rest))))
      hvalue (endsNumber_cons (by decide) (by decide) _) (by
        simp only [List.length_append, List.length_cons] at hbound
        omega)
    -- a comma follows the value, and the fields behind it are shorter
    have hmore := h.fields name' rest
      (hfields (name', value') List.mem_cons_self)
      (fun f hf => hfields f (List.mem_cons_of_mem _ hf)) (by
        rw [fieldsChars] at hbound
        simp only [List.length_append, List.length_cons] at hbound ⊢
        omega)
    have hchars : fieldsChars ((name', value') :: fields) ++ rest =
        ',' :: (stringChars name' ++ ':' :: (chars value' ++ (fieldsChars fields ++ rest))) := by
      rw [fieldsChars]
      simp
    rw [hchars] at hname
    rw [readFields_field hname hread]
    show (readFields bound _).map (fun r => ((name, value) :: r.1, r.2)) = _
    rw [hmore]
    rfl

/-- **Whatever is written is read back**, by induction on a bound for what is left to be read. -/
theorem readsBack (bound : Nat) : ReadsBack bound := by
  induction bound with
  | zero => exact readsBack_zero
  | succ bound ih => exact ⟨ih.value_succ, ih.items_succ, ih.fields_succ⟩

/-- **The text of a value reads as the value**, whatever its numbers, names and texts are. -/
theorem read_render {j : Json} (hj : j.IsDecimal) : read (render j) = some j := by
  have hends : EndsNumber [] := fun c hc => nomatch hc
  have hread := (readsBack (readerDepth (chars j).length)).value [] hj hends (by
    unfold readerDepth
    omega)
  rw [List.append_nil] at hread
  unfold read render readChars
  rw [String.toList_ofList, hread]
  rfl

end Quiesce.Json
