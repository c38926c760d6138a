/-!
# Annotations

The annotations of a pod: texts under names, each name at most once, in ascending order of the
names by code points.

* `Annotations.get?_insert` says what an insertion does to every name.
* `Annotations.ext_get?` says that the names and their texts are all there is to annotations.
-/

namespace Quiesce

/-- Texts under names in ascending order. -/
structure Annotations where
  entries : List (String × String)
  sorted : entries.Pairwise fun a b => a.1 < b.1
deriving DecidableEq, Repr

namespace Annotations

/-- The text under a name in a list of entries. -/
def lookup (key : String) : List (String × String) → Option String
  | [] => none
  | (k, v) :: rest => if k = key then some v else lookup key rest

/-- Puts an entry in front of the first one with a larger name, or in the place of its own. -/
def insertEntry (key value : String) : List (String × String) → List (String × String)
  | [] => [(key, value)]
  | (k, v) :: rest =>
    if key < k then (key, value) :: (k, v) :: rest
    else if key = k then (key, value) :: rest
    else (k, v) :: insertEntry key value rest

/-- An insertion adds no entry but its own. -/
theorem mem_insertEntry {key value : String} {e : String × String} {l : List (String × String)}
    (h : e ∈ insertEntry key value l) : e = (key, value) ∨ e ∈ l := by
  induction l with
  | nil => simpa [insertEntry] using h
  | cons hd tl ih =>
    obtain ⟨k, v⟩ := hd
    rw [insertEntry] at h
    by_cases hlt : key < k
    · rw [if_pos hlt] at h
      simpa using h
    rw [if_neg hlt] at h
    by_cases heq : key = k
    · rw [if_pos heq] at h
      simp only [List.mem_cons] at h ⊢
      rcases h with h | h
      · exact .inl h
      · exact .inr (.inr h)
    · rw [if_neg heq] at h
      simp only [List.mem_cons] at h ⊢
      rcases h with h | h
      · exact .inr (.inl h)
      · rcases ih h with h | h
        · exact .inl h
        · exact .inr (.inr h)

/-- An insertion keeps the names in ascending order, so no name is there twice. -/
theorem sorted_insertEntry {key value : String} {l : List (String × String)}
    (h : l.Pairwise fun a b => a.1 < b.1) :
    (insertEntry key value l).Pairwise fun a b => a.1 < b.1 := by
  induction l with
  | nil => simp [insertEntry]
  | cons hd tl ih =>
    obtain ⟨k, v⟩ := hd
    rw [List.pairwise_cons] at h
    rw [insertEntry]
    by_cases hlt : key < k
    · rw [if_pos hlt]
      refine List.pairwise_cons.2 ⟨?_, List.pairwise_cons.2 h⟩
      intro e he
      rcases List.mem_cons.1 he with rfl | he
      · exact hlt
      · exact String.lt_trans hlt (h.1 e he)
    rw [if_neg hlt]
    by_cases heq : key = k
    · rw [if_pos heq, heq]
      exact List.pairwise_cons.2 h
    · rw [if_neg heq]
      refine List.pairwise_cons.2 ⟨?_, ih h.2⟩
      intro e he
      rcases mem_insertEntry he with rfl | he
      · have hle : k ≤ key := String.not_lt.1 hlt
        exact String.not_le.1 fun hge => heq (String.le_antisymm hge hle)
      · exact h.1 e he

/-- An insertion gives one name its text and leaves the other names as they are. -/
theorem lookup_insertEntry (key value name : String) (l : List (String × String)) :
    lookup name (insertEntry key value l) = if key = name then some value else lookup name l := by
  induction l with
  | nil => simp [insertEntry, lookup]
  | cons hd tl ih =>
    obtain ⟨k, v⟩ := hd
    rw [insertEntry]
    by_cases hlt : key < k
    · simp [hlt, lookup]
    rw [if_neg hlt]
    by_cases heq : key = k
    · subst heq
      by_cases h : key = name
      · simp [lookup, h]
      · simp [lookup, h]
    · rw [if_neg heq]
      by_cases h : k = name
      · subst h
        simp [lookup, heq]
      · simp [lookup, h, ih]

def empty : Annotations := ⟨[], .nil⟩

instance : Inhabited Annotations := ⟨empty⟩

def get? (a : Annotations) (key : String) : Option String :=
  lookup key a.entries

def contains (a : Annotations) (key : String) : Bool :=
  (a.get? key).isSome

/-- The annotations with a text under a name, in the place of the one that was there. -/
def insert (a : Annotations) (key value : String) : Annotations :=
  ⟨insertEntry key value a.entries, sorted_insertEntry a.sorted⟩

def single (key value : String) : Annotations :=
  empty.insert key value

/-- The names and texts in order; of a repeated name the last counts. -/
def ofList (entries : List (String × String)) : Annotations :=
  entries.foldl (fun a e => a.insert e.1 e.2) empty

/-- The annotations with those of `more` inserted. -/
def merge (a more : Annotations) : Annotations :=
  more.entries.foldl (fun a e => a.insert e.1 e.2) a

@[simp] theorem get?_empty (key : String) : empty.get? key = none := rfl

/-- What an insertion does to every name. -/
theorem get?_insert (a : Annotations) (key value name : String) :
    (a.insert key value).get? name = if key = name then some value else a.get? name :=
  lookup_insertEntry key value name a.entries

@[simp] theorem get?_insert_self (a : Annotations) (key value : String) :
    (a.insert key value).get? key = some value := by
  simp [get?_insert]

@[simp] theorem entries_single (key value : String) :
    (single key value).entries = [(key, value)] := rfl

theorem mem_of_lookup_eq_some {l : List (String × String)} {key value : String}
    (h : lookup key l = some value) : (key, value) ∈ l := by
  induction l with
  | nil => simp [lookup] at h
  | cons hd tl ih =>
    obtain ⟨k, v⟩ := hd
    rw [lookup] at h
    by_cases hk : k = key
    · rw [if_pos hk, Option.some.injEq] at h
      rw [hk, h]
      exact List.mem_cons_self
    · rw [if_neg hk] at h
      exact List.mem_cons_of_mem _ (ih h)

/-- Entries in ascending order are determined by what is found in them: the smallest name of one
list can only be the smallest of the other. -/
theorem entries_eq_of_lookup_eq {l m : List (String × String)}
    (hl : l.Pairwise fun a b => a.1 < b.1) (hm : m.Pairwise fun a b => a.1 < b.1)
    (h : ∀ key, lookup key l = lookup key m) : l = m := by
  induction l generalizing m with
  | nil =>
    cases m with
    | nil => rfl
    | cons e m => have := h e.1; simp [lookup] at this
  | cons a l ih =>
    cases m with
    | nil => have := h a.1; simp [lookup] at this
    | cons b m =>
      have hl' := List.pairwise_cons.1 hl
      have hm' := List.pairwise_cons.1 hm
      -- Each first name is found in the other list; behind its head it would be above itself.
      have hab : a.1 = b.1 := by
        have ha : lookup a.1 (b :: m) = some a.2 := by rw [← h]; simp [lookup]
        have hb : lookup b.1 (a :: l) = some b.2 := by rw [h]; simp [lookup]
        rcases List.mem_cons.1 (mem_of_lookup_eq_some ha) with e | e
        · exact congrArg Prod.fst e
        · rcases List.mem_cons.1 (mem_of_lookup_eq_some hb) with e' | e'
          · exact (congrArg Prod.fst e').symm
          · exact absurd (String.lt_trans (hm'.1 _ e) (hl'.1 _ e')) (String.lt_irrefl _)
      have hval : a.2 = b.2 := by
        have := h a.1
        simpa [lookup, hab] using this
      -- The tails agree as well: the first name is in neither of them.
      have htail : l = m := by
        refine ih hl'.2 hm'.2 fun key => ?_
        by_cases hk : a.1 = key
        · have hnl : lookup key l = none := by
            cases hlk : lookup key l with
            | none => rfl
            | some v =>
              exact absurd (hl'.1 _ (mem_of_lookup_eq_some hlk)) (hk ▸ String.lt_irrefl _)
          have hnm : lookup key m = none := by
            cases hmk : lookup key m with
            | none => rfl
            | some v =>
              exact absurd (hm'.1 _ (mem_of_lookup_eq_some hmk))
                (by rw [← hab, hk]; exact String.lt_irrefl _)
          rw [hnl, hnm]
        · have := h key
          simpa [lookup, hk, hab ▸ hk] using this
      rw [Prod.ext hab hval, htail]

/-- The names and their texts are all there is to annotations. -/
theorem ext_get? {a b : Annotations} (h : ∀ key, a.get? key = b.get? key) : a = b := by
  obtain ⟨l, hl⟩ := a
  obtain ⟨m, hm⟩ := b
  obtain rfl : l = m := entries_eq_of_lookup_eq hl hm h
  rfl

end Annotations

end Quiesce
