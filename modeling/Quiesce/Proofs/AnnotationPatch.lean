import Mathlib.Data.List.Nodup
import Mathlib.Data.Set.List
import Quiesce.Json.MergePatch
import Quiesce.Pod.Object
import Quiesce.Proofs.Documents

/-!
# The patch of the annotations

Annotations are added to a stored pod by a merge patch of its object. Applying that patch to the
object and reading the result comes to the same as reading the object and inserting the annotations,
whatever else the object holds, and nothing else in it is changed.

* `Json.members?_setField` is what setting one field does to the members of a record, and
  `Json.field?_setField` what it does to the fields.
* `Pod.annotationsOfJson?_eq_some_iff` says which annotations an object of texts is read as, so that
  setting a text is inserting an annotation: `Pod.annotationsOfJson?_setField`.
* `Pod.merge_annotationPatch` is the object after the patch: its metadata have their annotations
  set, and the version that the patch insists on.
* `annotation_patch_annotates` is the main statement.
-/

namespace Quiesce

namespace Json

/-! ## Fields that are set -/

section Fields

variable {fs : Fields} {name other : String} {value : Json}

/-- Setting a field is seen under its own name only. -/
theorem field?_setField (key key' : Option String) (value : Json) (fs : Fields) :
    field? key (setField key' value fs) = if key' = key then some value else field? key fs := by
  unfold field?
  induction fs with
  | nil => by_cases h : key' = key <;> simp [setField, h]
  | cons f fs ih =>
    rw [setField]
    by_cases hf : f.1 = key'
    · rw [if_pos hf]
      by_cases h : key' = key
      · simp [h]
      · simp [h, hf]
    · rw [if_neg hf]
      by_cases h : f.1 = key
      · have hne : key' ≠ key := fun heq => hf (h.trans heq.symm)
        simp [h, hne]
      · simp only [List.find?_cons, h, decide_false]
        exact ih

theorem all_setField (name : String) (value : Json) (fs : Fields) :
    (setField (some name) value fs).all (fun f => f.1.isSome) = fs.all fun f => f.1.isSome := by
  induction fs with
  | nil => rfl
  | cons f fs ih =>
    rw [setField]
    by_cases hf : f.1 = some name
    · rw [if_pos hf, List.all_cons, List.all_cons, hf]
    · rw [if_neg hf, List.all_cons, List.all_cons, ih]

/-- The fields of the other names stay, with their repetitions. -/
theorem filter_setField_other (hne : name ≠ other) (value : Json) (fs : Fields) :
    (setField (some other) value fs).filter (fun f => f.1 = some name) =
      fs.filter fun f => f.1 = some name := by
  induction fs with
  | nil => simp [setField, hne.symm]
  | cons f fs ih =>
    rw [setField]
    by_cases hf : f.1 = some other
    · rw [if_pos hf, List.filter_cons, List.filter_cons, hf]
      simp [hne.symm]
    · rw [if_neg hf, List.filter_cons, List.filter_cons, ih]

/-- The first field of a name is the one that is set. -/
theorem filter_setField_self (name : String) (value : Json) (fs : Fields) :
    (setField (some name) value fs).filter (fun f => f.1 = some name) =
      (some name, value) :: (fs.filter fun f => f.1 = some name).tail := by
  induction fs with
  | nil => simp [setField]
  | cons f fs ih =>
    rw [setField]
    by_cases hf : f.1 = some name
    · simp [hf]
    · rw [if_neg hf, List.filter_cons, List.filter_cons, ih]
      simp [hf]

theorem member?_setField_other (hne : name ≠ other) (value : Json) (fs : Fields) :
    member? (setField (some other) value fs) name = member? fs name := by
  unfold member?
  rw [filter_setField_other hne]

/-- A member whose field is set has the value it is set to, unless the name is repeated. -/
theorem member?_setField_self {m : Member} (h : member? fs name = some m) (value : Json) :
    member? (setField (some name) value fs) name = some (.value value) := by
  unfold member? at h ⊢
  rw [filter_setField_self]
  cases hfound : fs.filter fun f => f.1 = some name with
  | nil => rfl
  | cons f rest =>
    cases rest with
    | nil => rfl
    | cons g rest =>
      rw [hfound] at h
      cases h

/-- A member of an object is the field of its name, if there is one. -/
theorem field?_of_member? {m : Member} (h : member? fs name = some m) :
    (∃ j, m = .value j ∧ field? (some name) fs = some j) ∨
      m = .missing ∧ field? (some name) fs = none := by
  unfold member? at h
  unfold field?
  rw [← List.head?_filter]
  cases hfound : fs.filter fun f => f.1 = some name with
  | nil =>
    rw [hfound] at h
    cases h
    exact .inr ⟨rfl, rfl⟩
  | cons f rest =>
    rw [hfound] at h
    cases rest with
    | nil =>
      cases h
      exact .inl ⟨f.2, rfl, rfl⟩
    | cons g rest => cases h

theorem mem_setField {key : Option String} {f : Option String × Json}
    (h : f ∈ setField key value fs) : f = (key, value) ∨ f ∈ fs := by
  induction fs with
  | nil => exact .inl (List.mem_singleton.1 h)
  | cons g fs ih =>
    rw [setField] at h
    by_cases hg : g.1 = key
    · rw [if_pos hg] at h
      rcases List.mem_cons.1 h with hf | hf
      · exact .inl hf
      · exact .inr (List.mem_cons_of_mem g hf)
    · rw [if_neg hg] at h
      rcases List.mem_cons.1 h with hf | hf
      · exact .inr (hf ▸ List.mem_cons_self)
      · rcases ih hf with hf | hf
        · exact .inl hf
        · exact .inr (List.mem_cons_of_mem g hf)

/-- Setting a field repeats no name. -/
theorem nodup_setField (h : (fs.map Prod.fst).Nodup) (key : Option String) (value : Json) :
    ((setField key value fs).map Prod.fst).Nodup := by
  induction fs with
  | nil => exact List.nodup_singleton _
  | cons f fs ih =>
    rw [List.map_cons, List.nodup_cons] at h
    obtain ⟨hnew, hrest⟩ := h
    rw [setField]
    by_cases hf : f.1 = key
    · rw [if_pos hf, List.map_cons, List.nodup_cons]
      exact ⟨hf ▸ hnew, hrest⟩
    · rw [if_neg hf, List.map_cons, List.nodup_cons]
      refine ⟨fun hmem => ?_, ih hrest⟩
      obtain ⟨g, hg, hname⟩ := List.mem_map.1 hmem
      rcases mem_setField hg with rfl | hold
      · exact hf hname.symm
      · exact hnew (hname ▸ List.mem_map_of_mem hold)

end Fields

/-- The members of a record in an object are its fields. -/
theorem forall₂_members? {fs : Fields} {names : List String} {ms : List Member}
    (h : (object fs).members? names = some ms) :
    fs.all (fun f => f.1.isSome) = true ∧
      List.Forall₂ (fun name m => member? fs name = some m) names ms := by
  unfold members? at h
  dsimp only at h
  by_cases hnamed : fs.all fun f => f.1.isSome
  · rw [if_pos hnamed] at h
    refine ⟨hnamed, ?_⟩
    induction names generalizing ms with
    | nil =>
      cases h
      exact .nil
    | cons name names ih =>
      rw [List.mapM_cons] at h
      obtain ⟨m, hm, ms', hms', rfl⟩ : ∃ m, member? fs name = some m ∧
          ∃ ms', names.mapM (member? fs) = some ms' ∧ m :: ms' = ms := by
        simpa [Option.bind_eq_some_iff] using h
      exact .cons hm (ih hms')
  · rw [if_neg hnamed] at h
    cases h

/-- An object whose fields are all named has the members that its fields make up. -/
theorem members?_of_forall₂ {fs : Fields} {names : List String} {ms : List Member}
    (hnamed : fs.all (fun f => f.1.isSome) = true)
    (h : List.Forall₂ (fun name m => member? fs name = some m) names ms) :
    (object fs).members? names = some ms := by
  show (if _ then _ else _) = _
  rw [if_pos hnamed]
  induction h with
  | nil => rfl
  | cons hm _ ih =>
    rw [List.mapM_cons, hm, ih]
    rfl

/-- The members of a record with one field set. -/
theorem members?_setField {fs : Fields} {names : List String} {ms : List Member}
    (h : (object fs).members? names = some ms) (name : String) (value : Json) :
    (object (setField (some name) value fs)).members? names =
      some (List.zipWith (fun n m => if n = name then .value value else m) names ms) := by
  obtain ⟨hnamed, hms⟩ := forall₂_members? h
  refine members?_of_forall₂ ((all_setField name value fs).trans hnamed) ?_
  clear h
  induction hms with
  | nil => exact .nil
  | @cons n m names ms hm _ ih =>
    refine .cons ?_ ih
    dsimp only
    by_cases hn : n = name
    · subst hn
      rw [if_pos rfl]
      exact member?_setField_self hm value
    · rw [if_neg hn]
      exact (member?_setField_other hn value fs).trans hm

/-! ## Fields that are merged -/

/-- A text in a merge patch replaces the field of its name. -/
theorem mergeFields_text (name : Option String) (text : String) (changes : Fields) (fs : Fields) :
    mergeFields ((name, ofText text) :: changes) fs =
      mergeFields changes (setField name (ofText text) fs) := by
  rw [mergeFields]
  rfl

/-- An object in a merge patch is merged into the field of its name. -/
theorem mergeFields_object (name : Option String) (inner changes fs : Fields) :
    mergeFields ((name, object inner) :: changes) fs =
      mergeFields changes
        (setField name (object (mergeFields inner ((field? name fs).getD .null).fields)) fs) := by
  rw [mergeFields, merge]
  rfl

end Json

namespace Pod

/-! ## Annotations -/

/-- A text under a name, as a field. -/
def textField (e : String × String) : Option String × Json :=
  (some e.1, .ofText e.2)

/-- The texts of annotations are found in their object as they are in the annotations. -/
theorem field?_textFields (key : String) (entries : List (String × String)) :
    Json.field? (some key) (entries.map textField) =
      (Annotations.lookup key entries).map Json.ofText := by
  induction entries with
  | nil => rfl
  | cons e entries ih =>
    unfold Json.field? at ih ⊢
    rw [List.map_cons, List.find?_cons, Annotations.lookup]
    by_cases hkey : e.1 = key
    · simp [textField, hkey]
    · have hname : decide ((textField e).1 = some key) = false := by simp [textField, hkey]
      rw [hname, if_neg hkey]
      exact ih

/-- An object of texts is read as the annotations that its fields make up. -/
theorem annotationsOfJson?_textFields (entries : List (String × String)) :
    annotationsOfJson? (.object (entries.map textField)) = some (Annotations.ofList entries) := by
  have hentries : (entries.map textField).mapM
      (fun f : Option String × Json => do return (← f.1, ← f.2.text?)) = some (entries.map id) :=
    Json.mapM_map_some id fun e _ => rfl
  rw [List.map_id] at hentries
  unfold annotationsOfJson?
  dsimp only
  rw [hentries]
  rfl

/-- Texts under names are read from nothing but an object with texts for its fields. -/
theorem exists_textFields {j : Json} {a : Annotations} (h : annotationsOfJson? j = some a) :
    ∃ entries, j = .object (entries.map textField) ∧ a = Annotations.ofList entries := by
  cases j with
  | object fs =>
    obtain ⟨entries, hentries, ha⟩ := Option.bind_eq_some_iff.1 h
    cases ha
    refine ⟨entries, congrArg Json.object ?_, rfl⟩
    clear h
    induction fs generalizing entries with
    | nil =>
      cases hentries
      rfl
    | cons f fs ih =>
      obtain ⟨key, j⟩ := f
      rw [List.mapM_cons] at hentries
      simp only [Option.bind_eq_bind, Option.bind_eq_some_iff] at hentries
      obtain ⟨e, ⟨k, hk, v, hv, he⟩, es, hes, hcons⟩ := hentries
      cases hcons
      cases he
      cases j with
      | string text =>
        cases hk
        cases hv
        rw [ih es hes]
        rfl
      | _ => cases hv
  | _ => cases h

/-- **Annotations are what an object with texts for its fields holds**, if no name is repeated. -/
theorem annotationsOfJson?_eq_some_iff {fs : Json.Fields} (hnames : (fs.map Prod.fst).Nodup)
    {a : Annotations} :
    annotationsOfJson? (.object fs) = some a ↔ (∀ f ∈ fs, ∃ e, textField e = f) ∧
      ∀ key, Json.field? (some key) fs = (a.get? key).map Json.ofText := by
  have hget : ∀ entries : List (String × String), ((entries.map textField).map Prod.fst).Nodup →
      ∀ key, (Annotations.ofList entries).get? key = Annotations.lookup key entries := by
    intro entries hentries key
    have hne : entries.Pairwise fun a b => a.1 ≠ b.1 := by
      rw [List.map_map, List.nodup_iff_pairwise_ne, List.pairwise_map] at hentries
      exact hentries.imp fun h heq => h (congrArg some heq)
    unfold Annotations.ofList
    rw [Annotations.get?_foldl_insert hne, Annotations.get?_empty, Option.or_none]
  constructor
  · intro h
    obtain ⟨entries, hfs, rfl⟩ := exists_textFields h
    cases hfs
    refine ⟨fun f hf => ?_, fun key => ?_⟩
    · obtain ⟨e, -, he⟩ := List.mem_map.1 hf
      exact ⟨e, he⟩
    · rw [field?_textFields, hget entries hnames]
  · rintro ⟨htexts, hkeys⟩
    obtain ⟨entries, rfl⟩ : ∃ entries : List (String × String), entries.map textField = fs := by
      have hrange : fs ∈ Set.range (List.map textField) := by
        rw [Set.range_list_map]
        exact htexts
      exact hrange
    rw [annotationsOfJson?_textFields]
    refine congrArg some (Annotations.ext_get? fun key => ?_)
    have hkey := hkeys key
    rw [field?_textFields, ← hget entries hnames] at hkey
    exact Option.map_injective (fun s t h => by simpa [Json.ofText] using h) hkey

/-- An annotation that is set among the texts of an object is inserted. -/
theorem annotationsOfJson?_setField {fs : Json.Fields} (hnames : (fs.map Prod.fst).Nodup)
    {a : Annotations} (h : annotationsOfJson? (.object fs) = some a) (key value : String) :
    annotationsOfJson? (.object (Json.setField (some key) (.ofText value) fs)) =
      some (a.insert key value) := by
  obtain ⟨htexts, hkeys⟩ := (annotationsOfJson?_eq_some_iff hnames).1 h
  refine (annotationsOfJson?_eq_some_iff (Json.nodup_setField hnames _ _)).2
    ⟨fun f hf => ?_, fun name => ?_⟩
  · rcases Json.mem_setField hf with rfl | hf
    · exact ⟨(key, value), rfl⟩
    · exact htexts f hf
  · rw [Json.field?_setField, Annotations.get?_insert, hkeys]
    by_cases hname : key = name
    · rw [if_pos hname, if_pos (congrArg some hname)]
      rfl
    · rw [if_neg hname, if_neg (by simpa using hname)]

/-! ## Parts -/

/-- An object is read as metadata member by member: a name, and the namespace, version and
annotations that it may leave out. -/
theorem Metadata.ofObject?_iff {fs : Json.Fields} {m : Metadata} :
    Metadata.ofObject? (.object fs) = some m ↔ ∃ name ns version annotations,
      (Json.object fs).members? ["name", "namespace", "resourceVersion", "annotations"] =
        some [name, ns, version, annotations] ∧
      name.required? Json.text? = some m.name ∧
      ns.defaulted? "" Json.text? = some m.namespaceName ∧
      version.optional? Json.text? = some m.version ∧
      annotations.defaulted? .empty annotationsOfJson? = some m.annotations := by
  unfold ofObject?
  constructor
  · intro h
    obtain ⟨ms, hms, h⟩ := Option.bind_eq_some_iff.1 h
    split at h
    case h_1 name ns version annotations =>
      simp only [Option.bind_eq_bind, Option.bind_eq_some_iff] at h
      obtain ⟨n, hn, k, hk, v, hv, a, ha, hm⟩ := h
      cases hm
      exact ⟨name, ns, version, annotations, hms, hn, hk, hv, ha⟩
    case h_2 => cases h
  · rintro ⟨name, ns, version, annotations, hms, hn, hk, hv, ha⟩
    rw [hms]
    simp [hn, hk, hv, ha]

/-- Setting the annotations of metadata changes nothing else that is read of them. -/
theorem Metadata.ofObject?_setAnnotations {fs : Json.Fields} {m : Metadata}
    (h : Metadata.ofObject? (.object fs) = some m) {value : Json} {a : Annotations}
    (ha : annotationsOfJson? value = some a) :
    Metadata.ofObject? (.object (Json.setField (some "annotations") value fs)) =
      some { m with annotations := a } := by
  obtain ⟨name, ns, version, annotations, hms, hn, hk, hv, -⟩ := ofObject?_iff.1 h
  refine ofObject?_iff.2 ⟨name, ns, version, .value value, ?_, hn, hk, hv, ha⟩
  rw [Json.members?_setField hms]
  simp

/-- Setting the version of metadata changes nothing else that is read of them. -/
theorem Metadata.ofObject?_setVersion {fs : Json.Fields} {m : Metadata}
    (h : Metadata.ofObject? (.object fs) = some m) (version : String) :
    Metadata.ofObject? (.object (Json.setField (some "resourceVersion") (.ofText version) fs)) =
      some { m with version := some version } := by
  obtain ⟨name, ns, _, annotations, hms, hn, hk, -, ha⟩ := ofObject?_iff.1 h
  refine ofObject?_iff.2 ⟨name, ns, .value (.ofText version), annotations, ?_, hn, hk, rfl, ha⟩
  rw [Json.members?_setField hms]
  simp

/-- An object is read as a pod from two members, its metadata and its status. -/
theorem ofObject?_iff {fs : Json.Fields} {p : Pod} :
    ofObject? (.object fs) = some p ↔ ∃ metadata status m s,
      (Json.object fs).members? ["metadata", "status"] = some [metadata, status] ∧
      metadata.required? Metadata.ofObject? = some m ∧
      status.defaulted? .empty Status.ofObject? = some s ∧ ofParts m s = p := by
  unfold ofObject?
  constructor
  · intro h
    obtain ⟨ms, hms, h⟩ := Option.bind_eq_some_iff.1 h
    split at h
    case h_1 metadata status =>
      simp only [Option.bind_eq_bind, Option.bind_eq_some_iff] at h
      obtain ⟨m, hm, s, hs, hp⟩ := h
      exact ⟨metadata, status, m, s, hms, hm, hs, by simpa using hp⟩
    case h_2 => cases h
  · rintro ⟨metadata, status, m, s, hms, hm, hs, rfl⟩
    rw [hms]
    simp [hm, hs]

/-! ## The patch -/

theorem annotationsToJson_eq (a : Annotations) :
    annotationsToJson a = .object (a.entries.map textField) := by
  unfold annotationsToJson Json.ofFields
  rw [List.map_map]
  rfl

/-- The texts of an object after those of a patch, and what they are read as. -/
theorem annotationsOfJson?_merge {texts : Json.Fields} (hnames : (texts.map Prod.fst).Nodup)
    {a : Annotations} (h : annotationsOfJson? (.object texts) = some a) (more : Annotations) :
    annotationsOfJson? (.object (Json.mergeFields (more.entries.map textField) texts)) =
      some (a.merge more) := by
  unfold Annotations.merge
  generalize more.entries = entries
  induction entries generalizing texts a with
  | nil => exact h
  | cons e entries ih =>
    rw [List.map_cons, textField, Json.mergeFields_text]
    exact ih (Json.nodup_setField hnames _ _) (annotationsOfJson?_setField hnames h e.1 e.2)

/-- A patch of texts is seen in what it is merged into: its own texts first, then those that were
there. -/
theorem field?_merge (more : Annotations) (texts : Json.Fields) (key : String) :
    Json.field? (some key) (Json.mergeFields (more.entries.map textField) texts) =
      ((more.get? key).map Json.ofText).or (Json.field? (some key) texts) := by
  have hnames := more.names_ne
  unfold Annotations.get?
  generalize more.entries = entries at hnames ⊢
  induction entries generalizing texts with
  | nil => rfl
  | cons e entries ih =>
    obtain ⟨hfirst, hrest⟩ := List.pairwise_cons.1 hnames
    rw [List.map_cons, textField, Json.mergeFields_text, ih _ hrest, Json.field?_setField,
      Annotations.lookup]
    by_cases hkey : e.1 = key
    · -- no later entry has the name of this one, so nothing is written over it
      have hnone : Annotations.lookup key entries = none :=
        Annotations.lookup_eq_none fun e' he' heq => hfirst e' he' (hkey.trans heq.symm)
      rw [hnone, if_pos hkey, if_pos (congrArg some hkey)]
      rfl
    · rw [if_neg hkey, if_neg (by simpa using hkey)]

/-- The texts of the annotations after the patch. -/
def patchedTexts (more : Annotations) (metadata : Json.Fields) : Json.Fields :=
  Json.mergeFields (more.entries.map textField)
    ((Json.field? (some "annotations") metadata).getD .null).fields

/-- The metadata after the patch. -/
def patchedMetadata (p : Pod) (more : Annotations) (metadata : Json.Fields) : Json.Fields :=
  let annotated :=
    Json.setField (some "annotations") (.object (patchedTexts more metadata)) metadata
  match p.version with
  | some version => Json.setField (some "resourceVersion") (.ofText version) annotated
  | none => annotated

/-- The patch of the annotations reaches the metadata and nothing else of an object. -/
theorem merge_annotationPatch (p : Pod) (more : Annotations) {fields metadata : Json.Fields}
    (hmetadata : Json.field? (some "metadata") fields = some (.object metadata)) :
    Json.merge (p.annotationPatch more) (.object fields) =
      .object (Json.setField (some "metadata") (.object (p.patchedMetadata more metadata))
        fields) := by
  -- the annotations come first in the patch, and what follows them is at most the version
  have hrest : ∀ rest,
      Json.merge (.object [(some "metadata",
          .object ((some "annotations", annotationsToJson more) :: rest))]) (.object fields) =
        .object (Json.setField (some "metadata") (.object (Json.mergeFields rest
          (Json.setField (some "annotations") (.object (patchedTexts more metadata)) metadata)))
          fields) := by
    intro rest
    rw [Json.merge, Json.mergeFields_object, annotationsToJson_eq]
    show Json.object (Json.mergeFields [] (Json.setField _ (.object (Json.mergeFields _
      ((Json.field? (some "metadata") fields).getD .null).fields)) fields)) = _
    rw [hmetadata, Option.getD_some]
    show Json.object (Json.mergeFields [] (Json.setField _ (.object (Json.mergeFields
      (_ :: rest) metadata)) fields)) = _
    rw [Json.mergeFields_object, Json.mergeFields]
    rfl
  unfold annotationPatch patchedMetadata
  cases p.version with
  | none =>
    refine (hrest []).trans ?_
    rw [Json.mergeFields]
  | some version =>
    refine (hrest [(some "resourceVersion", .ofText version)]).trans ?_
    rw [Json.mergeFields_text, Json.mergeFields]

/-- What the metadata say of annotations, and what is read from it. -/
theorem Metadata.annotations_texts {metadata : Json.Fields} {m : Metadata}
    (h : Metadata.ofObject? (.object metadata) = some m) :
    annotationsOfJson? (.object
      ((Json.field? (some "annotations") metadata).getD .null).fields) = some m.annotations := by
  obtain ⟨_, _, _, annotations, hms, -, -, -, ha⟩ := ofObject?_iff.1 h
  obtain ⟨-, hfields⟩ := Json.forall₂_members? hms
  simp only [List.forall₂_cons, List.forall₂_nil_left_iff, and_true] at hfields
  rcases Json.field?_of_member? hfields.2.2.2 with ⟨j, rfl, hj⟩ | ⟨rfl, hnone⟩
  · obtain ⟨entries, rfl, -⟩ := exists_textFields ha
    rw [hj]
    exact ha
  · have hempty : Annotations.empty = m.annotations := Option.some.inj ha
    rw [hnone, ← hempty]
    rfl

/-- The version that metadata are read with is their field of that name. -/
theorem Metadata.version_field {metadata : Json.Fields} {m : Metadata} {version : String}
    (h : Metadata.ofObject? (.object metadata) = some m) (hversion : m.version = some version) :
    Json.field? (some "resourceVersion") metadata = some (.ofText version) := by
  obtain ⟨_, _, v, _, hms, -, -, hv, -⟩ := ofObject?_iff.1 h
  obtain ⟨-, hfields⟩ := Json.forall₂_members? hms
  simp only [List.forall₂_cons, List.forall₂_nil_left_iff, and_true] at hfields
  rw [hversion] at hv
  rcases Json.field?_of_member? hfields.2.2.1 with ⟨j, rfl, hj⟩ | ⟨rfl, -⟩
  · rw [hj]
    cases j with
    | string text =>
      cases text with
      | some text =>
        cases hv
        rfl
      | none => cases hv
    | null => cases hv
    | _ => cases hv
  · cases hv

/-- Metadata after the patch are read as those before it, with the annotations merged. The version
that the patch insists on is the one that was there. -/
theorem Metadata.ofObject?_patched (p : Pod) (more : Annotations) {metadata : Json.Fields}
    {m : Metadata} (h : Metadata.ofObject? (.object metadata) = some m)
    (hnames : ∀ texts, Json.field? (some "annotations") metadata = some (.object texts) →
      (texts.map Prod.fst).Nodup) (hversion : m.version = p.version) :
    Metadata.ofObject? (.object (p.patchedMetadata more metadata)) =
      some { m with annotations := m.annotations.merge more } := by
  have hnodup : (((Json.field? (some "annotations") metadata).getD .null).fields.map
      Prod.fst).Nodup := by
    cases hfound : Json.field? (some "annotations") metadata with
    | none => exact List.nodup_nil
    | some j =>
      cases j with
      | object texts => exact hnames texts hfound
      | _ => exact List.nodup_nil
  have hmerged := annotationsOfJson?_merge hnodup (annotations_texts h) more
  have hannotated := ofObject?_setAnnotations h hmerged
  unfold patchedMetadata
  cases hp : p.version with
  | none => exact hannotated
  | some version =>
    refine (ofObject?_setVersion hannotated version).trans ?_
    rw [← hp, ← hversion]

theorem field?_patchedMetadata_annotations (p : Pod) (more : Annotations)
    (metadata : Json.Fields) :
    Json.field? (some "annotations") (p.patchedMetadata more metadata) =
      some (.object (patchedTexts more metadata)) := by
  unfold patchedMetadata
  cases p.version with
  | none =>
    dsimp only
    rw [Json.field?_setField, if_pos rfl]
  | some version =>
    dsimp only
    rw [Json.field?_setField, if_neg (by decide), Json.field?_setField, if_pos rfl]

/-- Apart from the annotations the patch writes nothing but the version that is there. -/
theorem field?_patchedMetadata {p : Pod} (more : Annotations) {metadata : Json.Fields}
    {m : Metadata} (h : Metadata.ofObject? (.object metadata) = some m)
    (hversion : m.version = p.version) {name : String} (hname : name ≠ "annotations") :
    Json.field? (some name) (p.patchedMetadata more metadata) =
      Json.field? (some name) metadata := by
  have hother : some "annotations" ≠ some name := fun heq => hname (Option.some.inj heq).symm
  unfold patchedMetadata
  cases hp : p.version with
  | none =>
    dsimp only
    rw [Json.field?_setField, if_neg hother]
  | some version =>
    dsimp only
    rw [Json.field?_setField, Json.field?_setField, if_neg hother]
    by_cases hkey : some "resourceVersion" = some name
    · -- the version is written again, and it is the one that was read
      rw [if_pos hkey, ← hkey, Metadata.version_field h (hversion.trans hp)]
    · rw [if_neg hkey]

end Pod

/-! ## The object after the patch -/

/-- The value under a path of names, each the name of a field of the object before. -/
def Json.under? : List String → Json → Option Json
  | [], j => some j
  | name :: path, j => (field? (some name) j.fields).bind (under? path)

theorem Json.under?_object (name : String) (path : List String) (fs : Json.Fields) :
    (Json.object fs).under? (name :: path) = (Json.field? (some name) fs).bind (under? path) := rfl

theorem Json.under?_single (name : String) (j : Json) :
    j.under? [name] = Json.field? (some name) j.fields :=
  Option.bind_fun_some _

/-- **The patch of the annotations of a pod is an insertion.** An object that is read as a pod with
the version of the given one, and that names no annotation twice, is read after the patch as the
same pod with the annotations inserted. Every other field of the object, every other field of its
metadata and every other annotation is as it was, and the patch insists on a version exactly if the
given pod has one. -/
theorem annotation_patch_annotates {p old : Pod} (more : Annotations)
    {fields metadata : Json.Fields}
    (hmetadata : Json.field? (some "metadata") fields = some (.object metadata))
    (hnames : ∀ texts, Json.field? (some "annotations") metadata = some (.object texts) →
      (texts.map Prod.fst).Nodup)
    (hold : Pod.ofObject? (.object fields) = some old) (hversion : old.version = p.version) :
    ∃ merged, Json.merge (p.annotationPatch more) (.object fields) = .object merged ∧
      Pod.ofObject? (.object merged) = some (old.annotate more) ∧
      (∀ name, name ≠ "metadata" →
        (Json.object merged).under? [name] = (Json.object fields).under? [name]) ∧
      (∀ name, name ≠ "annotations" →
        (Json.object merged).under? ["metadata", name] =
          (Json.object fields).under? ["metadata", name]) ∧
      (∀ key,
        (Json.object merged).under? ["metadata", "annotations", key] =
          ((more.get? key).map Json.ofText).or
            ((Json.object fields).under? ["metadata", "annotations", key])) ∧
      (p.annotationPatch more).under? ["metadata", "resourceVersion"] =
        p.version.map Json.ofText := by
  obtain ⟨member, status, m, s, hms, hm, hs, rfl⟩ := Pod.ofObject?_iff.1 hold
  -- the metadata that the reader took are those that the patch is merged into
  have hmember : member = .value (.object metadata) := by
    obtain ⟨-, hfields⟩ := Json.forall₂_members? hms
    simp only [List.forall₂_cons] at hfields
    rcases Json.field?_of_member? hfields.1 with ⟨j, rfl, hj⟩ | ⟨-, hnone⟩
    · rw [hmetadata] at hj
      rw [Option.some.inj hj]
    · rw [hmetadata] at hnone
      cases hnone
  subst hmember
  refine ⟨_, Pod.merge_annotationPatch p more hmetadata, ?_, fun name hname => ?_,
    fun name hname => ?_, fun key => ?_, ?_⟩
  · -- read back: only the member with the metadata has changed
    have hpatched := Pod.Metadata.ofObject?_patched p more hm hnames hversion
    refine Pod.ofObject?_iff.2 ⟨.value _, status, _, s, ?_, hpatched, hs, rfl⟩
    rw [Json.members?_setField hms]
    simp
  · rw [Json.under?_object, Json.under?_object, Json.field?_setField,
      if_neg fun heq => hname (Option.some.inj heq).symm]
  · rw [Json.under?_object, Json.under?_object, Json.field?_setField, if_pos rfl, hmetadata,
      Option.bind_some, Option.bind_some, Json.under?_single, Json.under?_single]
    exact Pod.field?_patchedMetadata more hm hversion hname
  · rw [Json.under?_object, Json.under?_object, Json.field?_setField, if_pos rfl, hmetadata,
      Option.bind_some, Option.bind_some, Json.under?_object, Json.under?_object,
      Pod.field?_patchedMetadata_annotations, Option.bind_some, Json.under?_single]
    refine (Pod.field?_merge more _ key).trans (congrArg _ ?_)
    cases Json.field? (some "annotations") metadata with
    | none => rfl
    | some j => exact (Json.under?_single key j).symm
  · unfold Pod.annotationPatch
    cases p.version <;> rfl

/-! ### An object with more than is read -/

/-- The metadata of a stored pod, with labels and an annotation of somebody else's. -/
def labelledMetadata : Json.Fields :=
  [(some "name", .ofText "runner-abc"), (some "namespace", .ofText "ci"),
    (some "labels", .ofFields [("app", .ofText "runner")]),
    (some "resourceVersion", .ofText "41"),
    (some "annotations", .ofFields [("example.com/owner", .ofText "team")])]

def labelledObject : Json.Fields :=
  [(some "kind", .ofText "Pod"), (some "metadata", .object labelledMetadata),
    (some "status", .ofFields [("phase", .ofText "Running")])]

def labelledPod : Pod where
  namespaceName := "ci"
  name := "runner-abc"
  version := some "41"
  annotations := .single "example.com/owner" "team"
  phase := .running
  containers := []
  conditions := []

/-- An object with labels, owners and a version, which the patch leaves alone. -/
theorem annotation_patch_annotates_labelled :
    Pod.ofObject? (.object labelledObject) = some labelledPod ∧
      ∃ merged,
        Json.merge (labelledPod.annotationPatch (.single Pod.runnerIdKey "7"))
          (.object labelledObject) = .object merged ∧
        Pod.ofObject? (.object merged) =
          some (labelledPod.annotate (.single Pod.runnerIdKey "7")) := by
  have hold : Pod.ofObject? (.object labelledObject) = some labelledPod := by rfl
  have hnames : ∀ texts, Json.field? (some "annotations") labelledMetadata = some (.object texts) →
      (texts.map Prod.fst).Nodup := by
    intro texts htexts
    cases htexts
    decide
  obtain ⟨merged, hmerged, hread, -⟩ :=
    annotation_patch_annotates (.single Pod.runnerIdKey "7") (by rfl) hnames hold rfl
  exact ⟨hold, merged, hmerged, hread⟩

end Quiesce
