import Mathlib.Data.List.Forall2
import SearchBridge.Document.Bulk
import SearchBridge.Proofs.Grouping
import SearchBridge.Proofs.ReadBack
/-!
The body of a bulk request, document by document.

A document is indexed under its own id or, if that is empty, under the value of its field `_id`.
Documents that all have such an id make up a body with two lines for each of them; otherwise the
first one that has none is what the body fails with.
-/

namespace SearchBridge

namespace StoredDocument

variable {isText : Text → Prop} {d : StoredDocument} {v : Json}

/-! ### Documents of texts -/

/-- A document whose id, names and values are texts of a kind. A field may have any number of
values, none included. -/
structure Textual (isText : Text → Prop) (d : StoredDocument) : Prop where
  id : ∃ id : Text, isText id ∧ d.id = .string id
  distinct : d.fields.keys.Nodup
  names : ∀ f ∈ d.fields, isText f.1
  values : ∀ f ∈ d.fields, ∃ texts : List Text, (∀ s ∈ texts, isText s) ∧ f.2 = texts.map .string

theorem Textual.of_grouped {isName : Text → Prop} (hid : ∃ id : Text, isText id ∧ d.id = .string id)
    (h : Grouped isName isText d.fields) (hnames : ∀ name, isName name → isText name) :
    d.Textual isText where
  id := hid
  distinct := h.distinct
  names f hf := hnames f.1 (h.names f hf)
  values f hf := by
    obtain ⟨texts, -, htexts, hvs⟩ := h.values f hf
    exact ⟨texts, fun s hs => (htexts s hs).1, hvs⟩

theorem keys_toMembers (d : StoredDocument) : d.toMembers.keys = d.fields.keys := by
  simp [toMembers, Ordered.keys]

theorem find?_toMembers (d : StoredDocument) (name : Text) :
    Ordered.find? d.toMembers name = (Ordered.find? d.fields name).map fieldValue := by
  rw [toMembers]
  induction d.fields with
  | nil => rfl
  | cons f fields ih =>
      rw [List.map_cons, Ordered.find?, Ordered.find?, ih]
      split <;> rfl

/-- A field of texts is sent as its only text, or else as an array of its texts. -/
theorem fieldValue_texts (texts : List Text) :
    (∃ s, texts = [s] ∧ fieldValue (texts.map .string) = .string s) ∨
      fieldValue (texts.map .string) = .array (texts.map .string) := by
  match texts with
  | [] => exact Or.inr rfl
  | [s] => exact Or.inl ⟨s, rfl, rfl⟩
  | s :: t :: texts => exact Or.inr rfl

/-- The document with a string as its id and strings as the values of its fields. -/
def ofStrings (id : String) (fields : List (String × List String)) : StoredDocument :=
  ⟨.string id, fields.map fun f => (Text.ofString f.1, f.2.map fun v => .string (Text.ofString v))⟩

/-- Strings are settled texts, so a document of strings is one of settled texts. -/
theorem textual_ofStrings {id : String} {fields : List (String × List String)}
    (h : (fields.map (·.1)).Nodup) : (ofStrings id fields).Textual Text.Settled where
  id := ⟨id, Text.settled_ofString id, rfl⟩
  distinct := by
    have hkeys : (ofStrings id fields).fields.keys = (fields.map (·.1)).map Text.ofString := by
      simp [ofStrings, Ordered.keys]
    rw [hkeys]
    exact List.Pairwise.map Text.ofString (fun _ _ hne => mt Text.ofString_inj.mp hne) h
  names f hf := by
    obtain ⟨g, -, rfl⟩ := List.mem_map.mp hf
    exact Text.settled_ofString g.1
  values f hf := by
    obtain ⟨g, -, rfl⟩ := List.mem_map.mp hf
    refine ⟨g.2.map Text.ofString, fun s hs => ?_, by simp⟩
    obtain ⟨v, -, rfl⟩ := List.mem_map.mp hs
    exact Text.settled_ofString v

theorem Textual.find?_toMembers (h : d.Textual isText) {name : Text}
    (hfind : Ordered.find? d.toMembers name = some v) :
    ∃ texts : List Text, (∀ s ∈ texts, isText s) ∧
      Ordered.find? d.fields name = some (texts.map .string) ∧
      v = fieldValue (texts.map .string) := by
  rw [StoredDocument.find?_toMembers, Option.map_eq_some_iff] at hfind
  obtain ⟨vs, hvs, rfl⟩ := hfind
  obtain ⟨texts, htexts, hmap⟩ := h.values _ (Ordered.mem_of_find? hvs)
  change vs = texts.map .string at hmap
  exact ⟨texts, htexts, hmap ▸ hvs, by rw [hmap]⟩

/-! ### Ids -/

/-- The value under which a document is indexed: its own id unless that is empty, and then the
value of the field `_id` unless that is an empty text or an empty array. -/
inductive IndexedUnder (d : StoredDocument) : Json → Prop where
  | own {id : Text} (hid : d.id = .string id) (hfull : id ≠ []) : IndexedUnder d (.string id)
  | field {v : Json} (hid : d.id = .string []) (hfield : Ordered.find? d.toMembers idField = some v)
      (htext : v ≠ .string []) (hlist : v ≠ .array []) : IndexedUnder d v

/-- A document that can be indexed under some value. -/
def Identified (d : StoredDocument) : Prop :=
  d.id ≠ .string [] ∨
    ∃ v, Ordered.find? d.toMembers idField = some v ∧ v ≠ .string [] ∧ v ≠ .array []

theorem IndexedUnder.unique {w : Json} (hv : d.IndexedUnder v) (hw : d.IndexedUnder w) : v = w := by
  cases hv with
  | own hid hfull =>
      cases hw with
      | own hid' hfull' => exact hid.symm.trans hid'
      | field hid' => exact absurd (Json.string.inj (hid.symm.trans hid')) hfull
  | field hid hfield =>
      cases hw with
      | own hid' hfull' => exact absurd (Json.string.inj (hid'.symm.trans hid)) hfull'
      | field hid' hfield' => exact Option.some.inj (hfield.symm.trans hfield')

theorem Textual.identified_iff (h : d.Textual isText) : d.Identified ↔ ∃ v, d.IndexedUnder v := by
  obtain ⟨id, -, hid⟩ := h.id
  constructor
  · rintro (hown | ⟨v, hfield, htext, hlist⟩)
    · exact ⟨_, .own hid fun hempty => hown (hempty ▸ hid)⟩
    · by_cases hempty : id = []
      · exact ⟨v, .field (hempty ▸ hid) hfield htext hlist⟩
      · exact ⟨_, .own hid hempty⟩
  · rintro ⟨v, hunder⟩
    cases hunder with
    | own hid hfull => exact Or.inl fun hempty => hfull (Json.string.inj (hid.symm.trans hempty))
    | field _ hfield htext hlist => exact Or.inr ⟨v, hfield, htext, hlist⟩

/-- A field of texts counts as set unless it is sent as an empty text or an empty array. -/
theorem isSet_fieldValue {texts : List Text} (hv : v = fieldValue (texts.map .string)) :
    v.isSet = true ↔ v ≠ .string [] ∧ v ≠ .array [] := by
  rcases fieldValue_texts texts with ⟨s, -, hvalue⟩ | hvalue
  · rw [hv, hvalue]
    simp [Json.isSet]
  · rw [hv, hvalue]
    simp [Json.isSet]

theorem Textual.indexId?_eq_some_iff (h : d.Textual isText) :
    d.indexId? = some v ↔ d.IndexedUnder v := by
  obtain ⟨id, -, hid⟩ := h.id
  rw [indexId?]
  cases id with
  | nil =>
      have hunset : ¬d.id.isSet = true := by rw [hid]; decide
      rw [if_neg hunset, Option.filter_eq_some_iff]
      constructor
      · rintro ⟨hfield, hset⟩
        obtain ⟨texts, -, -, hvalue⟩ := h.find?_toMembers hfield
        obtain ⟨htext, hlist⟩ := (isSet_fieldValue hvalue).mp hset
        exact .field hid hfield htext hlist
      · intro hunder
        cases hunder with
        | own hid' hfull => exact absurd (Json.string.inj (hid'.symm.trans hid)) hfull
        | field _ hfield htext hlist =>
            obtain ⟨texts, -, -, hvalue⟩ := h.find?_toMembers hfield
            exact ⟨hfield, (isSet_fieldValue hvalue).mpr ⟨htext, hlist⟩⟩
  | cons p t =>
      have hset : d.id.isSet = true := by rw [hid]; rfl
      have hown : d.IndexedUnder (.string (p :: t)) := .own hid (List.cons_ne_nil p t)
      rw [if_pos hset, hid, Option.some.injEq]
      exact ⟨fun hv => hv ▸ hown, fun hunder => hown.unique hunder⟩

theorem Textual.indexId?_eq_none_iff (h : d.Textual isText) :
    d.indexId? = none ↔ ¬d.Identified := by
  rw [Option.eq_none_iff_forall_not_mem, h.identified_iff, not_exists]
  exact forall_congr' fun v => not_congr h.indexId?_eq_some_iff

/-! ### Lines -/

def action (id : Json) : Json :=
  .object [("index", .object [("_type", .string documentType), (idField, id)])]

/-- The two lines of a document that is indexed under a value. -/
def linesUnder (d : StoredDocument) (id : Json) : List Json := [action id, .object d.source]

/-- The text of values that are written on lines of their own. -/
def bodyOf (lines : List Json) : String := String.ofList (lines.flatMap fun v => v.write ++ ['\n'])

theorem bulkLines_eq (d : StoredDocument) :
    d.bulkLines = d.indexId?.elim (.error ⟨d.source⟩) fun id => .ok (d.linesUnder id) := by
  rw [bulkLines]
  cases d.indexId? <;> rfl

/-- Documents that all have an id make up a body with two lines for each of them, in order. -/
theorem bulkBody_of_ids {ds : List StoredDocument} {ids : List Json}
    (h : List.Forall₂ (fun d id => d.indexId? = some id) ds ids) :
    bulkBody ds = .ok (bodyOf (List.zipWith linesUnder ds ids).flatten) := by
  have hlines : ds.mapM bulkLines = .ok (List.zipWith linesUnder ds ids) := by
    induction h with
    | nil => rfl
    | cons hid _ ih =>
        rw [List.mapM_cons, bulkLines_eq, hid, ih]
        rfl
  rw [bulkBody, hlines]
  rfl

/-- The first document without an id is what the body fails with. -/
theorem bulkBody_of_first {before later : List StoredDocument}
    (hbefore : ∀ b ∈ before, b.indexId? ≠ none) (hd : d.indexId? = none) :
    bulkBody (before ++ d :: later) = .error ⟨d.source⟩ := by
  have hlines : (before ++ d :: later).mapM bulkLines = .error ⟨d.source⟩ := by
    induction before with
    | nil =>
        rw [List.nil_append, List.mapM_cons, bulkLines_eq, hd]
        rfl
    | cons b before ih =>
        rw [List.forall_mem_cons] at hbefore
        obtain ⟨id, hid⟩ := Option.ne_none_iff_exists'.mp hbefore.1
        rw [List.cons_append, List.mapM_cons, bulkLines_eq, hid, ih hbefore.2]
        rfl
  rw [bulkBody, hlines]
  rfl

theorem exists_ids {ds : List StoredDocument} (h : ∀ d ∈ ds, d.indexId? ≠ none) :
    ∃ ids, List.Forall₂ (fun d id => d.indexId? = some id) ds ids := by
  induction ds with
  | nil => exact ⟨[], .nil⟩
  | cons d ds ih =>
      rw [List.forall_mem_cons] at h
      obtain ⟨id, hid⟩ := Option.ne_none_iff_exists'.mp h.1
      obtain ⟨ids, hids⟩ := ih h.2
      exact ⟨id :: ids, .cons hid hids⟩

theorem exists_first {ds : List StoredDocument} (h : ∃ d ∈ ds, d.indexId? = none) :
    ∃ before d later, ds = before ++ d :: later ∧ (∀ b ∈ before, b.indexId? ≠ none) ∧
      d.indexId? = none := by
  induction ds with
  | nil => simp at h
  | cons d ds ih =>
      by_cases hd : d.indexId? = none
      · exact ⟨[], d, ds, rfl, by simp, hd⟩
      · rw [List.exists_mem_cons_iff, or_iff_right hd] at h
        obtain ⟨before, first, later, rfl, hbefore, hfirst⟩ := ih h
        exact ⟨d :: before, first, later, rfl, List.forall_mem_cons.mpr ⟨hd, hbefore⟩, hfirst⟩

/-- Of documents of texts, the ids are the values they are indexed under. -/
theorem indexedUnder_of_ids {ds : List StoredDocument} {ids : List Json}
    (h : ∀ d ∈ ds, d.Textual isText)
    (hids : List.Forall₂ (fun d id => d.indexId? = some id) ds ids) :
    List.Forall₂ IndexedUnder ds ids :=
  ((List.forall₂_and_left ds ids).mpr ⟨h, hids⟩).imp fun _ _ hd =>
    hd.1.indexId?_eq_some_iff.mp hd.2

/-- Documents of texts that can all be indexed make up a body under the values they are indexed
under. -/
theorem bulkBody_of_identified {ds : List StoredDocument} (h : ∀ d ∈ ds, d.Textual isText)
    (hall : ∀ d ∈ ds, d.Identified) :
    ∃ ids, List.Forall₂ IndexedUnder ds ids ∧
      bulkBody ds = .ok (bodyOf (List.zipWith linesUnder ds ids).flatten) := by
  obtain ⟨ids, hids⟩ := exists_ids fun d hd hid =>
    (h d hd).indexId?_eq_none_iff.mp hid (hall d hd)
  exact ⟨ids, indexedUnder_of_ids h hids, bulkBody_of_ids hids⟩

/-- Of documents of texts that cannot all be indexed, the first that cannot is what the body fails
with. -/
theorem bulkBody_of_unidentified {ds : List StoredDocument} (h : ∀ d ∈ ds, d.Textual isText)
    (hmissing : ∃ d ∈ ds, ¬d.Identified) :
    ∃ before d later, ds = before ++ d :: later ∧ (∀ b ∈ before, b.Identified) ∧
      ¬d.Identified ∧ bulkBody ds = .error ⟨d.source⟩ := by
  obtain ⟨d, hd, hmissing⟩ := hmissing
  obtain ⟨before, first, later, rfl, hbefore, hfirst⟩ :=
    exists_first ⟨d, hd, (h d hd).indexId?_eq_none_iff.mpr hmissing⟩
  refine ⟨before, first, later, rfl, fun b hb => ?_, ?_, bulkBody_of_first hbefore hfirst⟩
  · by_contra hunidentified
    exact hbefore b hb ((h b (by simp [hb])).indexId?_eq_none_iff.mpr hunidentified)
  · exact (h first (by simp)).indexId?_eq_none_iff.mp hfirst

/-! ### Legible lines -/

theorem legible_fieldValue {texts : List Text} (h : ∀ s ∈ texts, s.Settled) :
    (fieldValue (texts.map .string)).Legible := by
  rcases fieldValue_texts texts with ⟨s, rfl, hvalue⟩ | hvalue
  · exact hvalue ▸ .string (h s List.mem_cons_self)
  · rw [hvalue]
    refine .array fun v hv => ?_
    obtain ⟨s, hs, rfl⟩ := List.mem_map.mp hv
    exact .string (h s hs)

theorem legible_action {id : Json} (h : id.Legible) : (action id).Legible := by
  have hindex : (Json.object [("_type", .string documentType), (idField, id)]).Legible := by
    refine Json.legible_object [("_type", .string documentType), (idField, id)] ?_ ?_
    · simp [idField]
    · simpa using ⟨.string (Text.settled_ofString documentType), h⟩
  exact hindex.member "index"

theorem Textual.legible_toMembers (h : d.Textual Text.Settled) :
    (Json.object d.toMembers).Legible := by
  refine .object (keys_toMembers d ▸ h.distinct) (fun m hm => ?_) (fun m hm => ?_)
  · obtain ⟨f, hf, rfl⟩ := List.mem_map.mp hm
    exact h.names f hf
  · obtain ⟨f, hf, rfl⟩ := List.mem_map.mp hm
    obtain ⟨texts, htexts, hvs⟩ := h.values f hf
    rw [hvs]
    exact legible_fieldValue htexts

theorem Textual.legible_source (h : d.Textual Text.Settled) : (Json.object d.source).Legible := by
  cases h.legible_toMembers with
  | object hdistinct hnames hvalues =>
      have hsub : d.source.Sublist d.toMembers := List.filter_sublist
      exact .object (hdistinct.sublist (hsub.map _)) (fun m hm => hnames m (hsub.mem hm))
        fun m hm => hvalues m (hsub.mem hm)

theorem Textual.legible_id (h : d.Textual Text.Settled) (hv : d.IndexedUnder v) : v.Legible := by
  cases hv with
  | own hid hfull =>
      obtain ⟨id, hsettled, hid'⟩ := h.id
      rw [hid] at hid'
      cases hid'
      exact .string hsettled
  | field _ hfield =>
      obtain ⟨texts, htexts, -, rfl⟩ := h.find?_toMembers hfield
      exact legible_fieldValue htexts

end StoredDocument

end SearchBridge
