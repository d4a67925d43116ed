import SearchBridge.Proofs.Indexing
/-!
Documents whose ids a search reports.

A search skips hits whose id is blank. What a document is indexed under has to be set only: an id of
its own that is blank will do, and so will an array of all the texts that were added under `_id`.
-/

namespace SearchBridge

namespace StoredDocument

variable {d : StoredDocument} {v : Json} {ds : List StoredDocument}

/-- A document with any text as its id, to which texts have been added under any names. -/
inductive Built : StoredDocument → Prop where
  | fresh (id : Text) : Built ⟨.string id, []⟩
  | add {d : StoredDocument} (h : Built d) (name : Text) (value : Option Text) :
      Built (d.add name value)

theorem Built.grouped (h : d.Built) : Grouped (fun _ => True) (fun _ => True) d.fields := by
  induction h with
  | fresh => exact .none
  | add _ _ _ ih => exact ih.add trivial fun _ _ => trivial

theorem Built.textual (h : d.Built) : d.Textual fun _ => True := by
  refine .of_grouped ?_ h.grouped fun _ _ => trivial
  induction h with
  | fresh id => exact ⟨id, trivial, rfl⟩
  | add _ _ _ ih => exact ih

/-! ### Usable ids -/

/-- A single text that is not blank. -/
def Usable (v : Json) : Prop := ∃ id : Text, v = .string id ∧ Text.isBlank id = false

/-- One of the two places for an id has a usable one. -/
def HasUsableId (d : StoredDocument) : Prop :=
  Usable d.id ∨ ∃ v, Ordered.find? d.toMembers idField = some v ∧ Usable v

/-- The document's own id is not blank, or else it is empty and one text was added under `_id`. -/
def WellNamed (d : StoredDocument) : Prop :=
  Usable d.id ∨
    d.id = .string [] ∧ ∃ text : Text, Ordered.find? d.fields idField = some [.string text]

/-- The actions of a bulk request for documents have ids that a search reports, and documents
without such an id are refused. -/
structure CarriesUsableIds (ds : List StoredDocument) : Prop where
  reported : ∀ body, bulkBody ds = .ok body → ∃ ids : List Text,
    List.Forall₂ IndexedUnder ds (ids.map .string) ∧
      body = bodyOf (List.zipWith linesUnder ds (ids.map .string)).flatten ∧
      (∀ id ∈ ids, Text.isBlank id = false) ∧
      ∀ hits : List Json, hits.map (·.field? idField) = ids.map (some <| .string ·) →
        SearchReply.idsOf idField hits = ids
  refused : ∀ d ∈ ds, ¬d.HasUsableId → ∃ fault, bulkBody ds = .error fault

theorem Built.not_blank (h : d.Built) {name : Text} {texts : List Text}
    (hfind : Ordered.find? d.fields name = some (texts.map .string)) :
    ∀ s ∈ texts, Text.isBlank s = false := by
  obtain ⟨texts', -, htexts, hmap⟩ := h.grouped.values _ (Ordered.mem_of_find? hfind)
  have hinj : Function.Injective Json.string := fun _ _ => Json.string.inj
  obtain rfl : texts = texts' := List.map_injective_iff.mpr hinj hmap
  exact fun s hs => (htexts s hs).2

theorem Built.single_not_blank (h : d.Built) {name text : Text}
    (hfind : Ordered.find? d.fields name = some [.string text]) : Text.isBlank text = false :=
  have hone : Ordered.find? d.fields name = some ([text].map .string) := hfind
  h.not_blank hone text (List.mem_singleton_self text)

theorem not_usable_empty : ¬Usable (.string []) := by
  rintro ⟨id, hid, hblank⟩
  cases hid
  cases hblank

theorem Built.hasUsableId (h : d.Built) (hnamed : d.WellNamed) : d.HasUsableId := by
  rcases hnamed with hown | ⟨-, text, hfind⟩
  · exact Or.inl hown
  · refine Or.inr ⟨.string text, ?_, text, rfl, h.single_not_blank hfind⟩
    rw [find?_toMembers, hfind]
    rfl

/-- The value that a document is indexed under is usable exactly if the document is well named. -/
theorem Built.usable_iff (h : d.Built) (hunder : d.IndexedUnder v) :
    Usable v ↔ d.WellNamed := by
  cases hunder with
  | own hid hfull =>
      rw [WellNamed, hid]
      refine ⟨Or.inl, fun hnamed => hnamed.resolve_right fun hempty => ?_⟩
      exact hfull (Json.string.inj hempty.1)
  | field hid hfield _ hlist =>
      obtain ⟨texts, -, hfind, rfl⟩ := h.textual.find?_toMembers hfield
      constructor
      · rintro ⟨id, hvalue, -⟩
        rcases fieldValue_texts texts with ⟨s, rfl, -⟩ | harray
        · exact Or.inr ⟨hid, s, hfind⟩
        · rw [harray] at hvalue
          cases hvalue
      · rintro (hown | ⟨-, text, hfind'⟩)
        · rw [hid] at hown
          exact absurd hown not_usable_empty
        · have hblank := h.single_not_blank hfind'
          rw [hfind, Option.some.injEq] at hfind'
          rw [hfind']
          exact ⟨text, rfl, hblank⟩

theorem idsOf_of_not_blank {ids : List Text} {hits : List Json}
    (hids : ∀ id ∈ ids, Text.isBlank id = false)
    (h : hits.map (·.field? idField) = ids.map (some <| .string ·)) :
    SearchReply.idsOf idField hits = ids := by
  have htexts : hits.map (·.textField idField) = ids := by
    have hmap := congrArg (List.map fun v : Option Json => (v.bind Json.scalarText?).getD []) h
    rw [List.map_map, List.map_map] at hmap
    exact hmap.trans (List.map_id ids)
  rw [SearchReply.idsOf, htexts, List.filter_eq_self]
  intro id hid
  rw [hids id hid]
  rfl

theorem exists_texts {ids : List Json} (h : ∀ v ∈ ids, Usable v) :
    ∃ texts : List Text, ids = texts.map .string ∧ ∀ s ∈ texts, Text.isBlank s = false := by
  induction ids with
  | nil => exact ⟨[], rfl, by simp⟩
  | cons v ids ih =>
      rw [List.forall_mem_cons] at h
      obtain ⟨id, rfl, hblank⟩ := h.1
      obtain ⟨texts, rfl, htexts⟩ := ih h.2
      exact ⟨id :: texts, rfl, List.forall_mem_cons.mpr ⟨hblank, htexts⟩⟩

/-- The values that documents are indexed under are usable exactly if all of them are well
named. -/
theorem forall_usable_iff {ids : List Json} (h : ∀ d ∈ ds, d.Built)
    (hunder : List.Forall₂ IndexedUnder ds ids) :
    (∀ v ∈ ids, Usable v) ↔ ∀ d ∈ ds, d.WellNamed := by
  induction hunder with
  | nil => simp
  | cons hid _ ih =>
      rw [List.forall_mem_cons] at h
      rw [List.forall_mem_cons, List.forall_mem_cons, h.1.usable_iff hid, ih h.2]

/-- A bulk request for documents that were built by adding texts carries usable ids exactly if it is
refused, because one of them has no id at all, or all of them are well named. -/
theorem carriesUsableIds_iff (h : ∀ d ∈ ds, d.Built) :
    CarriesUsableIds ds ↔ ((∀ d ∈ ds, d.Identified) → ∀ d ∈ ds, d.WellNamed) := by
  have htextual : ∀ d ∈ ds, d.Textual fun _ => True := fun d hd => (h d hd).textual
  by_cases hall : ∀ d ∈ ds, d.Identified
  · obtain ⟨ids, hunder, hbody⟩ := bulkBody_of_identified htextual hall
    rw [imp_iff_right hall, ← forall_usable_iff h hunder]
    constructor
    · rintro ⟨hreported, -⟩
      obtain ⟨texts, htexts, -, hblank, -⟩ := hreported _ hbody
      have hunique : Relator.RightUnique IndexedUnder := fun _ _ _ => IndexedUnder.unique
      obtain rfl : ids = texts.map .string := hunique.forall₂ hunder htexts
      intro v hv
      obtain ⟨id, hid, rfl⟩ := List.mem_map.mp hv
      exact ⟨id, rfl, hblank id hid⟩
    · intro husable
      obtain ⟨texts, rfl, hblank⟩ := exists_texts husable
      refine ⟨fun body hbody' => ?_, fun d hd hnone => ?_⟩
      · rw [hbody, Except.ok.injEq] at hbody'
        exact ⟨texts, hunder, hbody'.symm, hblank, fun hits => idsOf_of_not_blank hblank⟩
      · have hnamed := (forall_usable_iff h hunder).mp husable d hd
        exact absurd ((h d hd).hasUsableId hnamed) hnone
  -- Without a body there is no action to look at, and every document is refused with the first.
  · obtain ⟨before, first, later, -, -, -, hbody⟩ :=
      bulkBody_of_unidentified htextual (by simpa using hall)
    refine iff_of_true ⟨fun body hbody' => ?_, fun _ _ _ => ⟨_, hbody⟩⟩ fun hall' =>
      absurd hall' hall
    rw [hbody] at hbody'
    cases hbody'

/-- A document that has one text under `_id` and two under another name. -/
def tagged : StoredDocument :=
  (((empty.add "_id" (some "n:1")).add "tag" (some "x")).add "_id" (some " ")).add "tag" (some "y")

theorem tagged_carries_usable_id :
    (∀ d ∈ [tagged], d.Built) ∧ (∃ body, bulkBody [tagged] = .ok body) ∧
      CarriesUsableIds [tagged] := by
  have hbuilt : ∀ d ∈ [tagged], d.Built :=
    List.forall_mem_singleton.mpr ((((Built.fresh "").add _ _).add _ _).add _ _ |>.add _ _)
  refine ⟨hbuilt, ⟨_, bulkBody_of_ids (.cons rfl .nil)⟩, (carriesUsableIds_iff hbuilt).mpr ?_⟩
  intro _
  exact List.forall_mem_singleton.mpr (Or.inr ⟨rfl, "n:1", by decide⟩)

def doubled : StoredDocument := (empty.add "_id" (some "a")).add "_id" (some "b")

def blankNamed : StoredDocument := ⟨.string " ", []⟩

theorem not_carriesUsableIds {body : String} (hnone : ¬d.HasUsableId)
    (hbody : bulkBody [d] = .ok body) : ¬CarriesUsableIds [d] := by
  intro h
  obtain ⟨fault, hfault⟩ := h.refused d (List.mem_singleton_self d) hnone
  rw [hbody] at hfault
  cases hfault

/-- An array of two ids is sent as an id, and so is a blank id. -/
theorem unusable_ids_sent :
    (doubled.Built ∧ ¬doubled.HasUsableId ∧
      bulkBody [doubled] =
        .ok (bodyOf [action (.array [.string "a", .string "b"]), .object []]) ∧
      ¬CarriesUsableIds [doubled]) ∧
    blankNamed.Built ∧ ¬blankNamed.HasUsableId ∧
      bulkBody [blankNamed] = .ok (bodyOf [action (.string " "), .object []]) ∧
      ¬CarriesUsableIds [blankNamed] := by
  have hdoubled : ¬doubled.HasUsableId := by
    rintro (hown | ⟨v, hv, id, rfl, -⟩)
    · exact not_usable_empty hown
    · cases hv
  have hblank : ¬blankNamed.HasUsableId := by
    rintro (⟨id, hid, hblank⟩ | ⟨v, hv, -⟩)
    · cases hid
      cases hblank
    · cases hv
  have hdoubledBody : bulkBody [doubled] =
      .ok (bodyOf [action (.array [.string "a", .string "b"]), .object []]) :=
    bulkBody_of_ids (.cons rfl .nil)
  have hblankBody : bulkBody [blankNamed] = .ok (bodyOf [action (.string " "), .object []]) :=
    bulkBody_of_ids (.cons rfl .nil)
  exact ⟨⟨((Built.fresh "").add _ _).add _ _, hdoubled, hdoubledBody,
    not_carriesUsableIds hdoubled hdoubledBody⟩,
    .fresh " ", hblank, hblankBody, not_carriesUsableIds hblank hblankBody⟩

end StoredDocument

end SearchBridge
