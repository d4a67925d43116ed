import Mathlib.Data.List.Forall2
import SearchBridge.Proofs.Grouping
/-!
Documents read from a reply, and the fields that are denied.

The fields of a document come from the members of its source one by one, and a member of one name
never touches the field of another. So it makes no difference whether members of denied names are
passed over or the fields they lead to are taken out of the document afterwards, and what such
members hold cannot show anywhere.
-/

namespace SearchBridge

def StoredDocument.without (denied : List Text) (d : StoredDocument) : StoredDocument :=
  { d with fields := d.fields.filter fun f => !denied.contains f.1 }

namespace Fetch

open StoredDocument

variable {denied : List Text} {fields : Ordered Text (List Json)}

/-! ### Adding the members of a source -/

theorem filter_addTo (keep : Text → Bool) (fields : Ordered Text (List Json)) (name : Text)
    (value : Option Text) :
    (addTo fields name value).filter (fun f => keep f.1) =
      if keep name then addTo (fields.filter fun f => keep f.1) name value
      else fields.filter fun f => keep f.1 := by
  cases value with
  | none => simp [addTo]
  | some s =>
      rw [addTo]
      split
      · next hblank => simp [addTo, hblank]
      · next hblank => rw [Ordered.filter_alter, addTo, if_neg hblank]

/-- What a member adds is taken out again with the fields of its name, and nothing else is. -/
theorem filter_addMember (keep : Text → Bool) (fields : Ordered Text (List Json))
    (m : Text × Json) :
    (addMember fields m).filter (fun f => keep f.1) =
      if keep m.1 then addMember (fields.filter fun f => keep f.1) m
      else fields.filter fun f => keep f.1 := by
  rw [addMember, addMember]
  induction valueTexts m.2 generalizing fields with
  | nil => simp
  | cons value values ih =>
      rw [List.foldl_cons, List.foldl_cons, ih, filter_addTo]
      cases keep m.1 with
      | true => rfl
      | false => rfl

theorem filter_addMembers (keep : Text → Bool) (fields : Ordered Text (List Json))
    (members : Ordered Text Json) :
    (addMembers fields members).filter (fun f => keep f.1) =
      addMembers (fields.filter fun f => keep f.1) (members.filter fun m => keep m.1) := by
  rw [addMembers, addMembers]
  induction members generalizing fields with
  | nil => rfl
  | cons m members ih =>
      rw [List.foldl_cons, ih, filter_addMember, List.filter_cons]
      cases keep m.1 with
      | true => rfl
      | false => rfl

/-! ### Denying fields -/

/-- Passing over the members of denied names leaves what is left of all fields without those. -/
theorem fieldsOf_denied (denied : List Text) (source : Ordered Text Json) :
    fieldsOf denied source = (fieldsOf [] source).filter fun f => !denied.contains f.1 := by
  rw [fieldsOf_nil, filter_addMembers (fun n => !denied.contains n), fieldsOf_eq]
  rfl

theorem document?_denied (denied : List Text) (item : Json) :
    document? denied item = (document? [] item).map (·.without denied) := by
  rw [document?, document?]
  split
  · rw [fieldsOf_denied]
    rfl
  · rfl

theorem documents_denied (denied : List Text) (root : Json) :
    documents root denied = (documents root []).map (List.map (·.without denied)) := by
  have hitem : document? denied = fun item => (document? [] item).map (·.without denied) :=
    funext (document?_denied denied)
  rw [documents, documents]
  cases items root with
  | error fault => rfl
  | ok items =>
      change Except.ok (items.filterMap (document? denied)) =
        .ok ((items.filterMap (document? [])).map (·.without denied))
      rw [hitem, List.map_filterMap]

theorem without_union (denied₁ denied₂ : List Text) (d : StoredDocument) :
    d.without (denied₁ ∪ denied₂) = (d.without denied₁).without denied₂ := by
  have hunion : ∀ n, (!(denied₁ ∪ denied₂).contains n) =
      (!denied₂.contains n && !denied₁.contains n) := by
    intro n
    rw [Bool.eq_iff_iff]
    simp [List.mem_union_iff, and_comm]
  simp only [without, List.filter_filter, hunion]

theorem documents_union (root : Json) (denied₁ denied₂ : List Text) :
    documents root (denied₁ ∪ denied₂) =
      (documents root denied₁).map (List.map (·.without denied₂)) := by
  rw [documents_denied (denied₁ ∪ denied₂), documents_denied denied₁]
  cases documents root [] with
  | error fault => rfl
  | ok docs =>
      change Except.ok (docs.map (·.without (denied₁ ∪ denied₂))) =
        .ok ((docs.map (·.without denied₁)).map (·.without denied₂))
      rw [List.map_map, funext (without_union denied₁ denied₂)]
      rfl

/-! ### What a field holds -/

/-- The texts that a source gives to the field of a name: those of the scalars under that name that
are not blank. -/
def shownTexts (source : Ordered Text Json) (name : Text) : List Text :=
  ((source.filter (·.1 = name)).flatMap (·.2.scalarTexts)).filter (!Text.isBlank ·)

/-- The values of a field, none if there is no such field. -/
def valuesAt (fields : Ordered Text (List Json)) (name : Text) : List Json :=
  (fields.find? name).getD []

theorem valuesAt_addTo (fields : Ordered Text (List Json)) (n name : Text) (value : Option Text) :
    valuesAt (addTo fields n value) name = valuesAt fields name ++
      if n = name then (value.toList.filter (!Text.isBlank ·)).map .string else [] := by
  cases value with
  | none => simp [addTo]
  | some s =>
      rw [addTo]
      split
      · next hblank => simp [hblank]
      · next hblank =>
        by_cases hn : n = name
        · subst hn
          simp [valuesAt, Ordered.find?_alter_self, hblank]
        · rw [valuesAt, Ordered.find?_alter_of_ne _ (Ne.symm hn), if_neg hn, List.append_nil]
          rfl

theorem filterMap_valueTexts (v : Json) : (valueTexts v).filterMap id = v.scalarTexts := by
  cases v with
  | array items => simp [valueTexts, Json.scalarTexts, List.filterMap_map]
  | _ => rfl

theorem valuesAt_addMember (fields : Ordered Text (List Json)) (m : Text × Json) (name : Text) :
    valuesAt (addMember fields m) name = valuesAt fields name ++
      if m.1 = name then (m.2.scalarTexts.filter (!Text.isBlank ·)).map .string else [] := by
  rw [addMember, ← filterMap_valueTexts]
  induction valueTexts m.2 generalizing fields with
  | nil => simp
  | cons value values ih =>
      rw [List.foldl_cons, ih, valuesAt_addTo, List.append_assoc]
      by_cases hm : m.1 = name
      · simp only [if_pos hm]
        cases value with
        | none => rfl
        | some s =>
            have hfirst : (some s :: values).filterMap id = [s] ++ values.filterMap id := rfl
            rw [hfirst, List.filter_append, List.map_append]
            rfl
      · simp only [if_neg hm, List.append_nil]

theorem valuesAt_addMembers (fields : Ordered Text (List Json)) (members : Ordered Text Json)
    (name : Text) :
    valuesAt (addMembers fields members) name =
      valuesAt fields name ++ (shownTexts members name).map .string := by
  rw [addMembers]
  induction members generalizing fields with
  | nil => simp [shownTexts]
  | cons m members ih =>
      rw [List.foldl_cons, ih, valuesAt_addMember, List.append_assoc]
      by_cases hm : m.1 = name
      · simp [shownTexts, hm]
      · simp [shownTexts, hm]

theorem keys_addTo (fields : Ordered Text (List Json)) (name : Text) (value : Option Text) :
    (addTo fields name value).keys = fields.keys ∨
      name ∉ fields.keys ∧ (addTo fields name value).keys = fields.keys ++ [name] := by
  cases value with
  | none => exact Or.inl rfl
  | some s =>
      rw [addTo]
      split
      · exact Or.inl rfl
      · rw [Ordered.keys_alter]
        split
        · exact Or.inl rfl
        · next hnew => exact Or.inr ⟨hnew, rfl⟩

/-- A member adds its name at most, as the last one and only if it is new. -/
theorem keys_addMember (fields : Ordered Text (List Json)) (m : Text × Json) :
    (addMember fields m).keys = fields.keys ∨
      m.1 ∉ fields.keys ∧ (addMember fields m).keys = fields.keys ++ [m.1] := by
  rw [addMember]
  induction valueTexts m.2 generalizing fields with
  | nil => exact Or.inl rfl
  | cons value values ih =>
      rw [List.foldl_cons]
      rcases keys_addTo fields m.1 value with hsame | ⟨hnew, hadded⟩
      · rw [← hsame]
        exact ih _
      · -- The name is there by now, so that no later value adds it again.
        rcases ih (addTo fields m.1 value) with hsame | ⟨hnew', -⟩
        · exact Or.inr ⟨hnew, hsame.trans hadded⟩
        · rw [hadded] at hnew'
          exact absurd (List.mem_append_right _ (List.mem_singleton_self _)) hnew'

theorem keys_addMembers (fields : Ordered Text (List Json)) (members : Ordered Text Json) :
    ∃ added, added.Sublist members.keys ∧
      (addMembers fields members).keys = fields.keys ++ added := by
  rw [addMembers]
  induction members generalizing fields with
  | nil => exact ⟨[], .slnil, (List.append_nil _).symm⟩
  | cons m members ih =>
      obtain ⟨added, hadded, hkeys⟩ := ih (addMember fields m)
      rw [List.foldl_cons, hkeys]
      rcases keys_addMember fields m with hsame | ⟨-, hlast⟩
      · exact ⟨added, hadded.cons m.1, by rw [hsame]⟩
      · exact ⟨m.1 :: added, hadded.cons_cons m.1, by rw [hlast, List.append_assoc]; rfl⟩

theorem grouped_addMembers (members : Ordered Text Json)
    (h : Grouped (fun _ => True) (fun _ => True) fields) :
    Grouped (fun _ => True) (fun _ => True) (addMembers fields members) := by
  have hmember : ∀ fields m, Grouped (fun _ => True) (fun _ => True) fields →
      Grouped (fun _ => True) (fun _ => True) (addMember fields m) := by
    intro fields m hfields
    rw [addMember]
    induction valueTexts m.2 generalizing fields with
    | nil => exact hfields
    | cons value values ih => exact ih _ (hfields.add trivial fun _ _ => trivial)
  rw [addMembers]
  induction members generalizing fields with
  | nil => exact h
  | cons m members ih => exact ih (hmember fields m h)

theorem mem_fields_iff (h : Grouped (fun _ => True) (fun _ => True) fields) {name : Text}
    {vs : List Json} : (name, vs) ∈ fields ↔ vs ≠ [] ∧ valuesAt fields name = vs := by
  constructor
  · intro hmem
    obtain ⟨texts, htexts, -, hvs⟩ := h.values _ hmem
    change vs = texts.map .string at hvs
    refine ⟨by simpa [hvs] using htexts, ?_⟩
    rw [valuesAt, Ordered.find?_of_mem h.distinct hmem]
    rfl
  · rintro ⟨hne, hvalues⟩
    apply Ordered.mem_of_find?
    cases hfind : fields.find? name with
    | none =>
        rw [valuesAt, hfind] at hvalues
        exact absurd hvalues.symm hne
    | some found =>
        rw [valuesAt, hfind] at hvalues
        exact congrArg some hvalues

theorem shownTexts_filter (denied : List Text) (source : Ordered Text Json) (name : Text) :
    shownTexts (source.filter fun m => !denied.contains m.1) name =
      if name ∈ denied then [] else shownTexts source name := by
  -- Only members of the name are looked at, so whether one is denied depends on the name alone.
  have hsame : ∀ m : Text × Json, (decide (m.1 = name) && !denied.contains m.1) =
      (decide (m.1 = name) && !denied.contains name) := by
    intro m
    by_cases hm : m.1 = name
    · rw [hm]
    · simp [hm]
  rw [shownTexts, List.filter_filter]
  simp only [hsame]
  split
  · next hdenied => simp [hdenied]
  · next hkept => simp [hkept, shownTexts]

/-- The fields of a document hold what a source shows under names that are not denied: in the order
of the source, under each name the texts of the scalars that are not blank, and no name that has
none. -/
structure Scraped (denied : List Text) (source : Ordered Text Json)
    (fields : Ordered Text (List Json)) : Prop where
  distinct : fields.keys.Nodup
  ordered : fields.keys.Sublist source.keys
  shown : ∀ name vs, (name, vs) ∈ fields ↔ name ∉ denied ∧ shownTexts source name ≠ [] ∧
    vs = (shownTexts source name).map .string

theorem scraped_fieldsOf (denied : List Text) (source : Ordered Text Json) :
    Scraped denied source (fieldsOf denied source) := by
  rw [fieldsOf_eq]
  have hgrouped : Grouped (fun _ => True) (fun _ => True)
      (addMembers [] (source.filter fun m => !denied.contains m.1)) := grouped_addMembers _ .none
  obtain ⟨added, hadded, hkeys⟩ :=
    keys_addMembers [] (source.filter fun m => !denied.contains m.1)
  refine ⟨hgrouped.distinct, ?_, fun name vs => ?_⟩
  · rw [hkeys]
    exact hadded.trans ((List.filter_sublist).map _)
  · have hnone : valuesAt [] name = [] := rfl
    rw [mem_fields_iff hgrouped, valuesAt_addMembers, shownTexts_filter, hnone, List.nil_append]
    split
    · next hdenied => simp [hdenied]
    · next hkept =>
      constructor
      · rintro ⟨hne, rfl⟩
        exact ⟨hkept, by simpa using hne, rfl⟩
      · rintro ⟨-, hne, rfl⟩
        exact ⟨by simpa using hne, rfl⟩

/-! ### The documents of a reply -/

def source? (item : Json) : Option (Ordered Text Json) :=
  (item.field? "_source").bind Json.members?

/-- A document is what an item of a reply holds. -/
structure HeldBy (denied : List Text) (item : Json) (d : StoredDocument) : Prop where
  id : d.id = .string (item.textField idField)
  fields : ∃ source, source? item = some source ∧ Scraped denied source d.fields

theorem document?_eq (denied : List Text) (item : Json) : document? denied item =
    (source? item).map fun source => ⟨.string (item.textField idField), fieldsOf denied source⟩ := by
  rw [document?, source?]
  cases item.field? "_source" with
  | none => rfl
  | some v => cases v <;> rfl

theorem filterMap_document? (denied : List Text) (items : List Json) :
    List.Forall₂ (HeldBy denied) (items.filter fun item => (source? item).isSome)
      (items.filterMap (document? denied)) := by
  induction items with
  | nil => exact .nil
  | cons item items ih =>
      rw [List.filter_cons, List.filterMap_cons, document?_eq]
      cases hsource : source? item with
      | none => exact ih
      | some source => exact .cons ⟨rfl, source, hsource, scraped_fieldsOf denied source⟩ ih

theorem documents_of_items {root : Json} {items : List Json}
    (h : root.field? "docs" = some (.array items)) (denied : List Text) :
    documents root denied = .ok (items.filterMap (document? denied)) := by
  rw [documents, Fetch.items, h]
  rfl

/-! ### Replies that differ in denied fields -/

/-- Two values are the same, or objects with the same names in the same places, under which the
values are the same or related. -/
def ObjectsAlike (R : Text → Json → Json → Prop) (v w : Json) : Prop :=
  v = w ∨ ∃ ms ns, v = .object ms ∧ w = .object ns ∧
    List.Forall₂ (fun m n => m.1 = n.1 ∧ (m.2 = n.2 ∨ R m.1 m.2 n.2)) ms ns

/-- Sources that differ in the values of denied fields at most. -/
def SourcesAlike (denied : List Text) : Json → Json → Prop :=
  ObjectsAlike fun name _ _ => name ∈ denied

/-- Items of replies that differ in the values of denied fields at most. -/
def ItemsAlike (denied : List Text) : Json → Json → Prop :=
  ObjectsAlike fun name v w => name = "_source" ∧ SourcesAlike denied v w

/-- Replies that differ in the values of denied fields at most. -/
def RepliesAlike (denied : List Text) : Json → Json → Prop :=
  ObjectsAlike fun name v w => name = "docs" ∧
    ∃ vs ws, v = .array vs ∧ w = .array ws ∧ List.Forall₂ (ItemsAlike denied) vs ws

variable {R : Text → Json → Json → Prop} {v w root root' : Json}

theorem ObjectsAlike.field? (h : ObjectsAlike R v w) (name : Text) :
    v.field? name = w.field? name ∨
      ∃ a b, v.field? name = some a ∧ w.field? name = some b ∧ R name a b := by
  rcases h with rfl | ⟨ms, ns, rfl, rfl, hmembers⟩
  · exact Or.inl rfl
  · rw [Json.field?_object, Json.field?_object]
    induction hmembers with
    | nil => exact Or.inl rfl
    | @cons m n ms ns hmember _ ih =>
        obtain ⟨hname, hvalue⟩ := hmember
        simp only [Ordered.find?, ← hname]
        split
        · next hfound =>
          rcases hvalue with hsame | hR
          · exact Or.inl (congrArg some hsame)
          · exact Or.inr ⟨m.2, n.2, rfl, rfl, hfound ▸ hR⟩
        · exact ih

theorem fieldsOf_congr {ms ns : Ordered Text Json}
    (h : List.Forall₂ (fun m n => m.1 = n.1 ∧ (m.2 = n.2 ∨ m.1 ∈ denied)) ms ns) :
    fieldsOf denied ms = fieldsOf denied ns := by
  have hkept : (ms.filter fun m => !denied.contains m.1) =
      ns.filter fun m => !denied.contains m.1 := by
    induction h with
    | nil => rfl
    | @cons m n ms ns hmember _ ih =>
        obtain ⟨hname, hvalue⟩ := hmember
        rw [List.filter_cons, List.filter_cons, ih, ← hname]
        split
        · next hkept =>
          have hallowed : m.1 ∉ denied := by simpa using hkept
          rw [Prod.ext hname (hvalue.resolve_right hallowed)]
        · rfl
  rw [fieldsOf_eq, fieldsOf_eq, hkept]

theorem document?_congr (h : ItemsAlike denied v w) : document? denied v = document? denied w := by
  have hid : v.field? idField = w.field? idField := by
    refine (h.field? idField).resolve_right ?_
    rintro ⟨a, b, -, -, hname, -⟩
    exact absurd hname (by decide)
  have htext : v.textField idField = w.textField idField := by
    rw [Json.textField, Json.textField, hid]
  rw [document?, document?, htext]
  rcases h.field? "_source" with hsame | ⟨a, b, ha, hb, -, hsources⟩
  · rw [hsame]
  · rw [ha, hb]
    rcases hsources with rfl | ⟨ms, ns, rfl, rfl, hmembers⟩
    · rfl
    · change some (StoredDocument.mk _ (fieldsOf denied ms)) = some ⟨_, fieldsOf denied ns⟩
      rw [fieldsOf_congr hmembers]

theorem filterMap_document?_congr {vs ws : List Json} (h : List.Forall₂ (ItemsAlike denied) vs ws) :
    vs.filterMap (document? denied) = ws.filterMap (document? denied) := by
  induction h with
  | nil => rfl
  | cons hitem _ ih => rw [List.filterMap_cons, List.filterMap_cons, document?_congr hitem, ih]

theorem documents_congr (h : RepliesAlike denied root root') :
    documents root denied = documents root' denied := by
  rcases h.field? "docs" with hsame | ⟨a, b, ha, hb, -, vs, ws, rfl, rfl, hitems⟩
  · rw [documents, documents, items, items, hsame]
  · rw [documents_of_items ha, documents_of_items hb, filterMap_document?_congr hitems]

/-- Denying fields takes them out of the documents of a reply and changes nothing else. So fields can
be denied at once or some after the others, and what a reply holds under denied names makes no
difference. The documents stand for the items that have a source, in the order of the reply, and
hold what these show under the names that are left. -/
theorem documents_deny_fields :
    (∀ root denied,
      documents root denied = (documents root []).map (List.map (·.without denied))) ∧
    (∀ root denied₁ denied₂, documents root (denied₁ ∪ denied₂) =
      (documents root denied₁).map (List.map (·.without denied₂))) ∧
    (∀ root root' denied, RepliesAlike denied root root' →
      documents root denied = documents root' denied) ∧
    ∀ root items denied, root.field? "docs" = some (.array items) →
      ∃ docs, documents root denied = .ok docs ∧
        List.Forall₂ (HeldBy denied) (items.filter fun item => (source? item).isSome) docs := by
  refine ⟨?_, documents_union, ?_, ?_⟩
  · intro root denied
    exact documents_denied denied root
  · intro root root' denied halike
    exact documents_congr halike
  · intro root items denied hdocs
    have hheld := filterMap_document? denied items
    exact ⟨_, documents_of_items hdocs denied, hheld⟩

/-- A letter whose source holds a secret. -/
def letterWith (secret : Json) : Json :=
  .object [("_id", .bool true), ("_source", .object
    [("note", .array [.string "x", .string " ", .object [], .bool false]), ("secret", secret),
      ("blank", .null)])]

/-- A reply with the letter, a document that was not found, and no document. -/
def replyWith (secret : Json) : Json :=
  .object [("docs", .array [letterWith secret, .object [("found", .bool false)], .null])]

theorem replyWith_alike (v w : Json) : RepliesAlike ["secret"] (replyWith v) (replyWith w) := by
  have hsources : SourcesAlike ["secret"]
      (.object [("note", .array [.string "x", .string " ", .object [], .bool false]),
        ("secret", v), ("blank", .null)])
      (.object [("note", .array [.string "x", .string " ", .object [], .bool false]),
        ("secret", w), ("blank", .null)]) :=
    Or.inr ⟨_, _, rfl, rfl, .cons ⟨rfl, Or.inl rfl⟩
      (.cons ⟨rfl, Or.inr (List.mem_singleton_self _)⟩ (.cons ⟨rfl, Or.inl rfl⟩ .nil))⟩
  have hletters : ItemsAlike ["secret"] (letterWith v) (letterWith w) :=
    Or.inr ⟨_, _, rfl, rfl, .cons ⟨rfl, Or.inl rfl⟩ (.cons ⟨rfl, Or.inr ⟨rfl, hsources⟩⟩ .nil)⟩
  exact Or.inr ⟨_, _, rfl, rfl, .cons ⟨rfl, Or.inr ⟨rfl, _, _, rfl, rfl,
    .cons hletters (.cons (Or.inl rfl) (.cons (Or.inl rfl) .nil))⟩⟩ .nil⟩

theorem letter_denies_secret :
    documents (replyWith (.string "s")) ["secret"] =
        .ok [⟨.string "true", [("note", [.string "x", .string "false"])]⟩] ∧
      documents (replyWith (.array [])) ["secret"] =
        documents (replyWith (.string "s")) ["secret"] ∧
      List.Forall₂ (HeldBy ["secret"]) [letterWith (.string "s")]
        [⟨.string "true", [("note", [.string "x", .string "false"])]⟩] := by
  obtain ⟨-, -, hsame, hheld⟩ := documents_deny_fields
  have hdocs : documents (replyWith (.string "s")) ["secret"] =
      .ok [⟨.string "true", [("note", [.string "x", .string "false"])]⟩] := by
    decide +kernel
  obtain ⟨docs, hread, hletter⟩ := hheld (replyWith (.string "s")) _ ["secret"] rfl
  rw [hdocs, Except.ok.injEq] at hread
  exact ⟨hdocs, hsame _ _ _ (replyWith_alike _ _), hread ▸ hletter⟩

end Fetch

end SearchBridge
