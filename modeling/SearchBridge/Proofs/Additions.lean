import SearchBridge.Proofs.Bindings
import SearchBridge.Proofs.DeniedFields
/-!
Texts added to a document one after the other.

Of the additions, only those of a text that is not blank leave anything. The names stand in the
order in which each of them gets its first text, and every name has its texts in the order in which
they were added. So how the additions under different names are interleaved shows in the order of
the names alone. No value of a field is an array, so that an array among the members of a document
stands for several values of a field and any other member for a single one.
-/

namespace SearchBridge

namespace StoredDocument

open Fetch

structure Addition where
  name : Text
  text : Option Text

variable {isName isText : Text → Prop} {d : StoredDocument} {a b : Addition}
  {additions others : List Addition} {name : Text}

/-- The document with texts added one after the other. -/
def addAll (d : StoredDocument) (additions : List Addition) : StoredDocument :=
  additions.foldl (fun d a => d.add a.name a.text) d

/-! ### What is kept -/

/-- The names and texts of the additions whose text is neither absent nor blank. -/
def kept (additions : List Addition) : List (Text × Text) :=
  additions.filterMap fun a => (a.text.filter fun s => !Text.isBlank s).map fun s => (a.name, s)

/-- The names under which a text is kept, each where its first one is. -/
def keptNames (additions : List Addition) : List Text :=
  ((kept additions).map (·.1)).eraseDups

/-- The texts that are kept under a name, as they were added. -/
def keptUnder (additions : List Addition) (name : Text) : List Text :=
  ((kept additions).filter (·.1 = name)).map (·.2)

theorem mem_keptNames : name ∈ keptNames additions ↔ keptUnder additions name ≠ [] := by
  rw [keptNames, keptUnder, List.mem_eraseDups, List.mem_map, ne_eq, List.map_eq_nil_iff,
    List.filter_eq_nil_iff]
  simp

theorem kept_append (additions others : List Addition) :
    kept (additions ++ others) = kept additions ++ kept others :=
  List.filterMap_append

theorem keptUnder_append (additions others : List Addition) (name : Text) :
    keptUnder (additions ++ others) name = keptUnder additions name ++ keptUnder others name := by
  simp [keptUnder, kept_append]

theorem keptUnder_singleton (a : Addition) (name : Text) :
    keptUnder [a] name =
      if a.name = name then a.text.toList.filter (!Text.isBlank ·) else [] := by
  obtain ⟨n, text⟩ := a
  cases text with
  | none => simp [keptUnder, kept]
  | some s =>
      cases hblank : Text.isBlank s with
      | true => simp [keptUnder, kept, hblank]
      | false =>
          by_cases hn : n = name
          · simp [keptUnder, kept, hblank, hn]
          · simp [keptUnder, kept, hblank, hn]

/-- Two additions under different names can change places: of every name the same is kept. -/
theorem keptUnder_swap (h : a.name ≠ b.name) (before after : List Addition) (name : Text) :
    keptUnder (before ++ a :: b :: after) name = keptUnder (before ++ b :: a :: after) name := by
  have hsplit : ∀ x y : Addition, keptUnder (before ++ x :: y :: after) name =
      keptUnder before name ++
        (keptUnder [x] name ++ keptUnder [y] name ++ keptUnder after name) := by
    intro x y
    rw [← keptUnder_append, ← keptUnder_append, ← keptUnder_append]
    rfl
  have hswap : keptUnder [a] name ++ keptUnder [b] name =
      keptUnder [b] name ++ keptUnder [a] name := by
    by_cases ha : a.name = name
    · have hb : b.name ≠ name := fun hb => h (ha.trans hb.symm)
      rw [keptUnder_singleton b, if_neg hb, List.append_nil, List.nil_append]
    · rw [keptUnder_singleton a, if_neg ha, List.append_nil, List.nil_append]
  rw [hsplit, hsplit, hswap]

/-! ### The fields that additions leave -/

/-- Additions under names and of texts that have some properties keep the fields grouped. -/
theorem Grouped.addAll (h : Grouped isName isText d.fields)
    (hall : ∀ a ∈ additions, isName a.name ∧ ∀ s, a.text = some s → isText s) :
    Grouped isName isText (d.addAll additions).fields := by
  induction additions generalizing d with
  | nil => exact h
  | cons a additions ih =>
      rw [List.forall_mem_cons] at hall
      exact ih (d := d.add a.name a.text) (h.add hall.1.1 hall.1.2) hall.2

/-- Whatever is added to a document without fields, its fields are grouped. -/
theorem grouped_addAll (id : Json) (additions : List Addition) :
    Grouped (fun _ => True) (fun _ => True) (addAll ⟨id, []⟩ additions).fields :=
  Grouped.addAll .none fun _ _ => ⟨trivial, fun _ _ => trivial⟩

def withText (s : Text) (vs : Option (List Json)) : List Json := vs.getD [] ++ [.string s]

/-- What is kept of one addition is put behind the values of its name, and nothing else changes. -/
theorem addTo_eq_foldl (fields : Ordered Text (List Json)) (a : Addition) :
    addTo fields a.name a.text =
      (kept [a]).foldl (fun fields e => fields.alter e.1 (withText e.2)) fields := by
  obtain ⟨name, text⟩ := a
  cases text with
  | none => rfl
  | some s =>
      rw [addTo]
      split
      · next hblank => simp [kept, hblank]
      · next hblank =>
        have hkept : kept [⟨name, some s⟩] = [(name, s)] := by simp [kept, hblank]
        rw [hkept]
        rfl

theorem fields_addAll (d : StoredDocument) (additions : List Addition) :
    (d.addAll additions).fields =
      (kept additions).foldl (fun fields e => fields.alter e.1 (withText e.2)) d.fields := by
  induction additions generalizing d with
  | nil => rfl
  | cons a additions ih =>
      change ((d.add a.name a.text).addAll additions).fields = _
      rw [ih, ← List.singleton_append, kept_append, List.foldl_append, ← addTo_eq_foldl]
      rfl

theorem keys_addAll (id : Json) (additions : List Addition) :
    (addAll ⟨id, []⟩ additions).fields.keys = keptNames additions := by
  rw [fields_addAll]
  exact Ordered.keys_foldl_alter Prod.fst (fun e => withText e.2) (kept additions)

/-- The values of a name are followed by the texts that are kept under it. -/
theorem valuesAt_addAll (d : StoredDocument) (additions : List Addition) (name : Text) :
    valuesAt (d.addAll additions).fields name =
      valuesAt d.fields name ++ (keptUnder additions name).map .string := by
  induction additions generalizing d with
  | nil => exact (List.append_nil _).symm
  | cons a additions ih =>
      change valuesAt ((d.add a.name a.text).addAll additions).fields name = _
      rw [ih, add, valuesAt_addTo, List.append_assoc, ← List.singleton_append, keptUnder_append,
        List.map_append, keptUnder_singleton]
      split
      · rfl
      · rfl

/-- There is a field for every name under which a text is kept, and its values are the texts that
are kept under it. -/
theorem fields_addAll_eq_map (id : Json) (additions : List Addition) :
    (addAll ⟨id, []⟩ additions).fields =
      (keptNames additions).map fun name => (name, (keptUnder additions name).map .string) := by
  have hvalue : ∀ f ∈ (addAll ⟨id, []⟩ additions).fields,
      (f.1, (keptUnder additions f.1).map .string) = f := by
    intro f hf
    have hvalues := ((mem_fields_iff (grouped_addAll id additions)).mp hf).2
    rw [valuesAt_addAll] at hvalues
    exact Prod.ext rfl hvalues
  rw [← keys_addAll id additions, Ordered.keys, List.map_map]
  exact ((List.map_congr_left hvalue).trans (List.map_id _)).symm

theorem nodup_keptNames (additions : List Addition) : (keptNames additions).Nodup :=
  keys_addAll .null additions ▸ (grouped_addAll .null additions).distinct

/-- If the same is kept under every name, the fields are the same but for their order. -/
theorem fields_addAll_perm (id : Json)
    (h : ∀ name, keptUnder additions name = keptUnder others name) :
    (addAll ⟨id, []⟩ additions).fields.Perm (addAll ⟨id, []⟩ others).fields := by
  have hnames : (keptNames additions).Perm (keptNames others) := by
    rw [List.perm_ext_iff_of_nodup (nodup_keptNames additions) (nodup_keptNames others)]
    intro name
    rw [mem_keptNames, mem_keptNames, h]
  rw [fields_addAll_eq_map, fields_addAll_eq_map, funext h]
  exact hnames.map _

/-! ### Members read back -/

/-- The values that a member stands for: the items of an array, and any other value alone. -/
def memberValues : Json → List Json
  | .array items => items
  | v => [v]

/-- The fields that the members of an object stand for. -/
def ofMembers (members : Ordered Text Json) : Ordered Text (List Json) :=
  members.map fun m => (m.1, memberValues m.2)

theorem memberValues_fieldValue (texts : List Text) :
    memberValues (fieldValue (texts.map .string)) = texts.map .string := by
  match texts with
  | [] => rfl
  | [s] => rfl
  | s :: t :: texts => rfl

/-- Grouped fields are the ones that their members stand for. -/
theorem Grouped.ofMembers_toMembers (h : Grouped isName isText d.fields) :
    ofMembers d.toMembers = d.fields := by
  have hfield : ∀ f ∈ d.fields, (f.1, memberValues (fieldValue f.2)) = f := by
    intro f hf
    obtain ⟨texts, -, -, hvs⟩ := h.values f hf
    rw [hvs, memberValues_fieldValue, ← hvs]
  rw [ofMembers, toMembers, List.map_map]
  exact (List.map_congr_left hfield).trans (List.map_id _)

/-- A document to which texts have been added has a field for every name under which a text is
kept, in the order in which these names come first, with the texts of the name as they were added.
Two additions under different names can change places without a change but to the order of the
fields. The members of the document stand for its fields, so that two such documents with the same
members have the same fields. -/
theorem addAll_groups_texts (id : Json) (additions : List Addition) :
    (addAll ⟨id, []⟩ additions).fields =
        (keptNames additions).map (fun name => (name, (keptUnder additions name).map .string)) ∧
      (∀ before a b after, additions = before ++ a :: b :: after → a.name ≠ b.name →
        (addAll ⟨id, []⟩ additions).fields.Perm
          (addAll ⟨id, []⟩ (before ++ b :: a :: after)).fields) ∧
      ofMembers (addAll ⟨id, []⟩ additions).toMembers = (addAll ⟨id, []⟩ additions).fields ∧
      ∀ id' others, (addAll ⟨id, []⟩ additions).toMembers = (addAll ⟨id', []⟩ others).toMembers →
        (addAll ⟨id, []⟩ additions).fields = (addAll ⟨id', []⟩ others).fields := by
  have hread : ∀ id additions, ofMembers (addAll ⟨id, []⟩ additions).toMembers =
      (addAll ⟨id, []⟩ additions).fields :=
    fun id additions => (grouped_addAll id additions).ofMembers_toMembers
  refine ⟨fields_addAll_eq_map id additions, ?_, hread id additions, ?_⟩
  · rintro before a b after rfl hne
    exact fields_addAll_perm id (keptUnder_swap hne before after)
  · intro id' others hmembers
    rw [← hread id additions, hmembers, hread id' others]

/-- Additions under two names, one text twice and some texts blank or absent. -/
def tagging : List Addition :=
  [⟨"tag", some " sea"⟩, ⟨"title", some "Moby Dick"⟩, ⟨"tag", none⟩, ⟨"remark", some "\t"⟩,
    ⟨"tag", some " sea"⟩]

/-- Other additions that leave the same under the same names, in the same order of the names. -/
def retagging : List Addition :=
  [⟨"title", some "\u2003"⟩, ⟨"tag", some " sea"⟩, ⟨"tag", some " sea"⟩,
    ⟨"title", some "Moby Dick"⟩]

theorem tagging_grouped :
    (addAll empty tagging).fields =
        ([("tag", [.string " sea", .string " sea"]), ("title", [.string "Moby Dick"])] :
          Ordered Text (List Json)) ∧
      Text.ofString "tag" ≠ "title" ∧
      (addAll empty tagging).fields.Perm
        (addAll empty
          (⟨"title", some "Moby Dick"⟩ :: ⟨"tag", some " sea"⟩ :: tagging.drop 2)).fields ∧
      ofMembers (addAll empty tagging).toMembers = (addAll empty tagging).fields ∧
      (addAll empty tagging).toMembers = (addAll ⟨.string "1", []⟩ retagging).toMembers ∧
      (addAll empty tagging).fields = (addAll ⟨.string "1", []⟩ retagging).fields := by
  obtain ⟨hfields, hswap, hread, hinjective⟩ := addAll_groups_texts (.string "") tagging
  have hne : Text.ofString "tag" ≠ "title" := by decide
  have hmembers : (addAll empty tagging).toMembers =
      (addAll ⟨.string "1", []⟩ retagging).toMembers := by decide
  refine ⟨hfields.trans ?_, hne, ?_, hread, hmembers, hinjective _ _ hmembers⟩
  · decide
  · exact hswap [] _ _ (tagging.drop 2) rfl hne

end StoredDocument

end SearchBridge
