import SearchBridge.Document.Fetch
/-!
The fields of a document as adding texts leaves them: distinct names, each with one value or more,
all of them texts that are not blank. Such fields can be told from the members they are sent as, a
text standing for itself and an array for its items.
-/

namespace SearchBridge

namespace StoredDocument

/-- Fields that come from adding texts, whose names and texts have some properties. -/
structure Grouped (isName isText : Text → Prop) (fields : Ordered Text (List Json)) : Prop where
  distinct : fields.keys.Nodup
  names : ∀ f ∈ fields, isName f.1
  values : ∀ f ∈ fields, ∃ texts : List Text, texts ≠ [] ∧
    (∀ s ∈ texts, isText s ∧ Text.isBlank s = false) ∧ f.2 = texts.map .string

variable {isName isText : Text → Prop} {fields : Ordered Text (List Json)}

theorem Grouped.none : Grouped isName isText [] :=
  ⟨List.nodup_nil, by simp, by simp⟩

theorem Grouped.add (h : Grouped isName isText fields) {name : Text} {value : Option Text}
    (hname : isName name) (hvalue : ∀ s, value = some s → isText s) :
    Grouped isName isText (addTo fields name value) := by
  cases value with
  | none => exact h
  | some s =>
      rw [addTo]
      split
      · exact h
      next hblank =>
      have hs : isText s ∧ Text.isBlank s = false := ⟨hvalue s rfl, by simpa using hblank⟩
      refine ⟨Ordered.nodup_keys_alter h.distinct, fun f hf => ?_, fun f hf => ?_⟩
      · rcases Ordered.mem_alter hf with hold | rfl | ⟨vs, hold, rfl⟩
        · exact h.names f hold
        · exact hname
        · exact hname
      · rcases Ordered.mem_alter hf with hold | rfl | ⟨vs, hold, rfl⟩
        · exact h.values f hold
        · exact ⟨[s], by simp, by simpa using hs, rfl⟩
        · obtain ⟨texts, hne, htexts, hvs⟩ := h.values _ hold
          refine ⟨texts ++ [s], by simp, ?_, ?_⟩
          · intro t ht
            rcases List.mem_append.mp ht with ht | ht
            · exact htexts t ht
            · exact List.mem_singleton.mp ht ▸ hs
          · change vs = texts.map .string at hvs
            simp [hvs]

/-! ### Fields from members -/

/-- The fields with what a member of a source holds. -/
def addMember (fields : Ordered Text (List Json)) (m : Text × Json) : Ordered Text (List Json) :=
  (Fetch.valueTexts m.2).foldl (addTo · m.1 ·) fields

def addMembers (fields : Ordered Text (List Json)) (members : Ordered Text Json) :
    Ordered Text (List Json) :=
  members.foldl addMember fields

theorem fieldsOf_eq (denied : List Text) (source : Ordered Text Json) :
    Fetch.fieldsOf denied source =
      addMembers [] (source.filter fun m => !denied.contains m.1) :=
  rfl

theorem fieldsOf_nil (source : Ordered Text Json) :
    Fetch.fieldsOf [] source = addMembers [] source := by
  have hall : (source.filter fun m => !([] : List Text).contains m.1) = source :=
    List.filter_eq_self.mpr fun _ _ => rfl
  rw [fieldsOf_eq, hall]

/-! ### Fields told from members -/

/-- A single text is sent as it is, several as an array; the texts come back either way. -/
theorem valueTexts_fieldValue (texts : List Text) :
    Fetch.valueTexts (fieldValue (texts.map .string)) = texts.map some := by
  match texts with
  | [] => rfl
  | [s] => rfl
  | s :: t :: texts =>
    have hscalar : Json.scalarText? ∘ Json.string = some := rfl
    change ((s :: t :: texts).map Json.string).map Json.scalarText? = _
    rw [List.map_map, hscalar]

/-- Texts added one after the other under the last name come last. -/
theorem foldl_addTo_last {name : Text} (hnew : name ∉ fields.keys) (texts : List Text)
    (htexts : ∀ s ∈ texts, Text.isBlank s = false) (vs : List Json) :
    (texts.map some).foldl (addTo · name ·) (fields ++ [(name, vs)]) =
      fields ++ [(name, vs ++ texts.map .string)] := by
  induction texts generalizing vs with
  | nil => simp
  | cons s texts ih =>
      rw [List.forall_mem_cons] at htexts
      have hadd : addTo (fields ++ [(name, vs)]) name (some s) =
          fields ++ [(name, vs ++ [.string s])] := by
        rw [addTo, if_neg (by simp [htexts.1]), Ordered.alter_concat_self vs _ hnew]
        rfl
      rw [List.map_cons, List.foldl_cons, hadd, ih htexts.2]
      simp

/-- Texts added one after the other under a new name make up a field of their own. -/
theorem foldl_addTo_new {name : Text} (hnew : name ∉ fields.keys) {texts : List Text}
    (hne : texts ≠ []) (htexts : ∀ s ∈ texts, Text.isBlank s = false) :
    (texts.map some).foldl (addTo · name ·) fields = fields ++ [(name, texts.map .string)] := by
  cases texts with
  | nil => exact absurd rfl hne
  | cons s texts =>
      rw [List.forall_mem_cons] at htexts
      have hadd : addTo fields name (some s) = fields ++ [(name, [.string s])] := by
        rw [addTo, if_neg (by simp [htexts.1]), Ordered.alter_of_not_mem _ hnew]
        rfl
      rw [List.map_cons, List.foldl_cons, hadd, foldl_addTo_last hnew texts htexts.2]
      rfl

/-- Grouped fields are read back from the members they are sent as. -/
theorem fieldsOf_toMembers {d : StoredDocument} (h : Grouped isName isText d.fields) :
    Fetch.fieldsOf [] d.toMembers = d.fields := by
  have hlater : ∀ later fields : Ordered Text (List Json),
      Grouped isName isText (fields ++ later) →
      addMembers fields (later.map fun f => (f.1, fieldValue f.2)) = fields ++ later := by
    intro later
    induction later with
    | nil => simp [addMembers]
    | cons f later ih =>
        intro fields hgrouped
        have hnew := Ordered.not_mem_keys_of_nodup hgrouped.distinct
        obtain ⟨texts, hne, htexts, hvs⟩ := hgrouped.values f (by simp)
        have hfield : addMember fields (f.1, fieldValue f.2) = fields ++ [f] := by
          rw [addMember, hvs, valueTexts_fieldValue,
            foldl_addTo_new hnew hne (fun s hs => (htexts s hs).2), ← hvs]
        rw [List.map_cons, addMembers, List.foldl_cons, hfield, ← addMembers,
          ih _ (by simpa using hgrouped)]
        simp
  rw [fieldsOf_nil]
  exact hlater d.fields [] h

end StoredDocument

end SearchBridge
