import SearchBridge.Document.Fetch
/-!
The query string that asks for some fields only.

Form encoding writes nothing but letters, digits, four marks, `+` and octets in base sixteen, so
that whatever a field is called, its name ends neither the parameter nor the query. Decoding gives
the names back, joined by commas and in code-point order, and since the order is one of all names
together, it does not show in which order they were given.
-/

namespace SearchBridge

namespace Text

/-! ### Form encoding -/

def IsUpperHex (c : Char) : Prop := c ∈ "0123456789ABCDEF".toList

/-- Characters that stand for themselves or for a space, and octets in base sixteen. -/
inductive FormEncoded : List Char → Prop where
  | nil : FormEncoded []
  | plain {c : Char} {r : List Char} (h : c.isAlphanum ∨ c ∈ ['_', '.', '-', '~', '+'])
      (hr : FormEncoded r) : FormEncoded (c :: r)
  | octet {a b : Char} {r : List Char} (ha : IsUpperHex a) (hb : IsUpperHex b)
      (hr : FormEncoded r) : FormEncoded ('%' :: a :: b :: r)

theorem isUpperHex_upperHexDigit {n : Nat} (h : n < 16) : IsUpperHex (upperHexDigit n) := by
  have all : ∀ n : Fin 16, upperHexDigit n.val ∈ "0123456789ABCDEF".toList := by decide
  exact all ⟨n, h⟩

theorem formEncoded_percentOctets (bs : List UInt8) {r : List Char} (hr : FormEncoded r) :
    FormEncoded (bs.flatMap percentOctet ++ r) := by
  induction bs with
  | nil => exact hr
  | cons b bs ih =>
      have hb := b.toNat_lt
      exact .octet (isUpperHex_upperHexDigit (by omega)) (isUpperHex_upperHexDigit (by omega)) ih

theorem formEncoded_formEncodeChar (c : Char) {r : List Char} (hr : FormEncoded r) :
    FormEncoded (formEncodeChar c ++ r) := by
  unfold formEncodeChar
  split
  · next hplain =>
    refine .plain ?_ hr
    simp only [isUnreserved, Bool.or_eq_true, decide_eq_true_eq] at hplain
    rcases hplain with (((hletter | rfl) | rfl) | rfl) | rfl
    · exact Or.inl hletter
    all_goals exact Or.inr (by decide)
  split
  · exact .plain (Or.inr (by simp)) hr
  · exact formEncoded_percentOctets _ hr

theorem formEncoded_formEncode (s : String) : FormEncoded (formEncode s).toList := by
  rw [formEncode, String.toList_ofList]
  induction s.toList with
  | nil => exact .nil
  | cons c cs ih => exact formEncoded_formEncodeChar c ih

example : formEncode "a b,é,size&x=1#" = "a+b%2C%C3%A9%2Csize%26x%3D1%23" := by decide +kernel

/-- Neither the next parameter nor a fragment begins in form-encoded text. -/
theorem FormEncoded.free {cs : List Char} (h : FormEncoded cs) :
    ∀ c ∈ cs, c ∉ ['&', '=', '#', '?', '/', ' '] := by
  have hdigits : ("0123456789ABCDEF".toList.all fun c =>
      decide (c ∉ ['&', '=', '#', '?', '/', ' '])) = true := by
    decide
  have hhex : ∀ c, IsUpperHex c → c ∉ ['&', '=', '#', '?', '/', ' '] := fun c hc =>
    of_decide_eq_true (List.all_eq_true.mp hdigits c hc)
  induction h with
  | nil => simp
  | plain hplain _ ih =>
      refine List.forall_mem_cons.mpr ⟨fun hmem => ?_, ih⟩
      simp only [List.mem_cons, List.not_mem_nil, or_false] at hmem
      rcases hmem with rfl | rfl | rfl | rfl | rfl | rfl <;> exact absurd hplain (by decide)
  | octet ha hb _ ih =>
      exact List.forall_mem_cons.mpr ⟨by decide, List.forall_mem_cons.mpr ⟨hhex _ ha,
        List.forall_mem_cons.mpr ⟨hhex _ hb, ih⟩⟩⟩

end Text

namespace Fetch

open Text

/-- The names of a list in code-point order. -/
structure Sorts (names fields : List String) : Prop where
  perm : names.Perm fields
  ascending : names.Pairwise (· ≤ ·)

variable {fields fields' names names' : List String}

theorem sorts_mergeSort (fields : List String) : Sorts (fields.mergeSort (· ≤ ·)) fields := by
  refine ⟨List.mergeSort_perm _ _, ?_⟩
  have h := @List.pairwise_mergeSort _ (fun a b : String => decide (a ≤ b))
    (fun a b c hab hbc => by
      simp only [decide_eq_true_eq] at hab hbc ⊢
      exact String.le_trans hab hbc)
    (fun a b => by simpa using String.le_total a b) fields
  exact h.imp fun hab => by simpa using hab

theorem Sorts.unique (h : Sorts names fields) (h' : Sorts names' fields')
    (hperm : fields.Perm fields') : names = names' :=
  (h.perm.trans (hperm.trans h'.perm.symm)).eq_of_pairwise
    (fun _ _ _ _ hab hba => String.le_antisymm hab hba) h.ascending h'.ascending

theorem sourceFilter_of_sorts (h : Sorts names fields) (hsome : fields ≠ []) :
    sourceFilter fields = "?_source=" ++ formEncode (String.intercalate "," names) := by
  have hempty : fields.isEmpty = false := by simpa using hsome
  rw [sourceFilter, hempty, (sorts_mergeSort fields).unique h (List.Perm.refl fields)]
  rfl

theorem sourceFilter_eq_empty_iff : sourceFilter fields = "" ↔ fields = [] := by
  constructor
  · intro h
    refine Classical.byContradiction fun hsome => ?_
    rw [sourceFilter_of_sorts (sorts_mergeSort fields) hsome] at h
    simp at h
  · rintro rfl
    rfl

theorem formEncode_inj {s t : String} : formEncode s = formEncode t ↔ s = t := by
  refine ⟨fun h => ?_, congrArg formEncode⟩
  have hdecode := formDecode?_formEncode s
  rw [h, formDecode?_formEncode, Option.some.injEq] at hdecode
  exact hdecode.symm

/-- The query string is empty exactly if no field is named. Otherwise it holds one parameter, whose
value is form encoded, so that no name can start another parameter or a fragment, and stands for the
names in code-point order, joined by commas. The order in which the names are given makes no
difference, and two query strings are the same exactly if the joined names are. -/
theorem sourceFilter_names_fields :
    (∀ fields, sourceFilter fields = "" ↔ fields = []) ∧
    (∀ fields, fields ≠ [] → ∃ part names, sourceFilter fields = "?_source=" ++ part ∧
      FormEncoded part.toList ∧ (∀ c ∈ part.toList, c ∉ ['&', '=', '#', '?', '/', ' ']) ∧
      Sorts names fields ∧ formDecode? part = some (String.intercalate "," names)) ∧
    (∀ fields fields', fields.Perm fields' → sourceFilter fields = sourceFilter fields') ∧
    ∀ fields fields' names names', fields ≠ [] → fields' ≠ [] →
      Sorts names fields → Sorts names' fields' →
      (sourceFilter fields = sourceFilter fields' ↔
        String.intercalate "," names = String.intercalate "," names') := by
  refine ⟨fun _ => sourceFilter_eq_empty_iff, ?_, ?_, ?_⟩
  · intro fields hsome
    have hsorts := sorts_mergeSort fields
    have hencoded := formEncoded_formEncode (String.intercalate "," (fields.mergeSort (· ≤ ·)))
    exact ⟨_, _, sourceFilter_of_sorts hsorts hsome, hencoded, hencoded.free, hsorts,
      formDecode?_formEncode _⟩
  · intro fields fields' hperm
    have hsort := (sorts_mergeSort fields).unique (sorts_mergeSort fields') hperm
    have hempty : fields.isEmpty = fields'.isEmpty := by
      rw [Bool.eq_iff_iff, List.isEmpty_iff, List.isEmpty_iff, ← List.length_eq_zero_iff,
        hperm.length_eq, List.length_eq_zero_iff]
    rw [sourceFilter, sourceFilter, hempty, hsort]
  · intro fields fields' names names' hsome hsome' hsorts hsorts'
    rw [sourceFilter_of_sorts hsorts hsome, sourceFilter_of_sorts hsorts' hsome',
      String.append_right_inj, formEncode_inj]

/-- Names that hold what separates names, parameters and queries, and a character outside ASCII. A
name with a comma in it cannot be told from two names. -/
theorem separators_name_fields :
    ["size&x=1#", "a b", "é,+"].Perm ["é,+", "size&x=1#", "a b"] ∧
      sourceFilter ["size&x=1#", "a b", "é,+"] = sourceFilter ["é,+", "size&x=1#", "a b"] ∧
      (∃ part names, sourceFilter ["size&x=1#", "a b", "é,+"] = "?_source=" ++ part ∧
        FormEncoded part.toList ∧ Sorts names ["size&x=1#", "a b", "é,+"] ∧
        formDecode? part = some (String.intercalate "," names)) ∧
      sourceFilter ["a", "b"] = sourceFilter ["a,b"] := by
  obtain ⟨-, hpart, hperm, hjoined⟩ := sourceFilter_names_fields
  have hrotated : ["size&x=1#", "a b", "é,+"].Perm ["é,+", "size&x=1#", "a b"] := by decide
  obtain ⟨part, names, hfilter, hencoded, -, hsorts, hdecode⟩ :=
    hpart ["size&x=1#", "a b", "é,+"] (by simp)
  have hpair : Sorts ["a", "b"] ["a", "b"] := ⟨List.Perm.refl _, by decide⟩
  have hcomma : Sorts ["a,b"] ["a,b"] := ⟨List.Perm.refl _, by decide⟩
  exact ⟨hrotated, hperm _ _ hrotated, ⟨part, names, hfilter, hencoded, hsorts, hdecode⟩,
    (hjoined _ _ _ _ (by simp) (by simp) hpair hcomma).mpr (by decide)⟩

end Fetch

end SearchBridge
