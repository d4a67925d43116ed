import SearchBridge.Proofs.Reread
import SearchBridge.Text.Split
/-!
JSON values on lines of their own.

A value without numbers is read back from what is written of it if its texts are settled and no two
members of an object have the same name. Everything that is written stands on one line of printable
characters, so values that are written on lines of their own are found again by splitting at the
line feeds.
-/

namespace SearchBridge

namespace Json

open Text

/-- A stable value without numbers. -/
inductive Legible : Json → Prop where
  | null : Legible .null
  | bool (b : Bool) : Legible (.bool b)
  | string {s : Text} (h : s.Settled) : Legible (.string s)
  | array {items : List Json} (h : ∀ v ∈ items, Legible v) : Legible (.array items)
  | object {members : Ordered Text Json} (hdistinct : members.keys.Nodup)
      (hnames : ∀ m ∈ members, Settled m.1) (hvalues : ∀ m ∈ members, Legible m.2) :
      Legible (.object members)

theorem Legible.stable {v : Json} (h : v.Legible) : v.Stable := by
  induction h with
  | null => exact .null
  | bool b => exact .bool b
  | string h => exact .string h
  | array _ ih => exact .array ih
  | object hdistinct hnames _ ih => exact .object hdistinct hnames ih

theorem legible_object (members : List (String × Json)) (hdistinct : (members.map (·.1)).Nodup)
    (hvalues : ∀ m ∈ members, m.2.Legible) :
    Legible (.object (members.map fun m => ((m.1 : Text), m.2))) := by
  refine .object (nodup_stringNames hdistinct) ?_ ?_
  · exact List.forall_mem_map.mpr fun m _ => Text.settled_ofString m.1
  · exact List.forall_mem_map.mpr hvalues

theorem Legible.member (name : String) {v : Json} (h : v.Legible) :
    (Json.object [(name, v)]).Legible :=
  legible_object [(name, v)] (List.pairwise_singleton _ _) (List.forall_mem_singleton.mpr h)

/-- A text that is one written value denotes that value. -/
theorem Legible.read?_write {v : Json} (h : v.Legible) : read? (ofChars v.write) = some v :=
  h.stable.read?_write

/-- Two surrogates that stand side by side are read back as the character of their pair. -/
example : read? (ofChars (write (.string [.surrogate 0, .surrogate 1024]))) =
    some (.string [.char (joinPair 0xD800 0xDC00)]) := by
  decide +kernel

/-! ### Lines -/

/-- Pieces that are closed by a separator each are what stands between the separators. -/
theorem splitOn_closed {separator : Char} {pieces : List (List Char)}
    (h : ∀ piece ∈ pieces, separator ∉ piece) :
    splitOn separator (pieces.flatMap (· ++ [separator])) = pieces ++ [[]] := by
  induction pieces with
  | nil => rfl
  | cons piece pieces ih =>
      rw [List.forall_mem_cons] at h
      have hfirst : ∀ cs, separator ∉ cs →
          splitOn separator (cs ++ separator :: pieces.flatMap (· ++ [separator])) =
            cs :: (pieces ++ [[]]) := by
        intro cs hcs
        induction cs with
        | nil => rw [List.nil_append, splitOn, if_pos rfl, ih h.2]
        | cons c cs ihc =>
            rw [List.mem_cons, not_or] at hcs
            rw [List.cons_append, splitOn, if_neg (Ne.symm hcs.1), ihc hcs.2]
      rw [List.flatMap_cons, List.append_assoc, List.singleton_append]
      exact hfirst piece h.1

theorem isPrintable_writeItems {vs : List Json}
    (h : ∀ v ∈ vs, ∀ c ∈ v.write, IsPrintable c) : ∀ c ∈ writeItems vs, IsPrintable c := by
  induction vs with
  | nil => simp [writeItems, IsPrintable]
  | cons v vs ih =>
      rw [List.forall_mem_cons] at h
      simp only [writeItems, List.forall_mem_cons, List.forall_mem_append]
      exact ⟨⟨by decide, by decide⟩, ⟨by decide, by decide⟩, h.1, ih h.2⟩

theorem isPrintable_writeMembers {ms : List (Text × Json)}
    (h : ∀ m ∈ ms, ∀ c ∈ m.2.write, IsPrintable c) : ∀ c ∈ writeMembers ms, IsPrintable c := by
  induction ms with
  | nil => simp [writeMembers, IsPrintable]
  | cons m ms ih =>
      rw [List.forall_mem_cons] at h
      simp only [writeMembers, List.forall_mem_cons, List.forall_mem_append]
      exact ⟨⟨by decide, by decide⟩, ⟨by decide, by decide⟩, isPrintable_writeString m.1,
        ⟨by decide, by decide⟩, ⟨by decide, by decide⟩, h.1, ih h.2⟩

/-- Every character that is written is printable, so a value stands on one line of ASCII. -/
theorem Legible.isPrintable {v : Json} (h : v.Legible) : ∀ c ∈ v.write, IsPrintable c := by
  induction h with
  | null => simp [write, IsPrintable]
  | bool b => cases b <;> simp [write, IsPrintable]
  | @string s _ => exact isPrintable_writeString s
  | @array items _ ih =>
      cases items with
      | nil => simp [write, IsPrintable]
      | cons v vs =>
          rw [List.forall_mem_cons] at ih
          simp only [write, List.forall_mem_cons, List.forall_mem_append]
          exact ⟨⟨by decide, by decide⟩, ih.1, isPrintable_writeItems ih.2⟩
  | @object members _ _ _ ih =>
      cases members with
      | nil => simp [write, IsPrintable]
      | cons m ms =>
          rw [List.forall_mem_cons] at ih
          simp only [write, List.forall_mem_cons, List.forall_mem_append]
          exact ⟨⟨by decide, by decide⟩, isPrintable_writeString m.1, ⟨by decide, by decide⟩,
            ⟨by decide, by decide⟩, ih.1, isPrintable_writeMembers ih.2⟩

theorem Legible.oneLine {v : Json} (h : v.Legible) : '\n' ∉ v.write :=
  fun hmem => absurd (h.isPrintable _ hmem).1 (by decide)

/-- Values that are written on lines of their own make up a text of ASCII. -/
theorem isAscii_lines {vs : List Json} (h : ∀ v ∈ vs, Legible v) :
    ∀ c ∈ vs.flatMap fun v => v.write ++ ['\n'], c.toNat < 0x80 := by
  intro c hc
  obtain ⟨v, hv, hc⟩ := List.mem_flatMap.mp hc
  rcases List.mem_append.mp hc with hc | hc
  · exact Nat.lt_of_lt_of_le ((h v hv).isPrintable c hc).2 (by decide)
  · exact List.mem_singleton.mp hc ▸ by decide

theorem count_lines {vs : List Json} (h : ∀ v ∈ vs, Legible v) :
    (vs.flatMap fun v => v.write ++ ['\n']).count '\n' = vs.length := by
  induction vs with
  | nil => rfl
  | cons v vs ih =>
      rw [List.forall_mem_cons] at h
      have hfirst : (v.write ++ ['\n']).count '\n' = 1 := by
        rw [List.count_append, List.count_eq_zero_of_not_mem h.1.oneLine]
        rfl
      rw [List.flatMap_cons, List.count_append, hfirst, ih h.2, List.length_cons, Nat.add_comm]

theorem getLast?_lines {vs : List Json} (h : vs ≠ []) :
    (vs.flatMap fun v => v.write ++ ['\n']).getLast? = some '\n' := by
  rw [← List.dropLast_concat_getLast h, List.flatMap_append, List.flatMap_singleton,
    ← List.append_assoc, List.getLast?_concat]

/-- The values on the lines of a text that are not empty, unless one of them denotes none. -/
def decodeLines (cs : List Char) : Option (List Json) :=
  ((splitOn '\n' cs).filter (!·.isEmpty)).mapM fun line => read? (ofChars line)

theorem mapM_read?_write {vs : List Json} (h : ∀ v ∈ vs, Legible v) :
    (vs.map write).mapM (fun line => read? (ofChars line)) = some vs := by
  induction vs with
  | nil => rfl
  | cons v vs ih =>
      rw [List.forall_mem_cons] at h
      rw [List.map_cons, List.mapM_cons, h.1.read?_write, ih h.2]
      rfl

/-- Values that are written on lines of their own are read back line by line. -/
theorem decodeLines_written {vs : List Json} (h : ∀ v ∈ vs, Legible v) :
    decodeLines (vs.flatMap fun v => v.write ++ ['\n']) = some vs := by
  have hsplit : splitOn '\n' (vs.flatMap fun v => v.write ++ ['\n']) = vs.map write ++ [[]] := by
    rw [← List.flatMap_map write (· ++ ['\n'])]
    refine splitOn_closed fun line hline => ?_
    obtain ⟨v, hv, rfl⟩ := List.mem_map.mp hline
    exact (h v hv).oneLine
  have hfilter : (vs.map write ++ [[]]).filter (!·.isEmpty) = vs.map write := by
    have hfull : ∀ line ∈ vs.map write, (!line.isEmpty) = true := by
      intro line hline
      obtain ⟨v, hv, rfl⟩ := List.mem_map.mp hline
      have := length_write_pos v
      simpa [List.isEmpty_iff] using List.length_pos_iff.mp this
    rw [List.filter_append, List.filter_eq_self.mpr hfull]
    exact List.append_nil _
  rw [decodeLines, hsplit, hfilter]
  exact mapM_read?_write h

end Json

end SearchBridge
