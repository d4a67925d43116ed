import SearchBridge.Json.Reader
import SearchBridge.Json.Writer
/-!
Texts inside JSON, written and read back.

A code point is written as itself, as a short escape or as one or two numbered units, and each of
these is read as the pieces it stands for. Pieces make up the text they come from unless two of its
surrogates stand side by side that would be one character; such a text is not read back, since its
two units are a pair by then.
-/

namespace SearchBridge

namespace Point

/-- The numbers of characters leave out those of surrogates. -/
theorem char_valid (c : Char) :
    c.toNat < 0xD800 ∨ 0xDFFF < c.toNat ∧ c.toNat < 0x110000 :=
  c.valid

theorem ofNat_toNat (p : Point) : ofNat p.toNat = p := by
  cases p with
  | char c =>
      have hvalid := char_valid c
      rw [ofNat, dif_neg (by change ¬(0xD800 ≤ c.toNat ∧ c.toNat < 0xE000); omega)]
      exact congrArg char (Char.ofNat_toNat c)
  | surrogate s =>
      have hs : 0xD800 ≤ (surrogate s).toNat ∧ (surrogate s).toNat < 0xE000 := by
        change 0xD800 ≤ 0xD800 + s.val ∧ 0xD800 + s.val < 0xE000
        omega
      rw [ofNat, dif_pos hs]
      exact congrArg surrogate (Fin.ext (Nat.add_sub_cancel_left _ _))

theorem toNat_ofNat_of_low {n : Nat} (h : Text.isLowSurrogate n) : (ofNat n).toNat = n := by
  simp only [Text.isLowSurrogate, Bool.and_eq_true, decide_eq_true_eq] at h
  rw [ofNat, dif_pos (by omega)]
  simp only [toNat]
  omega

end Point

namespace Text

@[simp] theorem ofChars_append (cs ds : List Char) :
    ofChars (cs ++ ds) = ofChars cs ++ ofChars ds :=
  List.map_append

@[simp] theorem length_ofChars (cs : List Char) : (ofChars cs).length = cs.length :=
  List.length_map _

/-- No two surrogates stand side by side that would be one character. -/
def Settled : Text → Prop
  | p :: q :: r => ¬(isHighSurrogate p.toNat ∧ isLowSurrogate q.toNat) ∧ Settled (q :: r)
  | _ => True

instance decideSettled : (t : Text) → Decidable t.Settled
  | [] => inferInstanceAs (Decidable True)
  | [_] => inferInstanceAs (Decidable True)
  | p :: q :: r =>
    have := decideSettled (q :: r)
    inferInstanceAs
      (Decidable (¬(isHighSurrogate p.toNat ∧ isLowSurrogate q.toNat) ∧ Settled (q :: r)))

theorem Settled.tail {p : Point} {t : Text} (h : Settled (p :: t)) : Settled t := by
  cases t with
  | nil => trivial
  | cons q r => exact h.2

theorem isHighSurrogate_iff {n : Nat} : isHighSurrogate n ↔ 0xD800 ≤ n ∧ n < 0xDC00 := by
  simp [isHighSurrogate]

theorem isLowSurrogate_iff {n : Nat} : isLowSurrogate n ↔ 0xDC00 ≤ n ∧ n < 0xE000 := by
  simp [isLowSurrogate]

theorem surrogates_apart {n : Nat} (h : isHighSurrogate n) : ¬isLowSurrogate n := by
  rw [isHighSurrogate_iff] at h
  rw [isLowSurrogate_iff]
  omega

theorem not_isHighSurrogate (c : Char) : ¬isHighSurrogate c.toNat := by
  have hvalid := Point.char_valid c
  rw [isHighSurrogate_iff]
  omega

theorem settled_ofChars (cs : List Char) : (ofChars cs).Settled := by
  induction cs with
  | nil => trivial
  | cons c cs ih =>
      cases cs with
      | nil => trivial
      | cons d cs =>
          exact ⟨fun h => not_isHighSurrogate c h.1, ih⟩

theorem settled_ofString (s : String) : (ofString s).Settled := settled_ofChars s.toList

/-- Surrogates may stand in a text as long as no two of them form a pair. -/
example : Settled [.surrogate 1024, .surrogate 0, .char 'a', .surrogate 1024] := by decide

/-! ### Numbered units -/

theorem hexValue?_digitChar {d : Nat} (h : d < 16) : hexValue? d.digitChar = some d := by
  have all : ∀ d : Fin 16, hexValue? d.val.digitChar = some d.val := by decide
  exact all ⟨d, h⟩

theorem mem_toDigits {n : Nat} {c : Char} (h : c ∈ Nat.toDigits 16 n) :
    ∃ d, d < 16 ∧ c = d.digitChar := by
  induction n using Nat.strongRecOn with
  | ind n ih =>
      by_cases hn : n < 16
      · rw [Nat.toDigits_of_lt_base hn, List.mem_singleton] at h
        exact ⟨n, hn, h⟩
      · rw [Nat.toDigits_of_base_le (by decide) (by omega), List.mem_append,
          List.mem_singleton] at h
        rcases h with h | h
        · exact ih (n / 16) (by omega) h
        · exact ⟨n % 16, Nat.mod_lt n (by decide), h⟩

theorem hexValues_toDigits (n : Nat) :
    ∃ ds, (Nat.toDigits 16 n).mapM hexValue? = some ds ∧
      ds.foldl (fun n d => 16 * n + d) 0 = n := by
  induction n using Nat.strongRecOn with
  | ind n ih =>
      by_cases hn : n < 16
      · refine ⟨[n], ?_, by simp⟩
        rw [Nat.toDigits_of_lt_base hn]
        simp [hexValue?_digitChar hn]
      · obtain ⟨ds, hds, hsum⟩ := ih (n / 16) (by omega)
        have hlast : hexValue? (n % 16).digitChar = some (n % 16) :=
          hexValue?_digitChar (Nat.mod_lt n (by decide))
        refine ⟨ds ++ [n % 16], ?_, ?_⟩
        · rw [Nat.toDigits_of_base_le (by decide) (by omega), List.mapM_append, hds]
          simp [hlast]
        · rw [List.foldl_append, hsum]
          simp only [List.foldl_cons, List.foldl_nil]
          omega

/-- Zeros before the digits change nothing. -/
theorem hexNumber?_hexChars (width n : Nat) : hexNumber? (hexChars width n) = some n := by
  obtain ⟨ds, hds, hsum⟩ := hexValues_toDigits n
  have hzeros : ∀ k, (List.replicate k '0').mapM hexValue? = some (List.replicate k 0) := by
    intro k
    induction k with
    | zero => rfl
    | succ k ih =>
        have hzero : hexValue? '0' = some 0 := by decide
        simp [List.replicate_succ, List.mapM_cons, hzero, ih]
  have hfold : ∀ k, (List.replicate k 0).foldl (fun n d => 16 * n + d) 0 = 0 := by
    intro k
    induction k with
    | zero => rfl
    | succ k ih => simpa [List.replicate_succ] using ih
  simp only [hexNumber?, hexChars, List.mapM_append, hzeros, hds]
  simp [List.foldl_append, hfold, hsum]

theorem length_hexChars {n : Nat} (hn : n < 0x10000) : (hexChars 4 n).length = 4 := by
  have hdigits : (Nat.toDigits 16 n).length ≤ 4 :=
    (Nat.length_toDigits_le_iff (by decide) (by decide)).mpr hn
  simp only [hexChars, List.length_append, List.length_replicate]
  omega

/-! ### Pairs of units -/

theorem joinPair_splitPair {c : Char} (h : 0x10000 ≤ c.toNat) :
    joinPair (splitPair c.toNat).1 (splitPair c.toNat).2 = c := by
  have hsum : 0x10000 + (0xD800 + (c.toNat - 0x10000) / 0x400 - 0xD800) * 0x400 +
      (0xDC00 + (c.toNat - 0x10000) % 0x400 - 0xDC00) = c.toNat := by
    omega
  simp only [joinPair, splitPair]
  rw [hsum, Char.ofNat_toNat]

theorem splitPair_surrogates (c : Char) :
    isHighSurrogate (splitPair c.toNat).1 ∧ isLowSurrogate (splitPair c.toNat).2 := by
  have hvalid := Point.char_valid c
  rw [isHighSurrogate_iff, isLowSurrogate_iff]
  simp only [splitPair]
  omega

theorem splitPair_lt (c : Char) :
    (splitPair c.toNat).1 < 0x10000 ∧ (splitPair c.toNat).2 < 0x10000 := by
  have hvalid := Point.char_valid c
  simp only [splitPair]
  omega

/-- A unit stands alone unless it and the code point after it would be one character. -/
theorem joinPieces_unit {n : Nat} {pieces : List Piece}
    (h : isHighSurrogate n → ∀ q t, joinPieces pieces = q :: t → ¬isLowSurrogate q.toNat) :
    joinPieces (.unit n :: pieces) = .ofNat n :: joinPieces pieces := by
  match pieces, h with
  | [], _ => rfl
  | .point p :: r, _ => rfl
  | .unit l :: r, h =>
    by_cases hpair : isHighSurrogate n ∧ isLowSurrogate l
    · -- a low surrogate starts no pair, so it would be the next code point
      have hlow : joinPieces (.unit l :: r) = .ofNat l :: joinPieces r := by
        exact joinPieces_unit fun hhigh => absurd hpair.2 (surrogates_apart hhigh)
      have hnat : (Point.ofNat l).toNat = l := Point.toNat_ofNat_of_low hpair.2
      refine absurd ?_ (h hpair.1 _ _ hlow)
      rw [hnat]
      exact hpair.2
    · rw [joinPieces, if_neg]
      simpa using hpair

/-- What a code point is read back as: itself, a unit with its number, or a pair of units. -/
inductive Spelling : Point → List Piece → Prop where
  | itself (c : Char) : Spelling (.char c) [.point (.char c)]
  | unit (p : Point) : Spelling p [.unit p.toNat]
  | pair (c : Char) (h : 0x10000 ≤ c.toNat) :
      Spelling (.char c) [.unit (splitPair c.toNat).1, .unit (splitPair c.toNat).2]

theorem joinPieces_spelling {p : Point} {spelling pieces : List Piece} (h : Spelling p spelling)
    (hsettled : Settled (p :: joinPieces pieces)) :
    joinPieces (spelling ++ pieces) = p :: joinPieces pieces := by
  cases h with
  | itself c => rfl
  | unit p =>
      rw [List.singleton_append, joinPieces_unit, Point.ofNat_toNat]
      intro hhigh q t hnext hlow
      rw [hnext] at hsettled
      exact hsettled.1 ⟨hhigh, hlow⟩
  | pair c hc =>
      simp only [List.cons_append, List.nil_append, joinPieces]
      rw [if_pos (by simpa using splitPair_surrogates c), joinPair_splitPair hc]

end Text

namespace Json

open Text

/-- A character of ASCII that is no control character. -/
def IsPrintable (c : Char) : Prop := 0x20 ≤ c.toNat ∧ c.toNat < 0x7F

/-! ### One code point -/

theorem readPieces_escape {e c : Char} (h : shortEscape? e = some c) (r : Text) :
    readPieces (.char '\\' :: .char e :: r) =
      (readPieces r).map fun read => (.point (.char c) :: read.1, read.2) := by
  rw [readPieces]
  · rw [h]
    cases readPieces r <;> rfl
  · intro a b c d t _ he
    have hu : shortEscape? 'u' = none := rfl
    rw [he, hu] at h
    cases h

theorem readPieces_unit {n : Nat} (hn : n < 0x10000) (r : Text) :
    readPieces (ofChars (escapedUnit n) ++ r) =
      (readPieces r).map fun read => (.unit n :: read.1, read.2) := by
  have hlength : (hexChars 4 n).length = 4 := length_hexChars hn
  have hnumber := hexNumber?_hexChars 4 n
  match hdigits : hexChars 4 n, hlength with
  | [a, b, c, d], _ =>
    rw [hdigits] at hnumber
    rw [escapedUnit, hdigits]
    change readPieces (.char '\\' :: .char 'u' :: .char a :: .char b :: .char c :: .char d :: r) = _
    rw [readPieces]
    have hchars : chars? [.char a, .char b, .char c, .char d] = some [a, b, c, d] :=
      chars?_ofChars [a, b, c, d]
    rw [hchars]
    simp only [Option.bind_eq_bind, Option.bind_some, hnumber]
    cases readPieces r <;> rfl

theorem readPieces_plain {p : Point} (hprintable : 0x20 ≤ p.toNat) (hquote : p ≠ .char '"')
    (hslash : p ≠ .char '\\') (r : Text) :
    readPieces (p :: r) = (readPieces r).map fun read => (.point p :: read.1, read.2) := by
  rw [readPieces]
  · rw [if_neg]
    · cases readPieces r <;> rfl
    · simp only [Bool.or_eq_true, decide_eq_true_eq, not_or]
      exact ⟨by omega, hslash⟩
  · exact hquote
  · intro a b c d t h
    exact absurd h hslash
  · intro e t h
    exact absurd h hslash

/-- How a character is written: with a short escape, as itself or in one or two units. -/
theorem writeChar_cases (c : Char) :
    (∃ e, shortEscape? e = some c ∧ writeChar c = ['\\', e]) ∨
      (IsPrintable c ∧ c ≠ '"' ∧ c ≠ '\\' ∧ writeChar c = [c]) ∨
      (c.toNat < 0x10000 ∧ writeChar c = escapedUnit c.toNat) ∨
      (0x10000 ≤ c.toNat ∧ writeChar c =
        escapedUnit (splitPair c.toNat).1 ++ escapedUnit (splitPair c.toNat).2) := by
  by_cases hshort : c ∈ ['"', '\\', '\n', '\r', '\t', '\x0c', '\x08']
  · left
    simp only [List.mem_cons, List.not_mem_nil, or_false] at hshort
    rcases hshort with rfl | rfl | rfl | rfl | rfl | rfl | rfl
    all_goals
      refine ⟨_, ?_, rfl⟩
      rfl
  · right
    simp only [List.mem_cons, List.not_mem_nil, or_false, not_or] at hshort
    obtain ⟨hquote, hslash, hfeed, hreturn, htab, hpage, hback⟩ := hshort
    unfold writeChar
    rw [if_neg hquote, if_neg hslash, if_neg hfeed, if_neg hreturn, if_neg htab, if_neg hpage,
      if_neg hback]
    dsimp only
    split
    · next hprintable =>
      rw [Bool.and_eq_true, decide_eq_true_eq, decide_eq_true_eq] at hprintable
      exact Or.inl ⟨hprintable, hquote, hslash, rfl⟩
    split
    · next hunit => exact Or.inr (Or.inl ⟨hunit, rfl⟩)
    · next hpair => exact Or.inr (Or.inr ⟨Nat.le_of_not_lt hpair, rfl⟩)

theorem readPieces_writeChar (c : Char) :
    ∃ spelling, Spelling (.char c) spelling ∧ ∀ r,
      readPieces (ofChars (writeChar c) ++ r) =
        (readPieces r).map fun read => (spelling ++ read.1, read.2) := by
  rcases writeChar_cases c with ⟨e, he, hwrite⟩ | ⟨hprintable, hquote, hslash, hwrite⟩ |
    ⟨hunit, hwrite⟩ | ⟨hpair, hwrite⟩
  · rw [hwrite]
    exact ⟨_, .itself c, readPieces_escape he⟩
  · rw [hwrite]
    have hquote' : Point.char c ≠ .char '"' := fun h => hquote (Point.char.inj h)
    have hslash' : Point.char c ≠ .char '\\' := fun h => hslash (Point.char.inj h)
    exact ⟨_, .itself c, readPieces_plain (p := .char c) hprintable.1 hquote' hslash'⟩
  · rw [hwrite]
    exact ⟨_, .unit (.char c), readPieces_unit hunit⟩
  · obtain ⟨hhigh, hlow⟩ := splitPair_lt c
    refine ⟨_, .pair c hpair, fun r => ?_⟩
    rw [hwrite, ofChars_append, List.append_assoc, readPieces_unit hhigh, readPieces_unit hlow]
    cases readPieces r <;> rfl

theorem readPieces_writePoint (p : Point) :
    ∃ spelling, Spelling p spelling ∧ ∀ r,
      readPieces (ofChars (writePoint p) ++ r) =
        (readPieces r).map fun read => (spelling ++ read.1, read.2) := by
  cases p with
  | char c => exact readPieces_writeChar c
  | surrogate s =>
      have hs : (Point.surrogate s).toNat < 0x10000 := by
        change 0xD800 + s.val < 0x10000
        omega
      exact ⟨_, .unit _, readPieces_unit hs⟩

/-! ### A whole text -/

/-- A text that is written is read in pieces, whatever comes after it. The pieces make up the text
if it is settled. -/
theorem readPieces_written (t : Text) :
    ∃ pieces, (t.Settled → joinPieces pieces = t) ∧ ∀ rest,
      readPieces (ofChars (t.flatMap writePoint) ++ .char '"' :: rest) = some (pieces, rest) := by
  induction t with
  | nil => exact ⟨[], fun _ => rfl, fun rest => by simp [ofChars, readPieces]⟩
  | cons p t ih =>
      obtain ⟨pieces, hjoin, hread⟩ := ih
      obtain ⟨spelling, hspelling, hpoint⟩ := readPieces_writePoint p
      refine ⟨spelling ++ pieces, fun h => ?_, fun rest => ?_⟩
      · rw [joinPieces_spelling hspelling ((hjoin h.tail).symm ▸ h), hjoin h.tail]
      · rw [List.flatMap_cons, ofChars_append, List.append_assoc, hpoint, hread]
        rfl

end Json

/-- The text that is read where a text is written. -/
def Text.reread (t : Text) : Text :=
  ((Json.readString (ofChars (t.flatMap Json.writePoint ++ ['"']))).map (·.1)).getD t

namespace Json

open Text

/-- A text that is written is read up to its closing quote. -/
theorem readString_written (t rest : Text) :
    readString (ofChars (t.flatMap writePoint ++ ['"']) ++ rest) = some (t.reread, rest) := by
  obtain ⟨pieces, -, hread⟩ := readPieces_written t
  have hquote : ∀ rest, ofChars (t.flatMap writePoint ++ ['"']) ++ rest =
      ofChars (t.flatMap writePoint) ++ .char '"' :: rest := by
    simp [ofChars]
  have hstring : ∀ rest, readString (ofChars (t.flatMap writePoint ++ ['"']) ++ rest) =
      some (joinPieces pieces, rest) := by
    intro rest
    rw [hquote, readString, hread]
    rfl
  have halone := hstring []
  rw [List.append_nil] at halone
  rw [Text.reread, halone, hstring]
  rfl

end Json

namespace Text

open Json

theorem Settled.reread {t : Text} (h : t.Settled) : t.reread = t := by
  obtain ⟨pieces, hjoin, hread⟩ := readPieces_written t
  have hquote : ofChars (t.flatMap writePoint ++ ['"']) =
      ofChars (t.flatMap writePoint) ++ [.char '"'] := by
    simp [ofChars]
  rw [Text.reread, hquote, readString, hread]
  exact hjoin h

end Text

namespace Json

open Text

/-! ### What written text looks like -/

theorem isPrintable_hexChars (width n : Nat) : ∀ c ∈ hexChars width n, IsPrintable c := by
  have hdigit : ∀ d : Fin 16,
      0x20 ≤ d.val.digitChar.toNat ∧ d.val.digitChar.toNat < 0x7F := by
    decide
  intro c hc
  rcases List.mem_append.mp hc with hzero | hc
  · rw [List.eq_of_mem_replicate hzero]
    exact ⟨by decide, by decide⟩
  · obtain ⟨d, hd, rfl⟩ := mem_toDigits hc
    exact hdigit ⟨d, hd⟩

theorem isPrintable_escapedUnit (n : Nat) : ∀ c ∈ escapedUnit n, IsPrintable c := by
  intro c hc
  simp only [escapedUnit, List.mem_cons] at hc
  rcases hc with rfl | rfl | hc
  · exact ⟨by decide, by decide⟩
  · exact ⟨by decide, by decide⟩
  · exact isPrintable_hexChars 4 n c hc

theorem isPrintable_of_shortEscape? {e c : Char} (h : shortEscape? e = some c) : IsPrintable e := by
  refine Classical.byContradiction fun hprintable => ?_
  have hne : ∀ d, IsPrintable d → e ≠ d := fun d hd he => hprintable (he ▸ hd)
  unfold IsPrintable at hne
  simp [shortEscape?, hne '"' (by decide), hne '\\' (by decide), hne '/' (by decide),
    hne 'b' (by decide), hne 'f' (by decide), hne 'n' (by decide), hne 'r' (by decide),
    hne 't' (by decide)] at h

theorem isPrintable_writePoint (p : Point) : ∀ c ∈ writePoint p, IsPrintable c := by
  cases p with
  | surrogate s => exact isPrintable_escapedUnit _
  | char d =>
      intro c hc
      change c ∈ writeChar d at hc
      rcases writeChar_cases d with ⟨e, he, hwrite⟩ | ⟨hprintable, -, -, hwrite⟩ |
        ⟨-, hwrite⟩ | ⟨-, hwrite⟩
      · rw [hwrite, List.mem_cons, List.mem_singleton] at hc
        rcases hc with rfl | rfl
        · exact ⟨by decide, by decide⟩
        · exact isPrintable_of_shortEscape? he
      · rw [hwrite, List.mem_singleton] at hc
        exact hc ▸ hprintable
      · rw [hwrite] at hc
        exact isPrintable_escapedUnit _ c hc
      · rw [hwrite, List.mem_append] at hc
        rcases hc with hc | hc
        · exact isPrintable_escapedUnit _ c hc
        · exact isPrintable_escapedUnit _ c hc

theorem isPrintable_writeString (t : Text) : ∀ c ∈ writeString t, IsPrintable c := by
  intro c hc
  simp only [writeString, List.mem_cons, List.mem_append, List.mem_flatMap, List.not_mem_nil,
    or_false] at hc
  rcases hc with rfl | ⟨p, -, hc⟩ | rfl
  · exact ⟨by decide, by decide⟩
  · exact isPrintable_writePoint p c hc
  · exact ⟨by decide, by decide⟩

end Json

end SearchBridge
