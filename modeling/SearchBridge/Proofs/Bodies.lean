import SearchBridge.Proofs.Cursor
import SearchBridge.Proofs.ReadBack
/-!
Bodies of responses that JSON values are written in.

Written values are ASCII without zero octets, so their encoding is told as UTF-8 and each octet is a
character. A body denotes the value that is written in it, but nothing can be made of the response
if the value is deeper than what its reader takes.
-/

namespace SearchBridge

namespace Utf8

theorem encode_ascii {cs : List Char} (h : ∀ c ∈ cs, c.toNat < 0x80) :
    encode (String.ofList cs) = cs.map fun c => UInt8.ofNat c.toNat := by
  rw [encode, String.toList_ofList]
  induction cs with
  | nil => rfl
  | cons c rest ih =>
      rw [List.forall_mem_cons] at h
      have hfirst : String.utf8EncodeChar c = [UInt8.ofNat c.toNat] := by
        have hle : c.toNat ≤ 0x7F := Nat.le_of_lt_succ h.1
        simp [String.utf8EncodeChar, Nat.not_lt.mpr hle]
      rw [List.flatMap_cons, hfirst, ih h.2]
      rfl

/-- An octet of ASCII is a character of its own. -/
theorem pieces_ascii (surrogates : Bool) {bs : List UInt8} (h : ∀ b ∈ bs, b.toNat < 0x80) :
    pieces surrogates bs = bs.map fun b => some (.ofNat b.toNat) := by
  unfold pieces
  induction bs with
  | nil => rfl
  | cons b rest ih =>
      rw [List.forall_mem_cons] at h
      have hstep : step surrogates none b.toNat = ([some (.ofNat b.toNat)], none) := by
        simp [step, lead, h.1]
      rw [piecesFrom, hstep, List.map_cons, ← ih h.2]
      rfl

end Utf8

namespace Unicode

theorem unmarked_ascii {bs : List UInt8} (h : ∀ b ∈ bs, b ≠ 0 ∧ b.toNat < 0x80) :
    unmarked bs = .utf8 := by
  unfold unmarked
  split
  · next a b _ _ _ => rw [if_neg (h a (by simp)).1, if_neg (h b (by simp)).1]
  · next a b => rw [if_neg (h a (by simp)).1, if_neg (h b (by simp)).1]
  · rfl

/-- A byte order mark begins with an octet that is zero or no ASCII. -/
theorem byteOrderMarks_begin {mark : List UInt8} {encoding : Encoding}
    (h : (mark, encoding) ∈ byteOrderMarks) :
    ∃ b rest, mark = b :: rest ∧ ¬(b ≠ 0 ∧ b.toNat < 0x80) := by
  simp only [byteOrderMarks, List.mem_cons, Prod.mk.injEq, List.not_mem_nil, or_false] at h
  rcases h with ⟨rfl, -⟩ | ⟨rfl, -⟩ | ⟨rfl, -⟩ | ⟨rfl, -⟩ | ⟨rfl, -⟩
  all_goals exact ⟨_, _, rfl, by decide⟩

/-- Text of ASCII without zero octets is told as UTF-8. -/
theorem detect_ascii {bs : List UInt8} (h : ∀ b ∈ bs, b ≠ 0 ∧ b.toNat < 0x80) :
    detect bs = (.utf8, bs) := by
  have hunmarked : ∀ m ∈ byteOrderMarks, (m.1.isPrefixOf? bs).map (m.2, ·) = none := by
    rintro ⟨mark, encoding⟩ hmark
    obtain ⟨first, rest, rfl, hfirst⟩ := byteOrderMarks_begin hmark
    cases bs with
    | nil => rfl
    | cons b more =>
        have hne : first ≠ b := fun heq => hfirst (heq ▸ h b List.mem_cons_self)
        have hapart : (first :: rest).isPrefixOf? (b :: more) = none :=
          if_neg (beq_eq_false_iff_ne.mpr hne ▸ Bool.false_ne_true)
        rw [hapart]
        rfl
  rw [detect, List.findSome?_eq_none_iff.mpr hunmarked, unmarked_ascii h]
  rfl

/-- Printable text is decoded as it is. -/
theorem decodeDetected?_printable {cs : List Char} (h : ∀ c ∈ cs, Json.IsPrintable c) :
    decodeDetected? (Utf8.encode (String.ofList cs)) = some (Text.ofChars cs) := by
  have hnumber : ∀ c ∈ cs, (UInt8.ofNat c.toNat).toNat = c.toNat := fun c hc =>
    UInt8.toNat_ofNat_of_lt (Nat.lt_of_lt_of_le (h c hc).2 (by decide))
  have hoctets : ∀ b ∈ cs.map fun c => UInt8.ofNat c.toNat, b ≠ 0 ∧ b.toNat < 0x80 := by
    intro b hb
    obtain ⟨c, hc, rfl⟩ := List.mem_map.mp hb
    refine ⟨fun hzero => ?_, ?_⟩
    · have hlow := (h c hc).1
      rw [← hnumber c hc, hzero] at hlow
      exact absurd hlow (by decide)
    · rw [hnumber c hc]
      exact Nat.lt_of_lt_of_le (h c hc).2 (by decide)
  rw [Utf8.encode_ascii fun c hc => Nat.lt_of_lt_of_le (h c hc).2 (by decide), decodeDetected?,
    detect_ascii hoctets]
  refine Pieces.strict?_eq_some.mpr ?_
  rw [Utf8.pieces_ascii true fun b hb => (hoctets b hb).2, Text.ofChars, List.map_map,
    List.map_map]
  refine List.map_congr_left fun c hc => ?_
  exact congrArg some ((congrArg Point.ofNat (hnumber c hc)).trans (Point.ofNat_toNat (.char c)))

end Unicode

namespace Json

theorem legible_nest (n : Nat) : (nest n).Legible := by
  induction n with
  | zero => exact .array (by simp)
  | succ n ih => exact .array (List.forall_mem_singleton.mpr ih)

/-- The text of a body that a value is written in denotes that value. -/
theorem Legible.read?_body {v : Json} (h : v.Legible) :
    (Unicode.decodeDetected? (Utf8.encode v.text)).bind read? = some v := by
  rw [text, Unicode.decodeDetected?_printable h.isPrintable, Option.bind_some, h.read?_write]

end Json

namespace Http

namespace Response

variable {r : Response} {v : Json}

/-- Nothing can be made of a body whose value is deeper than what its reader takes. -/
theorem toReply_too_deep (hv : v.Legible) (hbody : r.body = Utf8.encode v.text)
    (hdeep : ¬v.Fits r.depth) : ∃ c, r.toReply = .error (.nested c) := by
  obtain ⟨c, hnested⟩ := Json.readWithin_of_not_fits hv.read?_write hdeep
  have hjson : r.json = .error (.nested c) := by
    rw [json, hbody, Json.text, Unicode.decodeDetected?_printable hv.isPrintable]
    dsimp only
    rw [hnested]
  refine ⟨c, ?_⟩
  rw [toReply, hjson]
  rfl

end Response

/-- A request that meets such a body fails with what went wrong in reading it. -/
theorem Request.fetch_too_deep (q : Request) {r : Response} {v : Json} (hv : v.Legible)
    (hbody : r.body = Utf8.encode v.text) (hdeep : ¬v.Fits r.depth) :
    ∃ c, q.fetch (.response r) = .error (.exchange (.response (.nested c))) := by
  obtain ⟨c, hreply⟩ := Response.toReply_too_deep hv hbody hdeep
  refine ⟨c, ?_⟩
  rw [fetch, settle, hreply]
  rfl

theorem Response.not_brings_too_deep {r : Response} {v : Json} (hv : v.Legible)
    (hbody : r.body = Utf8.encode v.text) (hdeep : ¬v.Fits r.depth) (root : Json) :
    ¬(Outcome.response r).Brings root := by
  rintro ⟨_, reply, ⟨⟩, hreply, -⟩
  obtain ⟨c, hnested⟩ := toReply_too_deep hv hbody hdeep
  rw [hreply] at hnested
  cases hnested

end Http

end SearchBridge
