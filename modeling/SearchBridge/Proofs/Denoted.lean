import SearchBridge.Proofs.Reread
/-!
What JSON text can denote.

A text without surrogates denotes stable values only, provided that floating-point numbers are read
back from what is written of them. Two escaped units of a pair are joined as they are read, integers
that are too long are not read at all, and of members with the same name one is kept. So being
stable is no condition on a value that comes from such a text.
-/

namespace SearchBridge

namespace Point

/-- The number of a surrogate is kept, and any other one stands for a character. -/
theorem toNat_ofNat_cases (n : Nat) : (ofNat n).toNat = n ∨ ∃ c, ofNat n = char c := by
  by_cases hn : 0xD800 ≤ n ∧ n < 0xE000
  · rw [ofNat, dif_pos hn]
    left
    simp only [toNat]
    omega
  · rw [ofNat, dif_neg hn]
    exact Or.inr ⟨_, rfl⟩

end Point

namespace Text

/-- A text without surrogates. -/
def Plain (t : Text) : Prop := ∀ p ∈ t, ∃ c, p = .char c

theorem Plain.suffix {t u : Text} (h : t.Plain) (hu : u <:+ t) : u.Plain :=
  fun p hp => h p (hu.subset hp)

theorem not_isLowSurrogate (c : Char) : ¬isLowSurrogate c.toNat := by
  have hvalid := Point.char_valid c
  rw [isLowSurrogate_iff]
  omega

theorem Settled.cons_char {t : Text} (c : Char) (h : t.Settled) : Settled (.char c :: t) := by
  cases t with
  | nil => trivial
  | cons q r => exact ⟨fun hpair => not_isHighSurrogate c hpair.1, h⟩

/-- A unit that is no half of a pair with the unit after it may stand before a settled text. -/
theorem Settled.cons_unit {n : Nat} {q : Point} {r : Text}
    (hpair : ¬(isHighSurrogate n ∧ isLowSurrogate q.toNat)) (h : Settled (q :: r)) :
    Settled (.ofNat n :: q :: r) := by
  refine ⟨fun hboth => ?_, h⟩
  rcases Point.toNat_ofNat_cases n with hn | ⟨c, hc⟩
  · rw [hn] at hboth
    exact hpair hboth
  · rw [hc] at hboth
    exact not_isHighSurrogate c hboth.1

/-- What a unit is read as, alone or with the unit after it. -/
theorem joinPieces_head (n : Nat) (r : List Piece) :
    ∃ q t, joinPieces (.unit n :: r) = q :: t ∧ (q = .ofNat n ∨ ∃ c, q = .char c) := by
  match r with
  | [] => exact ⟨_, _, rfl, Or.inl rfl⟩
  | .point p :: r => exact ⟨_, _, rfl, Or.inl rfl⟩
  | .unit l :: r =>
    rw [joinPieces]
    split
    · exact ⟨_, _, rfl, Or.inr ⟨_, rfl⟩⟩
    · exact ⟨_, _, rfl, Or.inl rfl⟩

/-- Pieces make up a settled text if no surrogate stands in them as it is. -/
theorem settled_joinPieces {pieces : List Piece} (h : ∀ p, .point p ∈ pieces → ∃ c, p = .char c) :
    (joinPieces pieces).Settled := by
  fun_induction joinPieces pieces with
  | case1 => trivial
  | case2 n l r _ ih =>
      exact (ih fun p hp => h p (List.mem_cons_of_mem _ (List.mem_cons_of_mem _ hp))).cons_char _
  | case3 n l r hpair ih =>
      have hrest := ih fun p hp => h p (List.mem_cons_of_mem _ hp)
      rw [Bool.and_eq_true] at hpair
      obtain ⟨q, t, hjoin, hq⟩ := joinPieces_head l r
      rw [hjoin] at hrest ⊢
      refine Settled.cons_unit (fun ⟨hhigh, hlow⟩ => ?_) hrest
      rcases hq with rfl | ⟨c, rfl⟩
      · rcases Point.toNat_ofNat_cases l with hl | ⟨c, hc⟩
        · exact hpair ⟨hhigh, hl ▸ hlow⟩
        · rw [hc] at hlow
          exact not_isLowSurrogate c hlow
      · exact not_isLowSurrogate c hlow
  | case4 n r hunit ih =>
      have hrest := ih fun p hp => h p (List.mem_cons_of_mem _ hp)
      cases r with
      | nil => trivial
      | cons piece r =>
          cases piece with
          | unit l => exact absurd rfl (hunit l r)
          | point p =>
              obtain ⟨c, rfl⟩ := h p (by simp)
              exact Settled.cons_unit (fun hpair => not_isLowSurrogate c hpair.2) hrest
  | case5 p r ih =>
      obtain ⟨c, rfl⟩ := h p List.mem_cons_self
      exact (ih fun p hp => h p (List.mem_cons_of_mem _ hp)).cons_char c

end Text

namespace Json

open Text

/-! ### What is left of a text -/

theorem skipSpace_suffix (ps : Text) : skipSpace ps <:+ ps := List.dropWhile_suffix _

theorem after?_suffix {w : List Char} {ps r : Text} (h : after? w ps = some r) : r <:+ ps := by
  induction w generalizing ps with
  | nil =>
      cases h
      exact List.suffix_rfl
  | cons c w ih =>
      cases ps with
      | nil => cases h
      | cons p ps =>
          rw [after?] at h
          split at h
          · exact (ih h).trans (List.suffix_cons p ps)
          · cases h

theorem digitRun_suffix (ps : Text) : (digitRun ps).2 <:+ ps := List.dropWhile_suffix _

theorem areDigits_digitRun (ps : Text) : AreDigits (digitRun ps).1 := by
  intro c hc
  obtain ⟨p, hp, hpc⟩ := List.mem_filterMap.mp hc
  have hdigit : p.isChar Char.isDigit = true := List.all_eq_true.mp List.all_takeWhile p hp
  cases p with
  | char d =>
      cases hpc
      exact hdigit
  | surrogate s => cases hpc

theorem readWhole_digits {ps r : Text} {ds : List Char} (h : readWhole ps = some (ds, r)) :
    r <:+ ps ∧ AreDigits ds ∧ ds ≠ [] := by
  unfold readWhole at h
  split at h
  · cases h
    exact ⟨List.suffix_cons _ _, List.forall_mem_singleton.mpr rfl, List.cons_ne_nil _ _⟩
  · split at h
    · cases h
    · next hfull =>
      cases h
      exact ⟨digitRun_suffix _, areDigits_digitRun _, fun hnil => hfull (List.isEmpty_iff.mpr hnil)⟩

theorem readFraction_suffix (ps : Text) : (readFraction ps).2 <:+ ps := by
  unfold readFraction
  split
  · split
    · exact List.suffix_rfl
    · exact (digitRun_suffix _).trans (List.suffix_cons _ _)
  · exact List.suffix_rfl

theorem readExponent_suffix (ps : Text) : (readExponent ps).2 <:+ ps := by
  unfold readExponent
  cases ps with
  | nil => exact List.suffix_rfl
  | cons e r =>
      dsimp only
      split
      · -- the digits stand behind a sign or at once
        split <;> (dsimp only; split)
        · exact List.suffix_rfl
        · exact (digitRun_suffix _).trans ((List.suffix_cons _ _).trans (List.suffix_cons _ _))
        · exact List.suffix_rfl
        · exact (digitRun_suffix _).trans ((List.suffix_cons _ _).trans (List.suffix_cons _ _))
        · exact List.suffix_rfl
        · exact (digitRun_suffix _).trans (List.suffix_cons _ _)
      · exact List.suffix_rfl

theorem length_toDigits_ofDigitChars {ds : List Char} (hds : AreDigits ds) (hfull : ds ≠ []) :
    (Nat.toDigits 10 (Nat.ofDigitChars 10 ds 0)).length ≤ ds.length := by
  have hbound : ∀ cs, AreDigits cs → Nat.ofDigitChars 10 cs 0 < 10 ^ cs.length := by
    intro cs
    induction cs with
    | nil => simp
    | cons c cs ih =>
        intro hcs
        rw [AreDigits, List.forall_mem_cons] at hcs
        have hrest := ih hcs.2
        have hc : c.toNat - '0'.toNat ≤ 9 := by
          have := hcs.1
          simp only [Char.isDigit, Bool.and_eq_true, decide_eq_true_eq] at this
          have hle : c.toNat ≤ 57 := this.2
          have hzero : '0'.toNat = 48 := rfl
          omega
        rw [Nat.ofDigitChars_cons, Nat.ofDigitChars_eq_ofDigitChars_zero, List.length_cons,
          Nat.pow_succ]
        have hmul : 10 ^ cs.length * (10 * 0 + (c.toNat - '0'.toNat)) ≤ 10 ^ cs.length * 9 :=
          Nat.mul_le_mul_left _ (by omega)
        omega
  exact (Nat.length_toDigits_le_iff (by decide) (List.length_pos_iff.mpr hfull)).mpr (hbound ds hds)

theorem readMagnitude_short {negative : Bool} {ps r : Text} {n : Number}
    (h : readMagnitude negative ps = some (n, r)) :
    r <:+ ps ∧ ∀ i, n = .int i → (Nat.toDigits 10 i.natAbs).length ≤ integerLimit := by
  rw [readMagnitude] at h
  obtain ⟨⟨whole, r₁⟩, hwhole, h⟩ := Option.bind_eq_some_iff.mp h
  obtain ⟨hsuffix, hdigits, hfull⟩ := readWhole_digits hwhole
  dsimp only at h
  have hrest : (readExponent (readFraction r₁).2).2 <:+ ps :=
    (readExponent_suffix _).trans ((readFraction_suffix _).trans hsuffix)
  split at h
  · split at h
    · cases h
    · next hlimit =>
      cases h
      refine ⟨hrest, fun i hi => ?_⟩
      have habs : i.natAbs = Nat.ofDigitChars 10 whole 0 := by
        cases hi
        cases negative <;> simp
      rw [habs]
      exact Nat.le_trans (length_toDigits_ofDigitChars hdigits hfull) (Nat.not_lt.mp hlimit)
  · cases h
    exact ⟨hrest, fun i hi => by cases hi⟩

theorem readNumber_short {ps r : Text} {n : Number} (h : readNumber ps = some (n, r)) :
    r <:+ ps ∧ ∀ i, n = .int i → (Nat.toDigits 10 i.natAbs).length ≤ integerLimit := by
  unfold readNumber at h
  split at h
  · split at h
    · next hword =>
      cases h
      exact ⟨(after?_suffix hword).trans (List.suffix_cons _ _), fun i hi => by cases hi⟩
    · obtain ⟨hsuffix, hshort⟩ := readMagnitude_short h
      exact ⟨hsuffix.trans (List.suffix_cons _ _), hshort⟩
  · exact readMagnitude_short h

/-! ### What is read -/

/-- The pieces of a text without surrogates hold none as it is. -/
theorem readPieces_plain_pieces {ps rest : Text} {pieces : List Piece} (hplain : ps.Plain)
    (h : readPieces ps = some (pieces, rest)) :
    (∀ p, .point p ∈ pieces → ∃ c, p = .char c) ∧ rest <:+ ps := by
  fun_induction readPieces ps generalizing rest pieces with
  | case1 => cases h
  | case2 r =>
      cases h
      exact ⟨by simp, List.suffix_cons _ _⟩
  | case3 a b c d r ih =>
      have hr : r <:+ .char '\\' :: .char 'u' :: a :: b :: c :: d :: r :=
        ⟨[.char '\\', .char 'u', a, b, c, d], rfl⟩
      obtain ⟨cs, -, h⟩ := Option.bind_eq_some_iff.mp h
      obtain ⟨n, -, h⟩ := Option.bind_eq_some_iff.mp h
      obtain ⟨⟨more, rest'⟩, hread, h⟩ := Option.bind_eq_some_iff.mp h
      cases h
      obtain ⟨hpieces, hrest⟩ := ih (hplain.suffix hr) hread
      exact ⟨by simpa using hpieces, hrest.trans hr⟩
  | case4 e r _ ih =>
      have hr : r <:+ .char '\\' :: .char e :: r := ⟨[.char '\\', .char e], rfl⟩
      obtain ⟨c, -, h⟩ := Option.bind_eq_some_iff.mp h
      obtain ⟨⟨more, rest'⟩, hread, h⟩ := Option.bind_eq_some_iff.mp h
      cases h
      obtain ⟨hpieces, hrest⟩ := ih (hplain.suffix hr) hread
      refine ⟨fun p hp => ?_, hrest.trans hr⟩
      rcases List.mem_cons.mp hp with hp | hp
      · exact ⟨c, Piece.point.inj hp⟩
      · exact hpieces p hp
  | case5 => cases h
  | case6 p r _ _ _ _ ih =>
      obtain ⟨⟨more, rest'⟩, hread, h⟩ := Option.bind_eq_some_iff.mp h
      cases h
      obtain ⟨hpieces, hrest⟩ := ih (hplain.suffix (List.suffix_cons p r)) hread
      refine ⟨fun q hq => ?_, hrest.trans (List.suffix_cons p r)⟩
      rcases List.mem_cons.mp hq with hq | hq
      · cases hq
        exact hplain p List.mem_cons_self
      · exact hpieces q hq

theorem readString_settled {ps s rest : Text} (hplain : ps.Plain)
    (h : readString ps = some (s, rest)) : s.Settled ∧ rest <:+ ps := by
  obtain ⟨⟨pieces, rest'⟩, hread, heq⟩ := Option.map_eq_some_iff.mp h
  cases heq
  obtain ⟨hpieces, hrest⟩ := readPieces_plain_pieces hplain hread
  exact ⟨settled_joinPieces hpieces, hrest⟩

/-- Members are stable if the value of the first one is and the others are. -/
theorem readMembers_stable {fuel depth : Nat} {ps rest : Text} {ms : List (Text × Json)}
    (hvalue : ∀ depth ps v rest, ps.Plain → readValue fuel depth ps = .ok (v, rest) →
      v.Stable ∧ rest <:+ ps)
    (hmembers : ∀ depth ps ms rest, ps.Plain → readMembers fuel depth ps = .ok (ms, rest) →
      (∀ m ∈ ms, m.1.Settled ∧ m.2.Stable) ∧ rest <:+ ps)
    (hplain : ps.Plain) (h : readMembers (fuel + 1) depth ps = .ok (ms, rest)) :
    (∀ m ∈ ms, m.1.Settled ∧ m.2.Stable) ∧ rest <:+ ps := by
  by_cases hquote : ∃ r, ps = .char '"' :: r
  · obtain ⟨r, rfl⟩ := hquote
    have hr := List.suffix_cons (Point.char '"') r
    rw [readMembers] at h
    obtain ⟨⟨n, r₁⟩, hname, h⟩ := bind_eq_ok h
    obtain ⟨r₂, hcolon, h⟩ := bind_eq_ok h
    obtain ⟨⟨v, r₃⟩, hv, h⟩ := bind_eq_ok h
    obtain ⟨hsettled, hr₁⟩ := readString_settled (hplain.suffix hr) (demand_eq_ok hname)
    have hr₂ : r₂ <:+ r₁ := by
      have hcolon := demand_eq_ok hcolon
      split at hcolon
      · next r' hskip =>
        cases hcolon
        have hr' := hskip ▸ skipSpace_suffix r₁
        exact (skipSpace_suffix r').trans ((List.suffix_cons _ _).trans hr')
      · cases hcolon
    have hvalueText := hr₂.trans (hr₁.trans hr)
    obtain ⟨hstable, hr₃⟩ := hvalue _ _ _ _ (hplain.suffix hvalueText) hv
    have hskip := (skipSpace_suffix r₃).trans (hr₃.trans hvalueText)
    dsimp only at h
    split at h
    · next r' hclose =>
      cases h
      rw [hclose] at hskip
      exact ⟨List.forall_mem_singleton.mpr ⟨hsettled, hstable⟩,
        (List.suffix_cons _ _).trans hskip⟩
    · next r' hcomma =>
      rw [hcomma] at hskip
      have hnext := (skipSpace_suffix r').trans ((List.suffix_cons _ _).trans hskip)
      obtain ⟨⟨ms', rest'⟩, hmore, h⟩ := bind_eq_ok h
      cases h
      obtain ⟨hstables, hrest⟩ := hmembers _ _ _ _ (hplain.suffix hnext) hmore
      exact ⟨List.forall_mem_cons.mpr ⟨⟨hsettled, hstable⟩, hstables⟩, hrest.trans hnext⟩
    · cases h
  · rw [readMembers.eq_3 _ _ _ fun r hr => hquote ⟨r, hr⟩] at h
    obtain ⟨_, hname, -⟩ := bind_eq_ok h
    cases hname

section

variable
  (hreal : ∀ x, read? (ofChars (writeNumber (.real x))) = some (.number (.real x)))

include hreal

theorem readWord_stable {ps r : Text} {v : Json} (h : readWord ps = some (v, r)) :
    v.Stable ∧ r <:+ ps := by
  unfold readWord at h
  split at h
  · next hword =>
    cases h
    exact ⟨.null, after?_suffix hword⟩
  split at h
  · next hword =>
    cases h
    exact ⟨.bool _, after?_suffix hword⟩
  split at h
  · next hword =>
    cases h
    exact ⟨.bool _, after?_suffix hword⟩
  split at h
  · next hword =>
    cases h
    exact ⟨.real (hreal _), after?_suffix hword⟩
  split at h
  · next hword =>
    cases h
    exact ⟨.real (hreal _), after?_suffix hword⟩
  · obtain ⟨⟨n, r'⟩, hnumber, heq⟩ := Option.map_eq_some_iff.mp h
    cases heq
    obtain ⟨hsuffix, hshort⟩ := readNumber_short hnumber
    cases n with
    | int i => exact ⟨.int (hshort i rfl), hsuffix⟩
    | real x => exact ⟨.real (hreal x), hsuffix⟩

/-- A value is stable if what stands in it is. -/
theorem readValue_stable {fuel depth : Nat} {ps rest : Text} {v : Json}
    (hitems : ∀ depth ps vs rest, ps.Plain → readItems fuel depth ps = .ok (vs, rest) →
      (∀ v ∈ vs, Stable v) ∧ rest <:+ ps)
    (hmembers : ∀ depth ps ms rest, ps.Plain → readMembers fuel depth ps = .ok (ms, rest) →
      (∀ m ∈ ms, m.1.Settled ∧ m.2.Stable) ∧ rest <:+ ps)
    (hplain : ps.Plain) (h : readValue (fuel + 1) depth ps = .ok (v, rest)) :
    v.Stable ∧ rest <:+ ps := by
  by_cases hquote : ∃ r, ps = .char '"' :: r
  · obtain ⟨r, rfl⟩ := hquote
    have hr := List.suffix_cons (Point.char '"') r
    rw [readValue] at h
    obtain ⟨⟨s, rest'⟩, hread, heq⟩ := Option.map_eq_some_iff.mp (demand_eq_ok h)
    cases heq
    obtain ⟨hsettled, hrest⟩ := readString_settled (hplain.suffix hr) hread
    exact ⟨.string hsettled, hrest.trans hr⟩
  by_cases hbracket : ∃ r, ps = .char '[' :: r
  · obtain ⟨r, rfl⟩ := hbracket
    have hr := (skipSpace_suffix r).trans (List.suffix_cons (.char '[') r)
    cases depth with
    | zero =>
        rw [readValue.eq_3] at h
        cases h
    | succ depth =>
        rw [readValue] at h
        split at h
        · next r' hclose =>
          cases h
          rw [hclose] at hr
          exact ⟨.array (by simp), (List.suffix_cons _ _).trans hr⟩
        · obtain ⟨⟨vs, rest'⟩, hread, heq⟩ := map_eq_ok h
          cases heq
          obtain ⟨hstable, hrest⟩ := hitems _ _ _ _ (hplain.suffix hr) hread
          exact ⟨.array hstable, hrest.trans hr⟩
  by_cases hbrace : ∃ r, ps = .char '{' :: r
  · obtain ⟨r, rfl⟩ := hbrace
    have hr := (skipSpace_suffix r).trans (List.suffix_cons (.char '{') r)
    cases depth with
    | zero =>
        rw [readValue.eq_5] at h
        cases h
    | succ depth =>
        rw [readValue] at h
        split at h
        · next r' hclose =>
          cases h
          rw [hclose] at hr
          exact ⟨.object List.nodup_nil (by simp) (by simp), (List.suffix_cons _ _).trans hr⟩
        · obtain ⟨⟨ms, rest'⟩, hread, heq⟩ := map_eq_ok h
          cases heq
          obtain ⟨hstable, hrest⟩ := hmembers _ _ _ _ (hplain.suffix hr) hread
          -- of members with the same name, only the last one is kept
          refine ⟨.object (Ordered.nodup_keys_ofList ms) (fun m hm => ?_) (fun m hm => ?_),
            hrest.trans hr⟩
          · exact (hstable m (Ordered.mem_of_mem_ofList hm)).1
          · exact (hstable m (Ordered.mem_of_mem_ofList hm)).2
  rw [readValue_word fuel depth hquote hbracket hbrace] at h
  exact readWord_stable hreal (demand_eq_ok h)

/-- Values, items and members that are read of a text without surrogates are stable. -/
theorem read_stable (fuel : Nat) :
    (∀ depth ps v rest, ps.Plain → readValue fuel depth ps = .ok (v, rest) →
        v.Stable ∧ rest <:+ ps) ∧
      (∀ depth ps vs rest, ps.Plain → readItems fuel depth ps = .ok (vs, rest) →
        (∀ v ∈ vs, Stable v) ∧ rest <:+ ps) ∧
      ∀ depth ps ms rest, ps.Plain → readMembers fuel depth ps = .ok (ms, rest) →
        (∀ m ∈ ms, m.1.Settled ∧ m.2.Stable) ∧ rest <:+ ps := by
  induction fuel with
  | zero =>
      refine ⟨?_, ?_, ?_⟩
      · intro depth ps v rest _ h
        rw [readValue] at h
        cases h
      · intro depth ps vs rest _ h
        rw [readItems] at h
        cases h
      · intro depth ps ms rest _ h
        rw [readMembers] at h
        cases h
  | succ fuel ih =>
      obtain ⟨hvalue, hitems, hmembers⟩ := ih
      refine ⟨fun depth ps v rest => readValue_stable hreal hitems hmembers, ?_, ?_⟩
      · intro depth ps vs rest hplain h
        rw [readItems] at h
        obtain ⟨⟨v, r⟩, hv, h⟩ := bind_eq_ok h
        obtain ⟨hstable, hr⟩ := hvalue _ _ _ _ hplain hv
        have hskip := (skipSpace_suffix r).trans hr
        dsimp only at h
        split at h
        · next r' hclose =>
          cases h
          rw [hclose] at hskip
          exact ⟨List.forall_mem_singleton.mpr hstable, (List.suffix_cons _ _).trans hskip⟩
        · next r' hcomma =>
          rw [hcomma] at hskip
          have hnext := (skipSpace_suffix r').trans ((List.suffix_cons _ _).trans hskip)
          obtain ⟨⟨vs', rest'⟩, hmore, h⟩ := bind_eq_ok h
          cases h
          obtain ⟨hstables, hrest⟩ := hitems _ _ _ _ (hplain.suffix hnext) hmore
          exact ⟨List.forall_mem_cons.mpr ⟨hstable, hstables⟩, hrest.trans hnext⟩
        · cases h
      · exact fun depth ps ms rest => readMembers_stable hvalue hmembers

/-- Every value that a text without surrogates denotes is stable. -/
theorem stable_of_read? {ps : Text} {v : Json} (hplain : ps.Plain) (h : read? ps = some v) :
    v.Stable := by
  rw [read?] at h
  cases hread : readWithin ps.length ps with
  | error fault =>
      rw [hread] at h
      cases h
  | ok w =>
      rw [hread] at h
      cases h
      obtain ⟨⟨v, rest⟩, hvalue, hend⟩ := bind_eq_ok hread
      have hstable := (read_stable hreal _).1 _ _ _ _ (hplain.suffix (skipSpace_suffix ps)) hvalue
      dsimp only at hend
      split at hend
      · cases hend
        exact hstable.1
      · cases hend

end

end Json

end SearchBridge
