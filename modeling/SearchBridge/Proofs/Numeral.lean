import SearchBridge.Json.Reader
import SearchBridge.Json.Writer
import SearchBridge.Proofs.Escapes
/-!
Numbers inside JSON, written and read back.

Every number but the ones that are not finite is written as a numeral: digits that do not begin with
a zero in front of another one, and then perhaps a fraction and an exponent. A numeral is read as
far as it goes, so that it makes no difference to its value what closes the value that it stands in.
An integer is read back unless it has too many digits, and a floating-point number is always read
back as one.
-/

namespace SearchBridge

namespace Json

open Text

def AreDigits (ds : List Char) : Prop := ∀ c ∈ ds, c.isDigit = true

/-- What can stand behind a value: nothing, or what separates or closes. -/
def Closes (rest : Text) : Prop := ∀ p r, rest = p :: r → p ∈ [.char ',', .char ']', .char '}']

def NoDigit (ps : Text) : Prop := ∀ p r, ps = p :: r → p.isChar Char.isDigit = false

/-- A number as it is written: its sign, the digits of its whole part and of its fraction, and the
sign and the digits of its exponent. There is no zero in front of other digits of the whole part. -/
structure Numeral where
  negative : Bool
  whole : List Char
  fraction : List Char
  exponent : Option (Bool × List Char)
  whole_digits : AreDigits whole
  whole_lead : whole = ['0'] ∨ ∃ c ds, whole = c :: ds ∧ c ≠ '0'
  fraction_digits : AreDigits fraction
  exponent_digits : ∀ e, exponent = some e → AreDigits e.2 ∧ e.2 ≠ []

namespace Numeral

/-- The fraction behind its point, if there is one. -/
def fractionChars (n : Numeral) : List Char := if n.fraction = [] then [] else '.' :: n.fraction

/-- The exponent behind its mark, if there is one. -/
def exponentChars (n : Numeral) : List Char :=
  n.exponent.elim [] fun e => 'e' :: (if e.1 then '-' else '+') :: e.2

def magnitudeChars (n : Numeral) : List Char := n.whole ++ (n.fractionChars ++ n.exponentChars)

def chars (n : Numeral) : List Char :=
  if n.negative then '-' :: n.magnitudeChars else n.magnitudeChars

def exponent? (n : Numeral) : Option Int :=
  n.exponent.map fun e =>
    let power : Int := Nat.ofDigitChars 10 e.2 0
    if e.1 then -power else power

/-- The number that a numeral stands for: an integer, unless it is too long, if it has neither a
fraction nor an exponent. -/
def value? (n : Numeral) : Option Number :=
  if n.fraction = [] ∧ n.exponent = none then
    if integerLimit < n.whole.length then none
    else
      let size : Int := Nat.ofDigitChars 10 n.whole 0
      some (.int (if n.negative then -size else size))
  else
    some (.real (.ofDecimal n.negative (Nat.ofDigitChars 10 (n.whole ++ n.fraction) 0)
      (n.exponent?.getD 0 - n.fraction.length)))

end Numeral

/-! ### Reading a numeral -/

variable {ds : List Char} {rest : Text}

theorem Closes.noDigit (h : Closes rest) : NoDigit rest := by
  intro p r hrest
  have hp := h p r hrest
  simp only [List.mem_cons, List.not_mem_nil, or_false] at hp
  rcases hp with rfl | rfl | rfl <;> rfl

theorem digitRun_digits (hds : AreDigits ds) (hrest : NoDigit rest) :
    digitRun (ofChars ds ++ rest) = (ds, rest) := by
  induction ds with
  | nil =>
      cases rest with
      | nil => rfl
      | cons p r =>
          have hp := hrest p r rfl
          simp [digitRun, ofChars, hp]
  | cons d ds ih =>
      rw [AreDigits, List.forall_mem_cons] at hds
      have hd : (Point.char d).isChar Char.isDigit = true := hds.1
      have hmore := ih hds.2
      rw [digitRun, Prod.mk.injEq] at hmore
      have hcons : ofChars (d :: ds) ++ rest = .char d :: (ofChars ds ++ rest) := rfl
      have hchar : Point.char? (.char d) = some d := rfl
      rw [hcons, digitRun, List.takeWhile_cons_of_pos hd, List.dropWhile_cons_of_pos hd,
        List.filterMap_cons_some hchar, hmore.1, hmore.2]

/-- The whole part of a numeral is read up to what does not go on with it. -/
theorem readWhole_whole (n : Numeral) (hrest : NoDigit rest) :
    readWhole (ofChars n.whole ++ rest) = some (n.whole, rest) := by
  rcases n.whole_lead with hzero | ⟨c, ds, hwhole, hc⟩
  · rw [hzero]
    rfl
  · have hrun := digitRun_digits n.whole_digits hrest
    rw [readWhole, hrun]
    · rw [hwhole]
      rfl
    · intro r h
      rw [hwhole] at h
      exact hc (Point.char.inj (List.cons.inj h).1)

theorem readFraction_fraction (n : Numeral) (hrest : NoDigit rest)
    (hpoint : ∀ r, rest ≠ .char '.' :: r) :
    readFraction (ofChars n.fractionChars ++ rest) = (n.fraction, rest) := by
  rw [Numeral.fractionChars]
  split
  · next hnone =>
    rw [hnone]
    change readFraction rest = _
    rw [readFraction]
    exact hpoint
  · next hsome =>
    have hrun := digitRun_digits n.fraction_digits hrest
    change readFraction (.char '.' :: (ofChars n.fraction ++ rest)) = _
    rw [readFraction, hrun, if_neg (by simpa using hsome)]

theorem readExponent_exponent (n : Numeral) (hrest : Closes rest) :
    readExponent (ofChars n.exponentChars ++ rest) = (n.exponent?, rest) := by
  rw [Numeral.exponentChars, Numeral.exponent?]
  cases hexponent : n.exponent with
  | none =>
      change readExponent rest = _
      cases rest with
      | nil => rfl
      | cons p r =>
          have hp := hrest p r rfl
          simp only [List.mem_cons, List.not_mem_nil, or_false] at hp
          rcases hp with rfl | rfl | rfl <;> rfl
  | some e =>
      obtain ⟨negative, ds⟩ := e
      obtain ⟨hdigits, hsome⟩ := n.exponent_digits _ hexponent
      have hrun := digitRun_digits hdigits hrest.noDigit
      have hempty : ds.isEmpty = false := by simpa using hsome
      cases negative with
      | true =>
          change readExponent (.char 'e' :: .char '-' :: (ofChars ds ++ rest)) = _
          simp only [readExponent]
          rw [if_pos (by decide), hrun]
          simp [hempty]
      | false =>
          change readExponent (.char 'e' :: .char '+' :: (ofChars ds ++ rest)) = _
          simp only [readExponent]
          rw [if_pos (by decide), hrun]
          simp [hempty]

/-- The exponent begins with neither a digit nor a point. -/
theorem exponentChars_begins (n : Numeral) (hrest : Closes rest) :
    NoDigit (ofChars n.exponentChars ++ rest) ∧
      ∀ r, ofChars n.exponentChars ++ rest ≠ .char '.' :: r := by
  rw [Numeral.exponentChars]
  cases n.exponent with
  | none =>
      refine ⟨hrest.noDigit, fun r h => ?_⟩
      exact absurd (hrest _ r h) (by decide)
  | some e =>
      refine ⟨fun p r h => ?_, fun r h => ?_⟩
      · rw [← (List.cons.inj h).1]
        rfl
      · exact absurd (Point.char.inj (List.cons.inj h).1) (by decide)

theorem fractionChars_begins (n : Numeral) (hrest : Closes rest) :
    NoDigit (ofChars n.fractionChars ++ (ofChars n.exponentChars ++ rest)) := by
  rw [Numeral.fractionChars]
  split
  · exact (exponentChars_begins n hrest).1
  · intro p r h
    rw [← (List.cons.inj h).1]
    rfl

theorem readMagnitude_numeral (n : Numeral) (hrest : Closes rest) :
    readMagnitude n.negative (ofChars n.magnitudeChars ++ rest) =
      n.value?.map fun m => (m, rest) := by
  obtain ⟨hexponent, hpoint⟩ := exponentChars_begins n hrest
  have hnone : n.exponent?.isNone = n.exponent.isNone := by simp [Numeral.exponent?]
  rw [Numeral.magnitudeChars, ofChars_append, ofChars_append, List.append_assoc,
    List.append_assoc, readMagnitude, readWhole_whole n (fractionChars_begins n hrest)]
  simp only [Option.bind_eq_bind, Option.bind_some]
  rw [readFraction_fraction n hexponent hpoint]
  simp only []
  rw [readExponent_exponent n hrest, Numeral.value?]
  simp only [hnone, Bool.and_eq_true, List.isEmpty_iff, Option.isNone_iff_eq_none]
  split
  · split
    · rfl
    · rfl
  · rfl

namespace Numeral

theorem magnitudeChars_begin (n : Numeral) :
    ∃ c r, n.magnitudeChars = c :: r ∧ c.isDigit = true := by
  obtain ⟨c, ds, hwhole⟩ : ∃ c ds, n.whole = c :: ds := by
    rcases n.whole_lead with hzero | ⟨c, ds, hwhole, -⟩
    · exact ⟨_, _, hzero⟩
    · exact ⟨c, ds, hwhole⟩
  refine ⟨c, _, by rw [magnitudeChars, hwhole]; rfl, ?_⟩
  exact n.whole_digits c (hwhole ▸ List.mem_cons_self)

theorem chars_begin (n : Numeral) :
    ∃ c r, n.chars = c :: r ∧ (c = '-' ∨ c.isDigit = true) := by
  rw [chars]
  split
  · exact ⟨_, _, rfl, Or.inl rfl⟩
  · obtain ⟨c, r, hchars, hc⟩ := n.magnitudeChars_begin
    exact ⟨c, r, hchars, Or.inr hc⟩

end Numeral

theorem after?_of_ne {c d : Char} (h : c ≠ d) (w : List Char) (r : Text) :
    after? (d :: w) (.char c :: r) = none := by
  rw [after?, if_neg]
  exact fun heq => h (Point.char.inj heq)

theorem readNumber_numeral (n : Numeral) (hrest : Closes rest) :
    readNumber (ofChars n.chars ++ rest) = n.value?.map fun m => (m, rest) := by
  have hmagnitude := readMagnitude_numeral n hrest
  obtain ⟨c, r, hwhole, hc⟩ := n.magnitudeChars_begin
  rw [Numeral.chars]
  cases hsign : n.negative with
  | true =>
      rw [if_pos rfl]
      change readNumber (.char '-' :: (ofChars n.magnitudeChars ++ rest)) = _
      rw [hsign] at hmagnitude
      rw [readNumber, ← hmagnitude, hwhole]
      have hword : after? "Infinity".toList (ofChars (c :: r) ++ rest) = none :=
        after?_of_ne (by rintro rfl; cases hc) _ _
      rw [hword]
  | false =>
      rw [if_neg (by simp)]
      rw [hsign] at hmagnitude
      rw [readNumber, hmagnitude]
      intro t h
      rw [hwhole] at h
      rw [Point.char.inj (List.cons.inj h).1] at hc
      cases hc

/-- A numeral is read as the number it stands for, up to what closes the value. -/
theorem readWord_numeral (n : Numeral) (hrest : Closes rest) :
    readWord (ofChars n.chars ++ rest) = n.value?.map fun m => (.number m, rest) := by
  have hnumber := readNumber_numeral n hrest
  obtain ⟨c, r, hchars, hc⟩ := n.chars_begin
  have hword : ∀ d w, d ≠ '-' → d.isDigit = false →
      after? (d :: w) (ofChars n.chars ++ rest) = none := by
    intro d w hminus hdigit
    rw [hchars]
    refine after?_of_ne ?_ w _
    rintro rfl
    rcases hc with hc | hc
    · exact hminus hc
    · rw [hc] at hdigit
      cases hdigit
  have hnull : after? "null".toList (ofChars n.chars ++ rest) = none :=
    hword _ _ (by decide) (by decide)
  have htrue : after? "true".toList (ofChars n.chars ++ rest) = none :=
    hword _ _ (by decide) (by decide)
  have hfalse : after? "false".toList (ofChars n.chars ++ rest) = none :=
    hword _ _ (by decide) (by decide)
  have hnan : after? "NaN".toList (ofChars n.chars ++ rest) = none :=
    hword _ _ (by decide) (by decide)
  have hinfinite : after? "Infinity".toList (ofChars n.chars ++ rest) = none :=
    hword _ _ (by decide) (by decide)
  simp only [readWord, hnull, htrue, hfalse, hnan, hinfinite, hnumber]
  cases n.value? <;> rfl

/-! ### Writing integers -/

theorem areDigits_toDigits (n : Nat) : AreDigits (Nat.toDigits 10 n) :=
  fun _ hc => Nat.isDigit_of_mem_toDigits (by decide) (by decide) hc

/-- The digits of a number begin with a zero only if it is zero. -/
theorem toDigits_lead {n : Nat} (hn : n ≠ 0) : ∃ c ds, Nat.toDigits 10 n = c :: ds ∧ c ≠ '0' := by
  induction n using Nat.strongRecOn with
  | ind n ih =>
      by_cases hsmall : n < 10
      · exact ⟨_, _, Nat.toDigits_of_lt_base hsmall, fun h => hn (Nat.digitChar_eq_zero.mp h)⟩
      · obtain ⟨c, ds, hdigits, hc⟩ := ih (n / 10) (by omega) (by omega)
        refine ⟨c, ds ++ [(n % 10).digitChar], ?_, hc⟩
        rw [Nat.toDigits_of_base_le (by decide) (by omega), hdigits, List.cons_append]

/-- The digits of an integer behind its sign. -/
def Numeral.ofInt (i : Int) : Numeral where
  negative := decide (i < 0)
  whole := Nat.toDigits 10 i.natAbs
  fraction := []
  exponent := none
  whole_digits := areDigits_toDigits _
  whole_lead := by
    by_cases h : i.natAbs = 0
    · rw [h]
      exact Or.inl rfl
    · exact Or.inr (toDigits_lead h)
  fraction_digits := by simp [AreDigits]
  exponent_digits := by simp

theorem Numeral.ofInt_chars (i : Int) : (Numeral.ofInt i).chars = Number.ofIntChars i := by
  cases i with
  | ofNat n => simp [chars, ofInt, magnitudeChars, fractionChars, exponentChars, Number.ofIntChars]
  | negSucc n =>
      simp [chars, ofInt, magnitudeChars, fractionChars, exponentChars, Number.ofIntChars,
        Int.negSucc_lt_zero]

theorem Numeral.ofInt_value? (i : Int) :
    (Numeral.ofInt i).value? =
      if integerLimit < (Nat.toDigits 10 i.natAbs).length then none else some (.int i) := by
  have hsize : (if i < 0 then -(i.natAbs : Int) else i.natAbs) = i := by
    split <;> omega
  simp only [value?, ofInt, and_self, if_true, Nat.ofDigitChars_ten_toDigits, decide_eq_true_eq]
  rw [hsize]

/-! ### Writing floating-point numbers -/

/-- The characters of a numeral behind its sign that stands for a floating-point number. -/
def SpellsReal (negative : Bool) (cs : List Char) : Prop :=
  ∃ n : Numeral, n.negative = negative ∧ n.magnitudeChars = cs ∧
    (n.fraction ≠ [] ∨ n.exponent ≠ none)

theorem spellsReal_positional {whole fraction : List Char} (negative : Bool)
    (hwhole : AreDigits whole) (hlead : whole = ['0'] ∨ ∃ c ds, whole = c :: ds ∧ c ≠ '0')
    (hfraction : AreDigits fraction) (hsome : fraction ≠ []) :
    SpellsReal negative (whole ++ '.' :: fraction) := by
  refine ⟨⟨negative, whole, fraction, none, hwhole, hlead, hfraction, by simp⟩, rfl, ?_,
    Or.inl hsome⟩
  simp [Numeral.magnitudeChars, Numeral.fractionChars, Numeral.exponentChars, hsome]

theorem spellsReal_scientific {c : Char} {power : List Char} (negative sign : Bool) (hc : c ≠ '0')
    (hdigits : AreDigits (c :: ds)) (hpower : AreDigits power) (hsome : power ≠ []) :
    SpellsReal negative
      (c :: (if ds = [] then [] else '.' :: ds) ++ 'e' :: (if sign then '-' else '+') :: power) := by
  obtain ⟨hfirst, htail⟩ := List.forall_mem_cons.mp hdigits
  refine ⟨⟨negative, [c], ds, some (sign, power), List.forall_mem_singleton.mpr hfirst,
    Or.inr ⟨c, [], rfl, hc⟩, htail, ?_⟩, rfl, ?_, Or.inr (by simp)⟩
  · rintro e ⟨⟩
    exact ⟨hpower, hsome⟩
  · simp [Numeral.magnitudeChars, Numeral.fractionChars, Numeral.exponentChars]

theorem areDigits_zeros (k : Nat) : AreDigits (List.replicate k '0') := by
  intro d hd
  rw [List.eq_of_mem_replicate hd]
  rfl

/-- Digits that are laid out, in either notation, spell a number that is no integer. -/
theorem spellsReal_layout (l : Binary64.Layout) (negative : Bool) {c : Char} (hc : c ≠ '0')
    (hdigits : AreDigits (c :: ds)) (exponent : Int) :
    SpellsReal negative (l.write (c :: ds) exponent) := by
  unfold Binary64.Layout.write
  split
  · cases exponent with
    | negSucc e =>
        have hzero : AreDigits ['0'] := List.forall_mem_singleton.mpr rfl
        have hfraction := List.forall_mem_append.mpr ⟨areDigits_zeros e, hdigits⟩
        exact spellsReal_positional negative hzero (Or.inl rfl) hfraction (by simp)
    | ofNat e =>
        refine spellsReal_positional negative ?_ (Or.inr ⟨c, _, rfl, hc⟩) ?_ ?_
        · exact List.forall_mem_append.mpr
            ⟨fun d hd => hdigits d (List.mem_of_mem_take hd), areDigits_zeros _⟩
        · split
          · exact List.forall_mem_singleton.mpr rfl
          · exact fun d hd => hdigits d (List.mem_of_mem_drop hd)
        · split
          · simp
          · next hfull => simpa using hfull
  · have hpower : AreDigits (List.replicate (l.exponentWidth -
        (Nat.toDigits 10 exponent.natAbs).length) '0' ++ Nat.toDigits 10 exponent.natAbs) :=
      List.forall_mem_append.mpr ⟨areDigits_zeros _, areDigits_toDigits _⟩
    have hspells := spellsReal_scientific negative (decide (exponent < 0)) hc hdigits hpower
      (by simp)
    simpa using hspells

end Json

namespace Binary64

/-! ### The shortest digits are those of a positive number -/

theorem magnitude_pos {rank : Nat} (h : 0 < rank) : 0 < magnitude rank := by
  rw [magnitude]
  split
  · exact h
  · have hone : 0 < significands := Nat.pow_pos (by decide)
    exact Nat.mul_pos (by omega) (Nat.pow_pos (by decide))

/-- Zero reads back as no magnitude but zero. -/
theorem not_contains_zero {rank den : Nat} (h : 0 < rank) (hden : 0 < den) :
    (basin rank).contains 0 den = false := by
  have hlow : 0 < (basin rank).low * den := by
    refine Nat.mul_pos ?_ hden
    have := magnitude_pos h
    rw [basin]
    dsimp only
    omega
  rw [Basin.contains]
  split
  · rw [Bool.and_eq_false_iff, decide_eq_false_iff_not]
    exact Or.inl (by omega)
  · rw [Bool.and_eq_false_iff, decide_eq_false_iff_not]
    exact Or.inl (by omega)

theorem gridPoint?_digits {rank : Nat} (h : 0 < rank) {exponent : Int} {d : Decimal}
    (hd : gridPoint? rank exponent = some d) : d.digits ≠ 0 := by
  have hzero : (basin rank).contains (0 * (halfUnits * Nat.pow 10 exponent.toNat))
      (Nat.pow 10 (-exponent).toNat) = false := by
    rw [Nat.zero_mul]
    exact not_contains_zero h (Nat.pow_pos (by decide))
  have hbelow : ∀ below, (basin rank).contains (below * (halfUnits * Nat.pow 10 exponent.toNat))
      (Nat.pow 10 (-exponent).toNat) = true → below ≠ 0 := by
    rintro below hhit rfl
    rw [hzero] at hhit
    cases hhit
  unfold gridPoint? at hd
  dsimp only at hd
  split at hd
  · next hhit _ =>
    rw [← Option.some.inj hd]
    dsimp only
    split
    · exact hbelow _ hhit
    · exact Nat.succ_ne_zero _
  · next hhit _ =>
    rw [← Option.some.inj hd]
    exact hbelow _ hhit
  · rw [← Option.some.inj hd]
    exact Nat.succ_ne_zero _
  · cases hd

theorem shortestFrom_digits {rank : Nat} (h : 0 < rank) (exponent : Int) (more : Nat) :
    (shortestFrom rank exponent more).digits ≠ 0 := by
  induction more generalizing exponent with
  | zero =>
      have := magnitude_pos h
      rw [shortestFrom]
      dsimp only
      omega
  | succ more ih =>
      rw [shortestFrom]
      cases hpoint : gridPoint? rank exponent with
      | none => exact ih (exponent - 1)
      | some d => exact gridPoint?_digits h hpoint

theorem leading_digits {d : Decimal} (h : d.digits ≠ 0) :
    ∃ c ds, d.leading.1 = c :: ds ∧ c ≠ '0' ∧ Json.AreDigits (c :: ds) := by
  obtain ⟨c, cs, hdigits, hc⟩ := Json.toDigits_lead h
  have hall := Json.areDigits_toDigits d.digits
  have hlast : (c == '0') = false := by simpa using hc
  obtain ⟨ds, hds⟩ : ∃ ds, d.leading.1 = c :: ds := by
    rw [Decimal.leading, hdigits, List.reverse_cons, List.dropWhile_append]
    split
    · exact ⟨[], by simp [hlast]⟩
    · exact ⟨_, by rw [List.reverse_append]; rfl⟩
  refine ⟨c, ds, hds, hc, fun x hx => hall x ?_⟩
  rw [← hds, Decimal.leading, List.mem_reverse] at hx
  exact List.mem_reverse.mp ((List.dropWhile_sublist _).subset hx)

end Binary64

namespace Json

open Text

variable {rest : Text}

/-- A finite floating-point number is written as a numeral that is no integer. -/
theorem writeNumber_finite (negative : Bool) (rank : Fin Binary64.magnitudes) :
    ∃ n : Numeral, n.chars = writeNumber (.real (.finite negative rank)) ∧
      (n.fraction ≠ [] ∨ n.exponent ≠ none) := by
  obtain ⟨n, hsign, hchars, hreal⟩ : SpellsReal negative
      (if rank.val = 0 then "0.0".toList
        else Binary64.Layout.standard.write (Binary64.shortest rank).leading.1
          (Binary64.shortest rank).leading.2) := by
    split
    · exact spellsReal_positional negative (List.forall_mem_singleton.mpr rfl) (Or.inl rfl)
        (List.forall_mem_singleton.mpr rfl) (by simp)
    · next hrank =>
      obtain ⟨c, ds, hdigits, hc, hall⟩ := Binary64.leading_digits
        (Binary64.shortestFrom_digits (Nat.pos_of_ne_zero hrank) _ 17)
      rw [Binary64.shortest, hdigits]
      exact spellsReal_layout _ negative hc hall _
  refine ⟨n, ?_, hreal⟩
  rw [Numeral.chars, hsign, hchars]
  rfl

theorem Numeral.value?_real {n : Numeral} (h : n.fraction ≠ [] ∨ n.exponent ≠ none) :
    ∃ x, n.value? = some (.real x) := by
  rw [value?, if_neg]
  · exact ⟨_, rfl⟩
  · rintro ⟨hfraction, hexponent⟩
    rcases h with h | h
    · exact h hfraction
    · exact h hexponent

end Json

/-! ### Reading back -/

/-- The floating-point number that the text of one is read as. -/
def Binary64.reread (x : Binary64) : Binary64 :=
  match Json.readNumber (Text.ofChars (Json.writeNumber (.real x))) with
  | some (.real y, _) => y
  | _ => x

/-- The number that the text of one is read as. An integer may have too many digits to be read. -/
def Number.reread? : Number → Option Number
  | .int i =>
    if Json.integerLimit < (Nat.toDigits 10 i.natAbs).length then none else some (.int i)
  | .real x => some (.real x.reread)

namespace Json

open Text

variable {rest : Text}

/-- A number is read from the beginning of every text in which it closes a value. -/
theorem readWord_written (n : Number) (hrest : Closes rest) :
    readWord (ofChars (writeNumber n) ++ rest) =
      n.reread?.map fun m => (.number m, rest) := by
  cases n with
  | int i =>
      have hchars : writeNumber (.int i) = (Numeral.ofInt i).chars :=
        (Numeral.ofInt_chars i).symm
      rw [hchars, readWord_numeral _ hrest, Numeral.ofInt_value?, Number.reread?]
  | real x =>
      cases x with
      | nan => rfl
      | infinite negative => cases negative <;> rfl
      | finite negative rank =>
          obtain ⟨n, hchars, hreal⟩ := writeNumber_finite negative rank
          obtain ⟨y, hy⟩ := Numeral.value?_real hreal
          have halone := readNumber_numeral n (show Closes [] by simp [Closes])
          rw [List.append_nil, hy] at halone
          rw [Number.reread?, Binary64.reread, ← hchars, halone, readWord_numeral n hrest, hy]
          rfl

theorem writeNumber_begin (n : Number) :
    ∃ c r, writeNumber n = c :: r ∧ (c = '-' ∨ c.isDigit = true ∨ c = 'N' ∨ c = 'I') := by
  cases n with
  | int i =>
      obtain ⟨c, r, hchars, hc⟩ := (Numeral.ofInt i).chars_begin
      rw [Numeral.ofInt_chars] at hchars
      exact ⟨c, r, hchars, hc.imp_right Or.inl⟩
  | real x =>
      cases x with
      | nan => exact ⟨'N', "aN".toList, rfl, by simp⟩
      | infinite negative =>
          cases negative with
          | false => exact ⟨'I', "nfinity".toList, rfl, by simp⟩
          | true => exact ⟨'-', "Infinity".toList, rfl, by simp⟩
      | finite negative rank =>
          obtain ⟨n, hwrite, -⟩ := writeNumber_finite negative rank
          obtain ⟨c, r, hchars, hc⟩ := n.chars_begin
          exact ⟨c, r, hwrite ▸ hchars, hc.imp_right Or.inl⟩

end Json

end SearchBridge
