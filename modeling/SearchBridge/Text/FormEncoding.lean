import SearchBridge.Text.Hex
/-!
Form encoding of text in a query string, and its decoding.

Letters, digits and `_`, `.`, `-`, `~` stand for themselves, a space is written `+`, and every
other character is written as its UTF-8 octets, each as `%` and two upper-case digits in base
sixteen. Decoding gives every text back (`formDecode?_formEncode`).
-/

namespace SearchBridge

namespace Text

def isUnreserved (c : Char) : Bool :=
  c.isAlphanum || c = '_' || c = '.' || c = '-' || c = '~'

/-- One octet as `%` and two digits. -/
def percentOctet (b : UInt8) : List Char :=
  ['%', upperHexDigit (b.toNat / 16), upperHexDigit (b.toNat % 16)]

def formEncodeChar (c : Char) : List Char :=
  if isUnreserved c then [c]
  else if c = ' ' then ['+']
  else (String.utf8EncodeChar c).flatMap percentOctet

def formEncode (s : String) : String := String.ofList (s.toList.flatMap formEncodeChar)

/-- The octets that form-encoded text stands for; a `%` has to be followed by two digits. -/
def formOctets? : List Char → Option (List UInt8)
  | [] => some []
  | '%' :: a :: b :: r => do
    let n ← hexNumber? [a, b]
    pure (UInt8.ofNat n :: (← formOctets? r))
  | c :: r =>
    if c = '%' then none
    else if c = '+' then (formOctets? r).map (0x20 :: ·)
    else (formOctets? r).map (String.utf8EncodeChar c ++ ·)

def formDecode? (s : String) : Option String := do
  let octets ← formOctets? s.toList
  let cs ← octets.toByteArray.utf8Decode?
  pure (String.ofList cs.toList)

theorem hexNumber?_upperHexDigit (b : UInt8) :
    hexNumber? [upperHexDigit (b.toNat / 16), upperHexDigit (b.toNat % 16)] = some b.toNat := by
  have digit : ∀ n, n < 16 → hexValue? (upperHexDigit n) = some n := by decide
  have hb := b.toNat_lt
  have high := digit (b.toNat / 16) (by omega)
  have low := digit (b.toNat % 16) (by omega)
  simp only [hexNumber?, List.mapM_cons, List.mapM_nil, high, low, Option.bind_eq_bind,
    Option.bind_some, Option.pure_def, Option.map_some, List.foldl_cons, List.foldl_nil]
  exact congrArg some (by omega)

theorem formOctets?_percentOctets (bs : List UInt8) (rest : List Char) :
    formOctets? (bs.flatMap percentOctet ++ rest) = (formOctets? rest).map (bs ++ ·) := by
  induction bs with
  | nil => cases h : formOctets? rest <;> simp [h]
  | cons b bs ih =>
      rw [List.flatMap_cons, List.append_assoc]
      simp only [percentOctet, List.cons_append, List.nil_append, formOctets?,
        hexNumber?_upperHexDigit, ih]
      cases h : formOctets? rest <;> simp

theorem formOctets?_formEncodeChar (c : Char) (rest : List Char) :
    formOctets? (formEncodeChar c ++ rest)
      = (formOctets? rest).map (String.utf8EncodeChar c ++ ·) := by
  by_cases hc : isUnreserved c
  · have hp : c ≠ '%' := by rintro rfl; exact absurd hc (by decide)
    have hq : c ≠ '+' := by rintro rfl; exact absurd hc (by decide)
    simp only [formEncodeChar, hc, if_true, List.cons_append, List.nil_append]
    rw [formOctets?]
    · simp [hp, hq]
    · intros; simp_all
  · by_cases hs : c = ' '
    · subst hs
      have : String.utf8EncodeChar ' ' = [0x20] := by decide
      simp [formEncodeChar, hc, formOctets?, this]
    · simp [formEncodeChar, hc, hs, formOctets?_percentOctets]

theorem formOctets?_flatMap (cs : List Char) :
    formOctets? (cs.flatMap formEncodeChar) = some (cs.flatMap String.utf8EncodeChar) := by
  induction cs with
  | nil => rfl
  | cons c cs ih => simp [List.flatMap_cons, formOctets?_formEncodeChar, ih]

theorem formDecode?_formEncode (s : String) : formDecode? (formEncode s) = some s := by
  rw [formDecode?, formEncode, String.toList_ofList, formOctets?_flatMap]
  change ((s.toList.utf8Encode.utf8Decode?).bind fun cs => some (String.ofList cs.toList)) = _
  rw [List.utf8Decode?_utf8Encode]
  simp

end Text

end SearchBridge
