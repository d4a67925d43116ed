/-!
Text as JSON brings it: a list of code points.

Nearly every code point is a character, but JSON can also bring a surrogate without its partner, and
such a surrogate is kept in ids, in field names and in messages. Every `String` is a text. Code
points are ordered by their numbers, texts as lists of code points.
-/

namespace SearchBridge

/-- A code point: a character, or a surrogate that stands alone, counted from U+D800. -/
inductive Point where
  | char (c : Char)
  | surrogate (s : Fin 2048)
  deriving DecidableEq, Repr

namespace Point

def toNat : Point → Nat
  | .char c => c.toNat
  | .surrogate s => 0xD800 + s.val

def ofNat (n : Nat) : Point :=
  if h : 0xD800 ≤ n ∧ n < 0xE000 then .surrogate ⟨n - 0xD800, by omega⟩ else .char (Char.ofNat n)

def char? : Point → Option Char
  | .char c => some c
  | .surrogate _ => none

def isChar (is : Char → Bool) : Point → Bool
  | .char c => is c
  | .surrogate _ => false

theorem toNat_inj {a b : Point} : a.toNat = b.toNat ↔ a = b := by
  have valid : ∀ c : Char, c.toNat < 0xD800 ∨ 0xDFFF < c.toNat := fun c =>
    c.valid.imp id And.left
  refine ⟨fun h => ?_, fun h => h ▸ rfl⟩
  match a, b, h with
  | .char c, .char d, h => exact congrArg Point.char (Char.ext (UInt32.toNat_inj.1 h))
  | .surrogate s, .surrogate t, h =>
    simp only [toNat] at h
    exact congrArg Point.surrogate (Fin.ext (by omega))
  | .char c, .surrogate t, h =>
    have := valid c
    simp only [toNat] at h
    omega
  | .surrogate s, .char d, h =>
    have := valid d
    simp only [toNat] at h
    omega

instance : LE Point := ⟨fun a b => a.toNat ≤ b.toNat⟩

instance : LT Point := ⟨fun a b => a.toNat < b.toNat⟩

instance : DecidableLE Point := fun a b => inferInstanceAs (Decidable (a.toNat ≤ b.toNat))

instance : DecidableLT Point := fun a b => inferInstanceAs (Decidable (a.toNat < b.toNat))

instance : Std.LawfulOrderLT Point where
  lt_iff a b := by
    change a.toNat < b.toNat ↔ a.toNat ≤ b.toNat ∧ ¬b.toNat ≤ a.toNat
    omega

instance : Std.IsLinearOrder Point where
  le_refl a := Nat.le_refl a.toNat
  le_trans _ _ _ h h' := Nat.le_trans (h : _ ≤ Point.toNat _) h'
  le_antisymm _ _ h h' := toNat_inj.1 (Nat.le_antisymm h h')
  le_total a b := Nat.le_total a.toNat b.toNat

end Point

/-- A text: its code points in order. -/
abbrev Text := List Point

namespace Text

def ofChars (cs : List Char) : Text := cs.map .char

def ofString (s : String) : Text := ofChars s.toList

instance : Coe String Text := ⟨ofString⟩

/-- The characters of a text, unless a surrogate stands alone in it. -/
def chars? (t : Text) : Option (List Char) := t.mapM Point.char?

/-- The text as a string, unless a surrogate stands alone in it. -/
def string? (t : Text) : Option String := t.chars?.map String.ofList

/-- The text as a string, with U+FFFD for each surrogate that stands alone. -/
def toDisplay (t : Text) : String := String.ofList (t.map fun p => p.char?.getD '\uFFFD')

theorem ofChars_inj {cs ds : List Char} : ofChars cs = ofChars ds ↔ cs = ds :=
  (List.map_inj_right fun _ _ h => Point.char.inj h)

theorem ofString_inj {s t : String} : ofString s = ofString t ↔ s = t := by
  rw [ofString, ofString, ofChars_inj, String.toList_inj]

@[simp] theorem chars?_ofChars (cs : List Char) : (ofChars cs).chars? = some cs := by
  induction cs with
  | nil => rfl
  | cons c cs ih =>
      have h : (List.map Point.char cs).mapM Point.char? = some cs := ih
      simp [chars?, ofChars, Point.char?, h]

@[simp] theorem string?_ofString (s : String) : (ofString s).string? = some s := by
  simp [string?, ofString]

end Text

end SearchBridge
