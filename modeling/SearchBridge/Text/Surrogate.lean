import SearchBridge.Text.Basic
/-!
Surrogates: UTF-16 units that stand for a character only in pairs.
-/

namespace SearchBridge

namespace Text

def isHighSurrogate (n : Nat) : Bool := 0xD800 ≤ n && n < 0xDC00

def isLowSurrogate (n : Nat) : Bool := 0xDC00 ≤ n && n < 0xE000

/-- The character of a surrogate pair. -/
def joinPair (high low : Nat) : Char :=
  Char.ofNat (0x10000 + (high - 0xD800) * 0x400 + (low - 0xDC00))

/-- The surrogate pair of a code point above U+FFFF. -/
def splitPair (n : Nat) : Nat × Nat :=
  (0xD800 + (n - 0x10000) / 0x400, 0xDC00 + (n - 0x10000) % 0x400)

/-- A piece of a text under way: a code point, or a UTF-16 unit that may be half of a character. -/
inductive Piece where
  | point (p : Point)
  | unit (n : Nat)
  deriving DecidableEq, Repr

/-- The text of pieces. Two units that form a surrogate pair are one character. -/
def joinPieces : List Piece → Text
  | [] => []
  | .unit h :: .unit l :: r =>
    if isHighSurrogate h && isLowSurrogate l then .char (joinPair h l) :: joinPieces r
    else .ofNat h :: joinPieces (.unit l :: r)
  | .unit n :: r => .ofNat n :: joinPieces r
  | .point p :: r => p :: joinPieces r

end Text

end SearchBridge
