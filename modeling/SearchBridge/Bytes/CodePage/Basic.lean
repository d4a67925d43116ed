/-!
Character sets with one octet per character, each by its characters in the order of the octets.
-/

namespace SearchBridge

/-- A character set with one octet per character: its name, its other names, the first octet of its
table, and the characters from there on, U+FFFD for an octet that is not defined. The octets below
the first one stand for themselves. -/
structure CodePage where
  name : String
  aliases : List String
  first : Nat
  cells : List String
  deriving DecidableEq, Repr

namespace CodePage

def point? (p : CodePage) (b : UInt8) : Option Nat :=
  if b.toNat < p.first then some b.toNat
  else (((p.cells.flatMap String.toList)[b.toNat - p.first]?).filter (· ≠ '\uFFFD')).map Char.toNat

end CodePage

end SearchBridge
