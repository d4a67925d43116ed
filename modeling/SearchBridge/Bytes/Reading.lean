import SearchBridge.Text.Basic
/-!
Reading octets from the front: what stands there is some code points, or a malformed piece, or a
piece of which the end is missing.

A reader says this of one octet and the octets after it. `piecesFrom` applies a reader until
nothing is left, so that each malformed piece is one gap in the text; the last piece is malformed if
its end is missing. What a malformed piece is depends on the reader alone.
-/

namespace SearchBridge

/-- Why octets have no text in a character set. -/
inductive CharsetFault where
  /-- A malformed piece, where none is let through. -/
  | malformed
  /-- The octets do not start with a byte order mark for units of so many bits. -/
  | noMark (bits : Nat)
  /-- The character set has no characters. -/
  | undefined
  /-- Malformed pieces cannot be replaced in this character set. -/
  | irreplaceable
  /-- The name is that of a way to pack octets, not of a character set. -/
  | packing
  /-- The name is that of a way to exchange letters for letters. -/
  | exchange
  /-- A piece without an end that is too long to wait for it. -/
  | overflow
  /-- A character of a set that cannot be used in its place. -/
  | misplaced
  /-- An octet above ASCII where only ASCII may stand. -/
  | notAscii (octet position : Nat)
  deriving DecidableEq, Repr

def CharsetFault.message : CharsetFault → String
  | .malformed => "malformed text"
  | .noMark bits =>
    "UTF-" ++ String.ofList (Nat.toDigits 10 bits) ++ " stream does not start with BOM"
  | .undefined => "undefined encoding"
  | .irreplaceable => "Unsupported error handling replace"
  | .packing => ""
  | .exchange => "descriptor 'translate' for 'str' objects doesn't apply to a 'bytes' object"
  | .overflow => "pending buffer overflow"
  | .misplaced => "internal codec error"
  | .notAscii octet position =>
    "'ascii' codec can't decode byte 0x" ++ String.ofList (Nat.toDigits 16 octet) ++ " in position "
      ++ String.ofList (Nat.toDigits 10 position) ++ ": ordinal not in range(128)"

/-- What octets give, in order: code points, and `none` for each malformed piece. -/
abbrev Pieces := List (Option Point)

namespace Pieces

/-- The text with U+FFFD for each malformed piece. -/
def lossy (ps : Pieces) : Text := ps.map (·.getD (.char '\uFFFD'))

def strict? : Pieces → Option Text
  | [] => some []
  | none :: _ => none
  | some p :: ps => (strict? ps).map (p :: ·)

/-- The text with U+FFFD for each malformed piece if those are let through. -/
def text (letThrough : Bool) (ps : Pieces) : Except CharsetFault Text :=
  if letThrough then .ok ps.lossy else ps.strict?.elim (.error .malformed) .ok

def ofNats (ns : List Nat) : Pieces := ns.map fun n => some (.ofNat n)

theorem strict?_eq_some {ps : Pieces} {t : Text} : ps.strict? = some t ↔ ps = t.map some := by
  induction ps generalizing t with
  | nil => cases t <;> simp [strict?]
  | cons p ps ih =>
      cases p <;> cases t <;> simp [strict?, ih]
      exact and_comm

end Pieces

/-- What is at the front of octets: code points, a malformed piece, each with the number of octets
after the first that belong to it, or a piece of which the end is missing. -/
inductive Reading (σ : Type) where
  | points (more : Nat) (ns : List Nat) (state : σ)
  | malformed (more : Nat)
  | incomplete
  | fault (f : CharsetFault)

namespace Reading

variable {σ : Type}

/-- The pieces that a reader finds. A malformed piece leaves the state of the reader as it is. -/
def piecesFrom (read : σ → UInt8 → List UInt8 → Reading σ) (state : σ) :
    List UInt8 → Except CharsetFault Pieces
  | [] => .ok []
  | b :: r =>
    match read state b r with
    | .points more ns state =>
      (piecesFrom read state (r.drop more)).map (Pieces.ofNats ns ++ ·)
    | .malformed more => (piecesFrom read state (r.drop more)).map (none :: ·)
    | .incomplete => .ok [none]
    | .fault f => .error f
termination_by bs => bs.length
decreasing_by
  · simp only [List.length_drop, List.length_cons]
    omega
  · simp only [List.length_drop, List.length_cons]
    omega

end Reading

/-- What is at the front of octets, for a reader without a state and without faults. -/
inductive Front where
  | points (more : Nat) (ns : List Nat)
  | malformed (more : Nat)
  | incomplete
  deriving DecidableEq, Repr

namespace Front

def point (more n : Nat) : Front := .points more [n]

/-- The code points in an octet and some more; if there are none, the first octet is malformed. -/
def ofOption (more : Nat) (ns : Option (List Nat)) : Front := ns.elim (.malformed 0) (.points more)

/-- What the second octet decides. -/
def second (r : List UInt8) (k : Nat → Front) : Front :=
  match r with
  | b :: _ => k b.toNat
  | [] => .incomplete

/-- What the second and the third octet decide. -/
def third (r : List UInt8) (k : Nat → Nat → Front) : Front :=
  match r with
  | b :: c :: _ => k b.toNat c.toNat
  | _ => .incomplete

def pieces (read : UInt8 → List UInt8 → Front) : List UInt8 → Pieces
  | [] => []
  | b :: r =>
    match read b r with
    | .points more ns => Pieces.ofNats ns ++ pieces read (r.drop more)
    | .malformed more => none :: pieces read (r.drop more)
    | .incomplete => [none]
termination_by bs => bs.length
decreasing_by
  · simp only [List.length_drop, List.length_cons]
    omega
  · simp only [List.length_drop, List.length_cons]
    omega

end Front

end SearchBridge
