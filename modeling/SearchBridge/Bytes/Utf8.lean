import SearchBridge.Bytes.Reading
/-!
Decoding UTF-8 octet by octet.

The decoder is a small machine: between characters it waits for a leading octet, inside one it
knows how many octets are still due and in which range the next one has to lie. An octet out of
range ends the character as malformed and is looked at again as a leading octet, so that each
maximal beginning of a character that goes wrong is one malformed piece.
-/

namespace SearchBridge

namespace Utf8

/-- Inside a character: how many octets are due, the range of the next one, the bits so far. -/
structure Partial where
  due : Nat
  low : Nat
  high : Nat
  bits : Nat
  deriving DecidableEq, Repr

/-- What an octet in leading position gives: a piece, or the beginning of a longer character. With
`surrogates` their code points count as characters. -/
def lead (surrogates : Bool) (b : Nat) : Except (Option Point) Partial :=
  if b < 0x80 then .error (some (.ofNat b))
  else if b < 0xC2 then .error none
  else if b < 0xE0 then .ok ⟨1, 0x80, 0xBF, b - 0xC0⟩
  else if b = 0xE0 then .ok ⟨2, 0xA0, 0xBF, 0⟩
  else if b = 0xED && !surrogates then .ok ⟨2, 0x80, 0x9F, b - 0xE0⟩
  else if b < 0xF0 then .ok ⟨2, 0x80, 0xBF, b - 0xE0⟩
  else if b = 0xF0 then .ok ⟨3, 0x90, 0xBF, 0⟩
  else if b < 0xF4 then .ok ⟨3, 0x80, 0xBF, b - 0xF0⟩
  else if b = 0xF4 then .ok ⟨3, 0x80, 0x8F, b - 0xF0⟩
  else .error none

/-- One step of the machine: the pieces that an octet completes, and the state after it. -/
def step (surrogates : Bool) (state : Option Partial) (b : Nat) : Pieces × Option Partial :=
  let fresh : Pieces × Option Partial :=
    match lead surrogates b with
    | .ok p => ([], some p)
    | .error piece => ([piece], none)
  match state with
  | none => fresh
  | some p =>
    if p.low ≤ b && b ≤ p.high then
      let bits := p.bits * 64 + (b - 0x80)
      if p.due ≤ 1 then ([some (.ofNat bits)], none) else ([], some ⟨p.due - 1, 0x80, 0xBF, bits⟩)
    else (none :: fresh.1, fresh.2)

def piecesFrom (surrogates : Bool) (state : Option Partial) : List UInt8 → Pieces
  | [] => if state.isSome then [none] else []
  | b :: r =>
    let (out, next) := step surrogates state b.toNat
    out ++ piecesFrom surrogates next r

def pieces (surrogates : Bool) (bs : List UInt8) : Pieces := piecesFrom surrogates none bs

def encode (s : String) : List UInt8 := s.toList.flatMap String.utf8EncodeChar

end Utf8

end SearchBridge
