import SearchBridge.Bytes.Reading
import SearchBridge.Text.Surrogate
/-!
UTF-7: ASCII text in which runs of UTF-16 units are written with letters, digits, plus and slash.

A run starts with a plus sign. An octet that cannot belong to it ends it, and a hyphen that ends it
is taken with it. Six bits of each octet go into the units; what is left over at the end has to be
fewer than six bits, all zero.
-/

namespace SearchBridge

namespace Utf7

/-- Inside a run: the bits that have not gone into a unit, how many they are, and a high surrogate
that waits for its partner. -/
structure Run where
  count : Nat
  bits : Nat
  high : Option Nat
  deriving DecidableEq, Repr

/-- Outside of runs, right behind a plus sign, or in a run. -/
inductive State where
  | direct
  | opened
  | inside (r : Run)
  deriving DecidableEq, Repr

def sixBits? (b : Nat) : Option Nat :=
  if 0x41 ≤ b && b ≤ 0x5A then some (b - 0x41)
  else if 0x61 ≤ b && b ≤ 0x7A then some (b - 0x61 + 26)
  else if 0x30 ≤ b && b ≤ 0x39 then some (b - 0x30 + 52)
  else if b = 0x2B then some 62
  else if b = 0x2F then some 63
  else none

def outside (b : Nat) : Pieces × State :=
  if b = 0x2B then ([], .opened)
  else if b < 0x80 then (Pieces.ofNats [b], .direct)
  else ([none], .direct)

/-- The next unit of a run: a high surrogate waits, and any other unit comes after one that waited
in vain. -/
def Run.take (r : Run) (unit : Nat) : Pieces × Option Nat :=
  match r.high with
  | some h =>
    if Text.isLowSurrogate unit then ([some (.char (Text.joinPair h unit))], none)
    else if Text.isHighSurrogate unit then (Pieces.ofNats [h], some unit)
    else (Pieces.ofNats [h, unit], none)
  | none => if Text.isHighSurrogate unit then ([], some unit) else (Pieces.ofNats [unit], none)

def Run.push (r : Run) (six : Nat) : Pieces × State :=
  let count := r.count + 6
  let bits := r.bits * 64 + six
  if count < 16 then ([], .inside ⟨count, bits, r.high⟩)
  else
    let scale := Nat.pow 2 (count - 16)
    let (out, high) := r.take (bits / scale)
    (out, .inside ⟨count - 16, bits % scale, high⟩)

/-- Whether the bits left over at the end of a run are too many or not zero. -/
def Run.isBroken (r : Run) : Bool := 6 ≤ r.count || r.bits ≠ 0

/-- One octet more: the pieces that it completes, and the state after it. -/
def step (s : State) (b : Nat) : Pieces × State :=
  match s with
  | .direct => outside b
  | .opened =>
    if b = 0x2D then (Pieces.ofNats [0x2B], .direct)
    else match sixBits? b with
      | some six => Run.push ⟨0, 0, none⟩ six
      | none => ([none], .direct)
  | .inside r =>
    match sixBits? b with
    | some six => r.push six
    | none =>
      if r.isBroken then ([none], .direct)
      else
        let held := if b < 0x80 then Pieces.ofNats r.high.toList else []
        if b = 0x2D then (held, .direct)
        else
          let (out, next) := outside b
          (held ++ out, next)

/-- A run that goes on to the end of the text must not leave anything open. -/
def finish : State → Pieces
  | .inside r => if r.isBroken || r.high.isSome then [none] else []
  | _ => []

def piecesFrom (s : State) : List UInt8 → Pieces
  | [] => finish s
  | b :: r =>
    let (out, next) := step s b.toNat
    out ++ piecesFrom next r

def pieces (bs : List UInt8) : Pieces := piecesFrom .direct bs

end Utf7

end SearchBridge
