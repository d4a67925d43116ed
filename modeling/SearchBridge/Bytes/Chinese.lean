import SearchBridge.Bytes.Grid.HongKong
import SearchBridge.Bytes.Grid.Simplified
import SearchBridge.Bytes.Grid.Traditional
import SearchBridge.Bytes.Reading
/-!
Chinese text in octets: GB 2312 with its extension GBK for simplified characters, Big5 with the
extensions of Windows and of Hong Kong for traditional ones.

GBK gives codes to all unified ideographs of the first version of Unicode that GB 2312 lacks, in the
order of their code points.
-/

namespace SearchBridge

namespace Chinese

def twoOctets (character? : Nat → Nat → Option (List Nat)) (a : UInt8) (r : List UInt8) : Front :=
  let a := a.toNat
  if a < 0x80 then .point 0 a else .second r fun b => .ofOption 1 (character? a b)

def gb2312? (a b : Nat) : Option (List Nat) := Grid.gb2312.cell? (a - 0x80) (b - 0x80)

/-- The place of a second octet in the rows of GBK. -/
def place? (b : Nat) : Option Nat :=
  if 0x40 ≤ b && b ≤ 0x7E then some (b - 0x40)
  else if 0x80 ≤ b && b ≤ 0xFE then some (b - 0x41)
  else none

def firstIdeograph : Nat := 0x4E00

def lastIdeograph : Nat := 0x9FA5

def listedIdeographs : Thunk (List Nat) :=
  Thunk.mk fun _ => (Grid.gb2312.pointsWithin firstIdeograph lastIdeograph).mergeSort (· ≤ ·)

/-- The number of an added ideograph, from its two octets: rows below those of GB 2312, and the
lower half of the later rows beside it. -/
def ideographNumber? (a b : Nat) : Option Nat := do
  let place ← place? b
  if 0x81 ≤ a && a ≤ 0xA0 then pure (190 * (a - 0x81) + place)
  else if 0xAA ≤ a && a ≤ 0xFD && place < 96 then pure (190 * 32 + 96 * (a - 0xAA) + place)
  else none

def addedIdeograph? (a b : Nat) : Option (List Nat) := do
  let n := Grid.skip listedIdeographs.get (firstIdeograph + (← ideographNumber? a b))
  if n ≤ lastIdeograph then pure [n] else none

def gbk? (a b : Nat) : Option (List Nat) :=
  ((Grid.gbkSymbols.cell? a b).or (gb2312? a b)).or (addedIdeograph? a b)

def gb2312 : UInt8 → List UInt8 → Front := twoOctets gb2312?

def gbk : UInt8 → List UInt8 → Front := twoOctets gbk?

def big5 : UInt8 → List UInt8 → Front := twoOctets Grid.big5.cell?

/-- Big5 as Windows has it. -/
def windows : UInt8 → List UInt8 → Front :=
  twoOctets fun a b => (Grid.windowsBig5.cell? a b).or (Grid.big5.cell? a b)

/-- Whether the supplementary character set replaces Big5 at two octets. -/
def isReplaced (a b : Nat) : Bool := (a = 0xC6 && 0xA1 ≤ b) || a = 0xC7 || a = 0xC8

/-- Big5 with the supplementary character set of Hong Kong. -/
def hongKong : UInt8 → List UInt8 → Front :=
  twoOctets fun a b =>
    (if isReplaced a b then none else Grid.big5.cell? a b).or (Grid.hongKong.cell? a b)

end Chinese

end SearchBridge
