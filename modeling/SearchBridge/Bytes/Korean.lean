import SearchBridge.Bytes.Grid.Korean
import SearchBridge.Bytes.Reading
/-!
Korean text in octets: the extended form of KS X 1001, the same with all other syllables added, and
the form in which a syllable is put together from the numbers of its letters.

A syllable of Unicode has the number of its initial, its vowel and its final in it.
-/

namespace SearchBridge

namespace Korean

/-- The syllable of an initial, a vowel and a final; the final zero is none. -/
def syllable (initial vowel final : Nat) : Nat := 0xAC00 + (initial * 21 + vowel) * 28 + final

/-- The initials among the letters of the grid from U+3131 on. -/
def initials : List Nat := [0, 1, 3, 6, 7, 8, 16, 17, 18, 20, 21, 22, 23, 24, 25, 26, 27, 28, 29]

/-- The letters that are no final. -/
def neverFinal : List Nat := [7, 18, 24]

/-- The finals among the letters, without the first one, which is none. -/
def finals : List Nat := (List.range 30).filter (!neverFinal.contains ·)

/-- The row of the letters, and the cell that stands for a missing one. -/
def letterOctet : Nat := 0xA4

def fillerOctet : Nat := 0xD4

def ksX1001? (a b : Nat) : Option (List Nat) := Grid.ksX1001.cell? (a - 0x80) (b - 0x80)

/-- The syllable of four letters, of which the first one is the filler. -/
def spelled? (initial vowel final : Nat) : Option Nat := do
  let i ← initials.idxOf? (initial - 0xA1)
  if initial < 0xA1 || vowel < 0xBF || 0xD3 < vowel || final < 0xA1 then none
  else
    let f ← if final = fillerOctet then some 0 else (finals.idxOf? (final - 0xA1)).map (· + 1)
    pure (syllable i (vowel - 0xBF) f)

/-- A syllable spelled out in eight octets, its letters behind the filler. -/
def spelledOut : List UInt8 → Front
  | _ :: c :: i :: d :: v :: e :: f :: _ =>
    if c.toNat = letterOctet ∧ d.toNat = letterOctet ∧ e.toNat = letterOctet then
      .ofOption 7 ((spelled? i.toNat v.toNat f.toNat).map ([·]))
    else .malformed 0
  | _ => .incomplete

def extended (a : UInt8) (r : List UInt8) : Front :=
  let a := a.toNat
  if a < 0x80 then .point 0 a
  else .second r fun b =>
    if a = letterOctet && b = fillerOctet then spelledOut r else .ofOption 1 (ksX1001? a b)

def firstSyllable : Nat := 0xAC00

def lastSyllable : Nat := 0xD7A3

def listedSyllables : Thunk (List Nat) :=
  Thunk.mk fun _ => (Grid.ksX1001.pointsWithin firstSyllable lastSyllable).mergeSort (· ≤ ·)

/-- The place of a second octet among letters of both cases and the upper octets. -/
def place? (b : Nat) : Option Nat :=
  if 0x41 ≤ b && b ≤ 0x5A then some (b - 0x41)
  else if 0x61 ≤ b && b ≤ 0x7A then some (b - 0x61 + 26)
  else if 0x81 ≤ b && b ≤ 0xFE then some (b - 0x81 + 52)
  else none

/-- The number of an added syllable, from its two octets: rows below those of KS X 1001, and the
lower half of the rows beside it. -/
def addedNumber? (a b : Nat) : Option Nat := do
  let place ← place? b
  if 0x81 ≤ a && a ≤ 0xA0 then pure (178 * (a - 0x81) + place)
  else if 0xA1 ≤ a && a ≤ 0xC6 && place < 84 then pure (178 * 32 + 84 * (a - 0xA1) + place)
  else none

/-- The syllables that KS X 1001 lacks, in order. -/
def addedSyllable? (a b : Nat) : Option (List Nat) := do
  let n := Grid.skip listedSyllables.get (firstSyllable + (← addedNumber? a b))
  if n ≤ lastSyllable then pure [n] else none

/-- The extended form with all syllables, as Windows has it. -/
def unified (a : UInt8) (r : List UInt8) : Front :=
  let a := a.toNat
  if a < 0x80 then .point 0 a
  else .second r fun b => .ofOption 1 ((ksX1001? a b).or (addedSyllable? a b))

/-- The five bits of a vowel, by its number; of the letters without one only the filler is
told. -/
def vowelOfBits? (n : Nat) : Option (Option Nat) :=
  if n = 2 then some none
  else if 3 ≤ n && n ≤ 7 then some (some (n - 3))
  else if 10 ≤ n && n ≤ 15 then some (some (n - 5))
  else if 18 ≤ n && n ≤ 23 then some (some (n - 7))
  else if 26 ≤ n && n ≤ 29 then some (some (n - 9))
  else none

/-- The five bits of an initial: its number, or that there is none. -/
def initialOfBits? (n : Nat) : Option (Option Nat) :=
  if n = 1 then some none
  else if 2 ≤ n && n ≤ 20 then some (some (n - 2))
  else none

/-- The five bits of a final: its number, from one on, or that there is none. -/
def finalOfBits? (n : Nat) : Option (Option Nat) :=
  if n = 1 then some none
  else if 2 ≤ n && n ≤ 17 then some (some (n - 1))
  else if 19 ≤ n && n ≤ 29 then some (some (n - 2))
  else none

/-- The letter with a code point of its own, counted from U+3131. -/
def letter (n : Nat) : Nat := 0x3131 + n

/-- The character of a syllable put together from letters, some of which may be missing. A vowel
without an initial stands alone, and a final needs both others. -/
def composed? (initial vowel final : Option Nat) : Option Nat :=
  match initial, vowel, final with
  | none, none, none => some 0x3000
  | none, none, some f => (finals[f - 1]?).map letter
  | none, some v, none => some (letter (30 + v))
  | none, some _, some _ => none
  | some i, none, none => (initials[i]?).map letter
  | some _, none, some _ => none
  | some i, some v, f => some (syllable i v (f.getD 0))

def upperCell? (a b : Nat) : Option (Nat × Nat) :=
  if a < 0xD9 || a = 0xDF || 0xF9 < a || b < 0x31 || (0x80 ≤ b && b < 0x91) || b % 0x80 = 0x7F ||
      (a = 0xDA && 0xA1 ≤ b && b ≤ 0xD3) then none
  else
    let pair := if a < 0xE0 then 2 * (a - 0xD9) else 2 * a - 0x197
    let place := if b < 0x91 then b - 0x31 else b - 0x43
    some (0x21 + pair + place / 94, 0x21 + place % 94)

/-- The composed form: five bits for each letter of a syllable, and a shifted form of KS X 1001 for
everything else. -/
def composed (a : UInt8) (r : List UInt8) : Front :=
  let a := a.toNat
  if a < 0x80 then .point 0 a
  else .second r fun b =>
    if a < 0xD8 then
      let n := a * 256 + b
      .ofOption 1 (do
        let i ← initialOfBits? (n / 1024 % 32)
        let v ← vowelOfBits? (n / 32 % 32)
        let f ← finalOfBits? (n % 32)
        pure [← composed? i v f])
    else .ofOption 1 ((upperCell? a b).bind fun (row, cell) => Grid.ksX1001.cell? row cell)

end Korean

end SearchBridge
