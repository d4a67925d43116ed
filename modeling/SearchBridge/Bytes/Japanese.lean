import SearchBridge.Bytes.Grid.Japanese
import SearchBridge.Bytes.Grid.JapaneseSupplement
import SearchBridge.Bytes.Reading
/-!
Japanese text in octets: the shifted form, in which a pair of rows has one first octet, and the
extended form, in which both octets of a cell are above ASCII.
-/

namespace SearchBridge

namespace Japanese

/-- The editions of JIS X 0213, by their years. -/
inductive Edition where
  | y2000
  | y2004
  deriving DecidableEq, Repr

/-- The cells of the first plane that came with the later edition. -/
def laterCells : List (Nat × Nat) := [
  (0x2E, 0x21), (0x2F, 0x7E), (0x4F, 0x54), (0x4F, 0x7E), (0x74, 0x27), (0x7E, 0x7A), (0x7E, 0x7B),
  (0x7E, 0x7C), (0x7E, 0x7D), (0x7E, 0x7E)]

def isMissing (e : Edition) (row cell : Nat) : Bool :=
  e = .y2000 && laterCells.contains (row, cell)

def firstPlane? (row cell : Nat) : Option (List Nat) :=
  (Grid.jisX0208.cell? row cell).or (Grid.jisX0213.cell? row cell)

/-- The character in a cell of the second plane. One cell changed its character. -/
def secondPlane? (e : Edition) (row cell : Nat) : Option (List Nat) :=
  if e = .y2000 ∧ row = 0x7D ∧ cell = 0x3B then some [0x9B1D]
  else Grid.jisX0213Second.cell? row cell

def halfKatakana? (b : Nat) : Option Nat :=
  if 0xA1 ≤ b && b ≤ 0xDF then some (0xFEC0 + b) else none

/-- The first plane in the octets of a reader: a missing cell makes both octets malformed. -/
def firstPlane (e : Edition) (row cell : Nat) : Front :=
  if isMissing e row cell then .malformed 1 else .ofOption 1 (firstPlane? row cell)

def isShiftedLead (a : Nat) : Bool := (0x81 ≤ a && a ≤ 0x9F) || (0xE0 ≤ a && a ≤ 0xFC)

/-- The place of a second octet in the shifted form among the 188 cells of a pair of rows. -/
def shiftedPlace? (b : Nat) : Option Nat :=
  if 0x40 ≤ b && b ≤ 0x7E then some (b - 0x40)
  else if 0x80 ≤ b && b ≤ 0xFC then some (b - 0x41)
  else none

/-- The row and the cell of two octets in the shifted form, rows counted from zero. -/
def unshifted? (a b : Nat) : Option (Nat × Nat) :=
  (shiftedPlace? b).map fun place =>
    (2 * (if a < 0xE0 then a - 0x81 else a - 0xC1) + place / 94, 0x21 + place % 94)

def shiftedKanji? (a b : Nat) : Option (List Nat) :=
  (unshifted? a b).bind fun (row, cell) => Grid.jisX0208.cell? (0x21 + row) cell

/-- The shifted form of JIS X 0208. -/
def shiftJis (a : UInt8) (r : List UInt8) : Front :=
  let a := a.toNat
  if a < 0x80 then .point 0 a
  else match halfKatakana? a with
    | some n => .point 0 n
    | none => if isShiftedLead a then .second r fun b => .ofOption 1 (shiftedKanji? a b)
      else .malformed 0

/-- The shifted form as Windows has it: with characters of its own, a range for private characters,
and a code point for each octet that is left. -/
def windows (a : UInt8) (r : List UInt8) : Front :=
  let a := a.toNat
  if a ≤ 0x80 then .point 0 a
  else if a = 0xA0 then .point 0 0xF8F0
  else if 0xFD ≤ a then .point 0 (0xF8F1 + (a - 0xFD))
  else match halfKatakana? a with
    | some n => .point 0 n
    | none => .second r fun b =>
      let own := Grid.windowsJapanese.cell? a b
      .ofOption 1 (own.or
        (if a ≤ 0x9F || (0xE0 ≤ a && a ≤ 0xEA) then shiftedKanji? a b
        else if 0xF0 ≤ a && a ≤ 0xF9 then
          (shiftedPlace? b).map fun place => [0xE000 + 188 * (a - 0xF0) + place]
        else none))

/-- The rows of the second plane in the order of the shifted form. -/
def shiftedRow (row : Nat) : Nat :=
  (([0x21, 0x28, 0x23, 0x24, 0x25, 0x2C, 0x2D, 0x2E, 0x2F][row - 94]?).getD (row - 94 + 0x65))

/-- The characters that the shifted form of JIS X 0213 has in other places than ASCII, or in place
of the wide ones. -/
def narrow? (row cell : Nat) : Option (List Nat) :=
  if row = 0x21 ∧ cell = 0x40 then some [0x5C]
  else if row = 0x22 ∧ cell = 0x32 then some [0x7E]
  else none

/-- The shifted form of JIS X 0213. Below 0x80 the yen sign and the overline replace two characters
of ASCII. -/
def shiftJis0213 (e : Edition) (a : UInt8) (r : List UInt8) : Front :=
  let a := a.toNat
  if a = 0x5C then .point 0 0xA5
  else if a = 0x7E then .point 0 0x203E
  else if a < 0x80 then .point 0 a
  else match halfKatakana? a with
    | some n => .point 0 n
    | none =>
      if isShiftedLead a then .second r fun b =>
        match unshifted? a b with
        | none => .malformed 0
        | some (row, cell) =>
          if row < 94 then
            match narrow? (0x21 + row) cell with
            | some ns => .points 1 ns
            | none => firstPlane e (0x21 + row) cell
          else .ofOption 1 (secondPlane? e (shiftedRow row) cell)
      else .malformed 0

def katakanaShift : Nat := 0x8E

def supplementShift : Nat := 0x8F

def shiftedKatakana (r : List UInt8) : Front :=
  .second r fun b => .ofOption 1 ((halfKatakana? b).map ([·]))

/-- The extended form of JIS X 0208, with JIS X 0212 as its supplement. -/
def extended (a : UInt8) (r : List UInt8) : Front :=
  let a := a.toNat
  if a < 0x80 then .point 0 a
  else if a = katakanaShift then shiftedKatakana r
  else if a = supplementShift then
    .third r fun b c => .ofOption 2 (Grid.jisX0212.cell? (b - 0x80) (c - 0x80))
  else .second r fun b => .ofOption 1 (Grid.jisX0208.cell? (a - 0x80) (b - 0x80))

/-- The extended form of JIS X 0213. What its second plane lacks is taken from JIS X 0212. -/
def extended0213 (e : Edition) (a : UInt8) (r : List UInt8) : Front :=
  let a := a.toNat
  if a < 0x80 then .point 0 a
  else if a = katakanaShift then shiftedKatakana r
  else if a = supplementShift then
    .third r fun b c => .ofOption 2 ((secondPlane? e (b - 0x80) (c - 0x80)).or
      (Grid.jisX0212.cell? (b - 0x80) (c - 0x80)))
  else .second r fun b => firstPlane e (a - 0x80) (b - 0x80)

end Japanese

end SearchBridge
