import SearchBridge.Bytes.Reading
/-!
Punycode: ASCII characters in front of the last hyphen, and behind it where other code points go
among them.

The other code points come in ascending order. Each is told by a number: how many places are passed
over, counting all places of the text for each code point passed over. A number is written with
digits whose weights depend on a bias, which adapts to the number before.
-/

namespace SearchBridge

namespace Punycode

/-- The value of a digit of either case: letters first, then decimal digits. -/
def digit? (b : UInt8) : Option Nat :=
  let n := b.toNat
  if 0x41 ≤ n && n ≤ 0x5A then some (n - 0x41)
  else if 0x61 ≤ n && n ≤ 0x7A then some (n - 0x61)
  else if 0x30 ≤ n && n ≤ 0x39 then some (n - 0x30 + 26)
  else none

/-- A digit below the threshold ends a number. `k` digits come before this one. -/
def threshold (k bias : Nat) : Nat := max 1 (min 26 (36 * (k + 1) - bias))

/-- Reads a number from its lowest digit on, and what comes after it. -/
def number? (bias k weight sum : Nat) : List UInt8 → Option (Nat × List UInt8)
  | [] => none
  | b :: r => do
    let d ← digit? b
    let t := threshold k bias
    if d < t then pure (sum + d * weight, r)
    else number? bias (k + 1) (weight * (36 - t)) (sum + d * weight) r

theorem length_of_number? {bias k weight sum n : Nat} {bs r : List UInt8}
    (h : number? bias k weight sum bs = some (n, r)) : r.length < bs.length := by
  induction bs generalizing k weight sum with
  | nil => simp [number?] at h
  | cons b bs ih =>
      cases hd : digit? b with
      | none => simp [number?, hd] at h
      | some d =>
          simp only [number?, hd, Option.bind_eq_bind, Option.bind_some, Option.pure_def] at h
          split at h
          · simp only [Option.some.injEq, Prod.mk.injEq] at h
            simp [← h.2]
          · exact Nat.lt_trans (ih h) (by simp)

/-- A number divided until it is small, with thirty-six for each division. -/
def scaled (n steps : Nat) : Nat × Nat :=
  if 455 < n then scaled (n / 35) (steps + 36) else (n, steps)
termination_by n
decreasing_by exact Nat.div_lt_self (by omega) (by omega)

/-- The bias after a number, in a text that has `size` code points by now. -/
def adapt (n : Nat) (first : Bool) (size : Nat) : Nat :=
  let n := if first then n / 700 else n / 2
  let (n, steps) := scaled (n + n / size) 0
  steps + 36 * n / (n + 38)

/-- Where the next code point goes: the code points so far, the place behind the last one that went
in, the last code point, the bias, and whether none went in yet. -/
structure Insertion where
  points : List Nat
  place : Nat
  last : Nat
  bias : Nat
  first : Bool
  deriving DecidableEq, Repr

/-- One code point more. Out of range it is a question mark, where that is let through. -/
def Insertion.step (lossy : Bool) (s : Insertion) (n : Nat) : Except CharsetFault Insertion :=
  let places := s.points.length + 1
  let place := (s.place + n) % places
  let point := s.last + (s.place + n) / places
  if 0x10FFFF < point && !lossy then .error .malformed
  else
    let point := if 0x10FFFF < point then 0x3F else point
    .ok ⟨s.points.take place ++ point :: s.points.drop place, place + 1, point,
      adapt n s.first places, false⟩

/-- Goes through the numbers. What cannot be read ends the text, where that is let through. -/
def insertAll (lossy : Bool) (s : Insertion) (bs : List UInt8) : Except CharsetFault (List Nat) :=
  match bs with
  | [] => .ok s.points
  | b :: r =>
    match _h : number? s.bias 0 1 0 (b :: r) with
    | none => if lossy then .ok s.points else .error .malformed
    | some (n, rest) => do insertAll lossy (← s.step lossy n) rest
termination_by bs.length
decreasing_by exact length_of_number? _h

/-- Splits octets at the last hyphen. Without one there is nothing in front of it. -/
def parts (bs : List UInt8) : List UInt8 × List UInt8 :=
  if bs.contains 0x2D then
    let after := (bs.reverse.takeWhile (· ≠ 0x2D)).reverse
    (bs.take (bs.length - after.length - 1), after)
  else ([], bs)

def decode (lossy : Bool) (bs : List UInt8) : Except CharsetFault Text := do
  let (base, numbers) := parts bs
  let base ← Pieces.text lossy
    (base.map fun b => if b.toNat < 0x80 then some (.ofNat b.toNat) else none)
  match numbers.findIdx? (0x80 ≤ ·), numbers.find? (0x80 ≤ ·) with
  | some position, some octet => throw (.notAscii octet.toNat position)
  | _, _ =>
    let points ← insertAll lossy ⟨base.map Point.toNat, 0, 0x80, 72, true⟩ numbers
    pure (points.map Point.ofNat)

end Punycode

end SearchBridge
