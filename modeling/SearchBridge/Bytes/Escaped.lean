import SearchBridge.Bytes.Reading
import SearchBridge.Text.CharacterName
import SearchBridge.Text.Hex
/-!
Octets that stand for the first 256 code points, with escapes behind a backslash for the others.

The plain form has escapes for code points in base sixteen only. The full form has those of string
literals too: single letters for controls, up to three digits in base eight, two in base sixteen,
and names. A backslash before anything else stands for itself.
-/

namespace SearchBridge

namespace Escaped

def backslash : Nat := 0x5C

/-- The digits in base sixteen at the front, at most so many. -/
def hexDigits (width : Nat) (r : List UInt8) : List Nat :=
  ((r.take width).map fun b => Text.hexValue? (Char.ofNat b.toNat)).takeWhile Option.isSome
    |>.filterMap id

/-- An escape with a fixed number of digits; `r` are the octets behind its letter. An escape that is
cut short by another octet, or whose number is out of range, is malformed as far as it goes. -/
def numbered (width : Nat) (r : List UInt8) : Front :=
  let ds := hexDigits width r
  if ds.length = width then
    let n := ds.foldl (fun n d => 16 * n + d) 0
    if n < 0x110000 then .point (width + 1) n else .malformed (width + 1)
  else if r.length = ds.length then .incomplete
  else .malformed (ds.length + 1)

def plain (a : UInt8) (r : List UInt8) : Front :=
  if a.toNat ≠ backslash then .point 0 a.toNat
  else match r with
    | [] => .point 0 backslash
    | 0x75 :: rest => numbered 4 rest
    | 0x55 :: rest => numbered 8 rest
    | b :: _ => .points 1 [backslash, b.toNat]

/-- The code points of the escapes with one letter or mark. A line feed is taken away. -/
def short? (b : Nat) : Option (List Nat) :=
  [(0x0A, []), (0x5C, [0x5C]), (0x27, [0x27]), (0x22, [0x22]), (0x62, [0x08]), (0x66, [0x0C]),
    (0x74, [0x09]), (0x6E, [0x0A]), (0x72, [0x0D]), (0x76, [0x0B]), (0x61, [0x07])].lookup b

def octalValue? (b : UInt8) : Option Nat :=
  if 0x30 ≤ b.toNat && b.toNat ≤ 0x37 then some (b.toNat - 0x30) else none

def octalDigits (r : List UInt8) : List Nat :=
  (((r.take 3).map octalValue?).takeWhile Option.isSome).filterMap id

/-- An escape with a name between braces; `r` are the octets behind its letter. It is malformed if
no character has the name. -/
def named (r : List UInt8) : Front :=
  match r with
  | [] => .incomplete
  | 0x7B :: rest =>
    let name := rest.takeWhile (· ≠ 0x7D)
    if name.length = rest.length then .incomplete
    else if name.isEmpty then .malformed 2
    else
      match CharacterName.point? (name.map fun b => Char.ofNat b.toNat) with
      | some n => .point (name.length + 3) n
      | none => .malformed (name.length + 3)
  | _ => .malformed 1

def full (a : UInt8) (r : List UInt8) : Front :=
  if a.toNat ≠ backslash then .point 0 a.toNat
  else match r with
    | [] => .incomplete
    | b :: rest =>
      let ds := octalDigits r
      if !ds.isEmpty then .point ds.length (ds.foldl (fun n d => 8 * n + d) 0)
      else match short? b.toNat with
        | some ns => .points 1 ns
        | none =>
          if b = 0x78 then numbered 2 rest
          else if b = 0x75 then numbered 4 rest
          else if b = 0x55 then numbered 8 rest
          else if b = 0x4E then named rest
          else .points 1 [backslash, b.toNat]

end Escaped

end SearchBridge
