/-!
Numbers in base sixteen, as escapes write them.
-/

namespace SearchBridge

namespace Text

/-- The lower-case digits of a number, filled up with zeros to a width. -/
def hexChars (width n : Nat) : List Char :=
  let ds := Nat.toDigits 16 n
  List.replicate (width - ds.length) '0' ++ ds

def upperHexDigit (n : Nat) : Char :=
  if n < 10 then Char.ofNat (48 + n) else Char.ofNat (55 + n)

/-- The value of a digit of either case. -/
def hexValue? (c : Char) : Option Nat :=
  if '0' ≤ c && c ≤ '9' then some (c.toNat - 48)
  else if 'A' ≤ c && c ≤ 'F' then some (c.toNat - 55)
  else if 'a' ≤ c && c ≤ 'f' then some (c.toNat - 87)
  else none

/-- The number that digits of either case denote. -/
def hexNumber? (cs : List Char) : Option Nat :=
  (cs.mapM hexValue?).map fun ds => ds.foldl (fun n d => 16 * n + d) 0

end Text

end SearchBridge
