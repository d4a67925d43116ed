import SearchBridge.Number.Binary64
/-!
The shortest decimal text that reads back as a given floating-point number.

A decimal number reads back as the magnitude of rank `r` when it lies between the midpoints to the
two neighbouring magnitudes, the midpoints included exactly when `r` is even. For one, two, …
seventeen significant digits the two points of that decimal grid beside the magnitude are tested;
the first grid with a point in the interval gives the digits, and of two points the nearer one.
-/

namespace SearchBridge

namespace Binary64

/-- A positive decimal number `digits · 10 ^ exponent`. -/
structure Decimal where
  digits : Nat
  exponent : Int
  deriving DecidableEq, Repr

/-- Midpoints are counted in half the smallest positive magnitude: so many of them are one. -/
def halfUnits : Nat := 2 * unitsInOne

/-- The interval of the numbers that round to the magnitude of a rank, in half units. -/
structure Basin where
  low : Nat
  high : Nat
  closed : Bool

def basin (rank : Nat) : Basin where
  low := magnitude (rank - 1) + magnitude rank
  high := magnitude rank + magnitude (rank + 1)
  closed := rank % 2 = 0

/-- Whether `num / den` half units lie in the interval. -/
def Basin.contains (b : Basin) (num den : Nat) : Bool :=
  if b.closed then b.low * den ≤ num && num ≤ b.high * den
  else b.low * den < num && num < b.high * den

/-- The decimal exponent of the first digit of a positive number of half units. -/
def leadingExponent (halves : Nat) : Int :=
  if halfUnits ≤ halves then (Nat.toDigits 10 (halves / halfUnits)).length - 1
  else -((Nat.toDigits 10 ((halfUnits - 1) / halves)).length : Int)

/-- The point of the grid `10 ^ exponent` that reads back as the magnitude of the rank and lies
nearest to it, if one of the two grid points beside the magnitude reads back at all. -/
def gridPoint? (rank : Nat) (exponent : Int) : Option Decimal :=
  let value := 2 * magnitude rank
  let up := Nat.pow 10 (-exponent).toNat
  let step := halfUnits * Nat.pow 10 exponent.toNat
  let below := value * up / step
  let hit (d : Nat) : Bool := (basin rank).contains (d * step) up
  let nearerBelow : Bool :=
    2 * value * up < (2 * below + 1) * step ||
      (2 * value * up == (2 * below + 1) * step && below % 2 == 0)
  match hit below, hit (below + 1) with
  | true, true => some ⟨if nearerBelow then below else below + 1, exponent⟩
  | true, false => some ⟨below, exponent⟩
  | false, true => some ⟨below + 1, exponent⟩
  | false, false => none

/-- Tries the grids from `exponent` downwards, `more` of them at most. -/
def shortestFrom (rank : Nat) (exponent : Int) : Nat → Decimal
  | 0 => ⟨2 * magnitude rank, 0⟩
  | more + 1 => (gridPoint? rank exponent).getD (shortestFrom rank (exponent - 1) more)

/-- The decimal with the fewest digits that reads back as the magnitude of a positive rank. -/
def shortest (rank : Nat) : Decimal :=
  shortestFrom rank (leadingExponent (2 * magnitude rank)) 17

/-- How a number is laid out: the lowest and the highest decimal exponent of the first digit at
which positional notation is used, and the least number of digits of a written exponent. -/
structure Layout where
  lowest : Int
  highest : Int
  exponentWidth : Nat

/-- Numbers are positional from `0.0001` up to below `1e+16`, keep `.0` when they are whole, and
otherwise have a signed exponent of at least two digits. -/
def Layout.standard : Layout := ⟨-4, 15, 2⟩

/-- Writes significant digits whose first one stands at a decimal exponent. -/
def Layout.write (l : Layout) (digits : List Char) (exponent : Int) : List Char :=
  if l.lowest ≤ exponent ∧ exponent ≤ l.highest then
    match exponent with
    | .negSucc e => '0' :: '.' :: (List.replicate e '0' ++ digits)
    | .ofNat e =>
      let whole := digits.take (e + 1) ++ List.replicate (e + 1 - digits.length) '0'
      let fraction := digits.drop (e + 1)
      whole ++ '.' :: (if fraction.isEmpty then ['0'] else fraction)
  else
    let power := Nat.toDigits 10 exponent.natAbs
    let tail := digits.drop 1
    digits.take 1 ++ (if tail.isEmpty then [] else '.' :: tail)
      ++ 'e' :: (if exponent < 0 then '-' else '+')
      :: (List.replicate (l.exponentWidth - power.length) '0' ++ power)

/-- The digits of a decimal without closing zeros, and the exponent of the first one. -/
def Decimal.leading (d : Decimal) : List Char × Int :=
  let all := Nat.toDigits 10 d.digits
  ((all.reverse.dropWhile (· == '0')).reverse, d.exponent + all.length - 1)

/-- The text of a number: the shortest digits that read back, `inf` and `nan` for the others. -/
def toChars : Binary64 → List Char
  | .nan => "nan".toList
  | .infinite negative => if negative then "-inf".toList else "inf".toList
  | .finite negative rank =>
    let body :=
      if rank.val = 0 then "0.0".toList
      else
        let (digits, exponent) := (shortest rank).leading
        Layout.standard.write digits exponent
    if negative then '-' :: body else body

end Binary64

end SearchBridge
