import SearchBridge.Text.Blank
/-!
Reading numerals from text.

A whole numeral has an optional sign and decimal digits of any script, with single underscores
between digits and white space around; its length in digits is bounded. Numerals with digits of
another class are put together from the same parts.
-/

namespace SearchBridge

namespace Text

/-- The code points of the digit zero in every script that has decimal digits (general category
Nd of Unicode 14); the other nine digits of the script follow it in order. -/
def zeroDigits : List Nat := [
  48, 1632, 1776, 1984, 2406, 2534, 2662, 2790, 2918, 3046, 3174, 3302, 3430, 3558, 3664, 3792,
  3872, 4160, 4240, 6112, 6160, 6470, 6608, 6784, 6800, 6992, 7088, 7232, 7248, 42528, 43216,
  43264, 43472, 43504, 43600, 44016, 65296, 66720, 68912, 69734, 69872, 69942, 70096, 70384,
  70736, 70864, 71248, 71360, 71472, 71904, 72016, 72784, 73040, 73120, 92768, 92864, 93008,
  120782, 120792, 120802, 120812, 120822, 123200, 123632, 125264, 130032]

/-- The value of a decimal digit of any script. -/
def digitValue? (c : Char) : Option Nat :=
  (zeroDigits.find? fun z => z ≤ c.toNat && c.toNat < z + 10).map (c.toNat - ·)

/-- The longest numeral that is read, in digits. -/
def digitLimit : Nat := 4300

namespace Numeral

/-- Splits off a sign; the result says whether it was a minus sign. -/
def sign : List Char → Bool × List Char
  | '-' :: r => (true, r)
  | '+' :: r => (false, r)
  | r => (false, r)

/-- Digit values of a numeral with single underscores between digits; `none` if it is empty or
holds anything else. -/
def digits? (value? : Char → Option Nat) : List Char → Option (List Nat)
  | [] => none
  | [c] => (value? c).map ([·])
  | c :: '_' :: r => do pure ((← value? c) :: (← digits? value? r))
  | c :: d :: r => do pure ((← value? c) :: (← digits? value? (d :: r)))

/-- The number that digit values denote in base ten. -/
def ofDigits (ds : List Nat) : Nat := ds.foldl (fun n d => 10 * n + d) 0

def signed (negative : Bool) (n : Nat) : Int := if negative then -(n : Int) else n

end Numeral

/-- What is said of a numeral with too many digits. -/
def Numeral.lengthMessage (digits : Nat) : String :=
  "Exceeds the limit (4300 digits) for integer string conversion: value has "
    ++ String.ofList (Nat.toDigits 10 digits)
    ++ " digits; use sys.set_int_max_str_digits() to increase the limit"

/-- The integer that a text denotes, or `none` if it is no whole numeral or has too many digits. -/
def readInt? (t : Text) : Option Int := do
  let (negative, body) := Numeral.sign (trim isSpace (← t.chars?))
  let ds ← Numeral.digits? digitValue? body
  if digitLimit < ds.length then none else pure (Numeral.signed negative (Numeral.ofDigits ds))

end Text

end SearchBridge
