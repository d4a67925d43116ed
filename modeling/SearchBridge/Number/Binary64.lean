/-!
The 64-bit binary floating-point numbers, held as a sign and a rank instead of as machine words.

The finite magnitudes of the format, from zero upwards, are counted off by their rank, so that the
neighbours of a number are the ranks beside its own. All arithmetic here is exact arithmetic on
natural numbers followed by one rounding (`Binary64.nearest`); no machine float takes part, and
every function reduces in the kernel.
-/

namespace SearchBridge

/-- How many significands there are for one exponent: two to the power 52. -/
def Binary64.significands : Nat := Nat.pow 2 52

/-- How many finite magnitudes there are: all significands of 2047 exponents. -/
def Binary64.magnitudes : Nat := 2047 * significands

/-- A 64-bit binary floating-point number. All not-a-number patterns are one value. -/
inductive Binary64 where
  | nan
  | infinite (negative : Bool)
  | finite (negative : Bool) (rank : Fin Binary64.magnitudes)
  deriving DecidableEq, Repr

namespace Binary64

/-- How many times the smallest positive magnitude is contained in one: two to the power 1074.
Every magnitude is a multiple of the smallest one. -/
def unitsInOne : Nat := Nat.pow 2 1074

/-- The magnitude with a given rank, counted in the smallest positive magnitude. The first ranks
are the multiples themselves; after the significands of one exponent the step doubles each time. -/
def magnitude (rank : Nat) : Nat :=
  if rank < significands then rank
  else (significands + rank % significands) * Nat.pow 2 (rank / significands - 1)

/-- The whole number nearest to `num / den`; of two equally near ones, the even one. -/
def roundHalfEven (num den : Nat) : Nat :=
  let whole := num / den
  let twice := 2 * (num % den)
  if den < twice ∨ (twice = den ∧ whole % 2 = 1) then whole + 1 else whole

/-- The rank of the magnitude nearest to `num / den` smallest magnitudes, ties to the even rank.
The result may lie past the last finite magnitude. -/
def nearestRank (num den : Nat) : Nat :=
  let whole := num / den
  if whole < 2 * significands then roundHalfEven num den
  else
    let shift := whole.log2 - 52
    shift * significands + roundHalfEven num (den * Nat.pow 2 shift)

/-- The number with a given sign and rank, infinite once the rank is past the last one. -/
def ofRank (negative : Bool) (rank : Nat) : Binary64 :=
  if h : rank < magnitudes then .finite negative ⟨rank, h⟩ else .infinite negative

/-- The number nearest to `± num / den`. -/
def nearest (negative : Bool) (num den : Nat) : Binary64 :=
  ofRank negative (nearestRank (num * unitsInOne) den)

/-- The number nearest to `± digits · 10 ^ exponent`. Exponents far outside the range of the
format are answered without computing the power. -/
def ofDecimal (negative : Bool) (digits : Nat) (exponent : Int) : Binary64 :=
  if digits = 0 then ofRank negative 0
  else match exponent with
    | .ofNat e =>
      if 400 < e then .infinite negative else nearest negative (digits * Nat.pow 10 e) 1
    | .negSucc e =>
      if 400 + digits.log2 < e then ofRank negative 0
      else nearest negative digits (Nat.pow 10 (e + 1))

/-- The nearest floating-point number to an integer, if the integer is within range. -/
def ofInt? (i : Int) : Option Binary64 :=
  match nearest (i < 0) i.natAbs 1 with
  | .finite s r => some (.finite s r)
  | _ => none

/-- The signed value of a finite number, counted in the smallest positive magnitude. -/
def units? : Binary64 → Option Int
  | .finite false r => some (magnitude r)
  | .finite true r => some (-(magnitude r : Int))
  | _ => none

/-- The whole part, dropping the fraction; infinities and `nan` have none. -/
def truncate? (x : Binary64) : Option Int :=
  x.units?.map fun u => u.tdiv unitsInOne

/-- Whether the number is finite and has no fraction. -/
def isWhole (x : Binary64) : Bool :=
  match x.units? with
  | some u => u % unitsInOne = 0
  | none => false

def isPositive : Binary64 → Bool
  | .nan => false
  | .infinite negative => !negative
  | .finite negative rank => !negative && 0 < rank.val

/-- Whether the number is less than one; `nan` is not. -/
def isBelowOne : Binary64 → Bool
  | .nan => false
  | .infinite negative => negative
  | .finite negative rank => negative || magnitude rank < unitsInOne

def isZero : Binary64 → Bool
  | .finite _ rank => rank.val = 0
  | _ => false

def neg : Binary64 → Binary64
  | .nan => .nan
  | .infinite s => .infinite !s
  | .finite s r => .finite (!s) r

/-- The rounded product with a natural number other than zero. -/
def scale (x : Binary64) (k : Nat) : Binary64 :=
  match x with
  | .finite s r => ofRank s (nearestRank (magnitude r * k) 1)
  | y => y

/-- The rounded sum. An exact zero is positive unless both terms are negative. -/
def add : Binary64 → Binary64 → Binary64
  | .nan, _ | _, .nan => .nan
  | .infinite s, .infinite t => if s = t then .infinite s else .nan
  | .infinite s, .finite .. => .infinite s
  | .finite .., .infinite t => .infinite t
  | .finite s r, .finite t q =>
    let a : Int := if s then -(magnitude r : Int) else magnitude r
    let b : Int := if t then -(magnitude q : Int) else magnitude q
    if a + b = 0 then ofRank (s && t) 0
    else ofRank (a + b < 0) (nearestRank (a + b).natAbs 1)

def sub (x y : Binary64) : Binary64 := x.add y.neg

end Binary64

end SearchBridge
