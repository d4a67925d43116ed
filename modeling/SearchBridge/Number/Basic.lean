import SearchBridge.Number.Shortest
/-!
Numbers as they are written in requests and replies: an integer of any size, or a 64-bit
floating-point number. The two are told apart by how they are written, so `1` and `1.0` differ.
-/

namespace SearchBridge

inductive Number where
  | int (i : Int)
  | real (x : Binary64)
  deriving DecidableEq, Repr

namespace Number

/-- The decimal digits of an integer, after a minus sign if it is negative. -/
def ofIntChars : Int → List Char
  | .ofNat n => Nat.toDigits 10 n
  | .negSucc n => '-' :: Nat.toDigits 10 (n + 1)

def toChars : Number → List Char
  | .int i => ofIntChars i
  | .real x => x.toChars

def text (n : Number) : String := String.ofList n.toChars

/-- The whole part, dropping the fraction; infinities and `nan` have none. -/
def truncate? : Number → Option Int
  | .int i => some i
  | .real x => x.truncate?

def isZero : Number → Bool
  | .int i => i = 0
  | .real x => x.isZero

/-- Whether the number is less than one; `nan` is not. -/
def isBelowOne : Number → Bool
  | .int i => i < 1
  | .real x => x.isBelowOne

/-- The nearest floating-point number, unless the number is an integer out of range. -/
def toReal? : Number → Option Binary64
  | .int i => Binary64.ofInt? i
  | .real x => some x

/-- The difference: exact on integers, rounded as soon as one side is floating. -/
def sub? : Number → Number → Option Number
  | .int i, .int j => some (.int (i - j))
  | m, n => do
    let x ← m.toReal?
    let y ← n.toReal?
    pure (.real (x.sub y))

end Number

end SearchBridge
