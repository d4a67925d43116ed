import SearchBridge.Json.Basic
import SearchBridge.Schema.Issue
import SearchBridge.Text.Numeral
/-!
Reading the value of a field as the kind of value that the field holds.

An integer may be given as an integer, as a truth value, as a floating-point number without a
fraction that fits into 64 bits, or as a text; a real number as any number, a truth value or a
text. The digits of these texts are ASCII.

A text that is no plain numeral gets a second reading. That of an integer does without blank space,
a plus sign, leading zeros, a fraction of zeros and single underscores; that of a real number does
without single underscores only, so that blank space and underscores exclude each other.
-/

namespace SearchBridge

namespace Coercion

open Text (trim isSpace Numeral.sign Numeral.signed)

/-- The characters before the first one of a class, and those after it if there is one. -/
def splitAt? (stop : Char → Bool) (cs : List Char) : List Char × Option (List Char) :=
  let rest := cs.dropWhile (!stop ·)
  (cs.takeWhile (!stop ·), rest.tail?)

/-- Whether two underscores stand side by side. -/
def hasDoubleUnderscore : List Char → Bool
  | '_' :: '_' :: _ => true
  | _ :: r => hasDoubleUnderscore r
  | [] => false

/-- A text without its underscores, none of which may stand first, last or beside another. -/
def dropUnderscores? (cs : List Char) : Option (List Char) :=
  if cs.head? = some '_' || cs.getLast? = some '_' || hasDoubleUnderscore cs then none
  else some (cs.filter (· ≠ '_'))

def integerTextLimit : Nat := 4300

def afterMinus : List Char → List Char
  | '-' :: r => r
  | r => r

/-- Whether a text starts with more digits than an integer may have. A zero in front is no start. -/
def startsTooLong (cs : List Char) : Bool :=
  let digits := (afterMinus cs).takeWhile Char.isDigit
  digits.head? ≠ some '0' && integerTextLimit < digits.length

/-- The integer that a plain numeral denotes: a minus sign at most, and digits that start with a
zero only if that is all. -/
def plainInteger? (cs : List Char) : Option Int :=
  let digits := afterMinus cs
  if digits = ['0'] then some 0
  else if digits.isEmpty || !digits.all Char.isDigit || digits.head? = some '0'
      || integerTextLimit < digits.length then none
  else some (Numeral.signed (cs.head? = some '-') (Nat.ofDigitChars 10 digits 0))

/-- What is left behind leading zeros, the last of which is given, and underscores among them. A
zero before a point stays, and so does the last character if no other follows. -/
def afterZeros? (last : Char) : List Char → Option (List Char)
  | [] => some [last]
  | c :: r =>
    if c = '0' || c = '_' then afterZeros? c r
    else if c.isDigit || c = '-' then some (c :: r)
    else if c = '.' then some (last :: c :: r)
    else none

/-- A text without leading zeros. It has to start with a digit or a minus sign. -/
def dropLeadingZeros? : List Char → Option (List Char)
  | [] => none
  | c :: r =>
    if c = '0' then afterZeros? c r else if c.isDigit || c = '-' then some (c :: r) else none

/-- The text of an integer without a fraction of zeros. -/
def dropZeroFraction (cs : List Char) : List Char :=
  match splitAt? (· = '.') cs with
  | (whole, some (z :: zs)) => if (z :: zs).all (· = '0') then whole else cs
  | _ => cs

/-- The plain numeral that the second reading of an integer finds in a text. -/
def tidyInteger? (cs : List Char) : Option (List Char) := do
  let (negative, body) ← match trim isSpace cs with
    | '+' :: '-' :: _ => none
    | '+' :: r => some (false, r)
    | '-' :: r => some (true, r)
    | r => some (false, r)
  let digits ← dropUnderscores? (dropZeroFraction (← dropLeadingZeros? body))
  pure (if negative then '-' :: digits else digits)

def integerOfText (t : Text) : Except Complaint Int :=
  match t.chars? with
  | none => .error .notIntegerText
  | some cs =>
    if startsTooLong cs then .error .integerSize
    else
      ((plainInteger? cs).or ((tidyInteger? cs).bind plainInteger?)).elim
        (.error .notIntegerText) .ok

/-- The bound on integers given as floating-point numbers: two to the power 63. -/
def integerBound : Nat := Nat.pow 2 63

/-- A floating-point number without a fraction, if its magnitude lies below the bound. -/
def integerOfReal (x : Binary64) : Except Complaint Int :=
  match x.truncate? with
  | none => .error .notFinite
  | some i =>
    if !x.isWhole then .error .fraction
    else if i.natAbs < integerBound then .ok i
    else .error .integerSize

def integer : Json → Except Complaint Int
  | .number (.int i) => .ok i
  | .number (.real x) => integerOfReal x
  | .bool b => .ok b.toNat
  | .string s => integerOfText s
  | _ => .error .notInteger

/-- The digits of a decimal text and the power of ten that they count. -/
def mantissa? (cs : List Char) : Option (Nat × Int) :=
  let (whole, fraction) := splitAt? (· = '.') cs
  let digits := whole ++ fraction.getD []
  if digits.isEmpty || !digits.all Char.isDigit then none
  else some (Nat.ofDigitChars 10 digits 0, -((fraction.getD []).length : Int))

def exponent? (cs : List Char) : Option Int :=
  let (negative, digits) := Numeral.sign cs
  if digits.isEmpty || !digits.all Char.isDigit then none
  else some (Numeral.signed negative (Nat.ofDigitChars 10 digits 0))

/-- The number that a plain numeral denotes: a decimal with an optional exponent, or one of the
names of the values that are not finite, in any case of letters. -/
def plainReal? (cs : List Char) : Option Binary64 :=
  let (negative, body) := Numeral.sign cs
  let name := String.ofList (body.map Char.toLower)
  if name = "inf" ∨ name = "infinity" then some (.infinite negative)
  else if name = "nan" then some .nan
  else
    match splitAt? (fun c => c = 'e' || c = 'E') body with
    | (front, none) => (mantissa? front).map fun (ds, e) => .ofDecimal negative ds e
    | (front, some back) => do
      let (ds, e) ← mantissa? front
      let more ← exponent? back
      pure (.ofDecimal negative ds (e + more))

def realOfText (t : Text) : Except Complaint Binary64 :=
  match t.chars? with
  | none => .error .notNumberText
  | some cs =>
    ((plainReal? (trim isSpace cs)).or ((dropUnderscores? cs).bind plainReal?)).elim
      (.error .notNumberText) .ok

def real : Json → Except Complaint Binary64
  | .number n => (n.toReal?).elim (.error .notNumber) .ok
  | .bool b => (Binary64.ofInt? b.toNat).elim (.error .notNumber) .ok
  | .string s => realOfText s
  | _ => .error .notNumber

def text : Json → Except Complaint String
  | .string s => s.string?.elim (.error .brokenText) .ok
  | _ => .error .notText

def members : Json → Except Complaint (Ordered Text Json)
  | .object ms => .ok ms
  | _ => .error .notObject

/-- An integer that is not below a bound. -/
def integerFrom (least : Nat) (v : Json) : Except Complaint Int := do
  let i ← integer v
  if i < least then .error (.lessThan least) else .ok i

def positive (v : Json) : Except Complaint Binary64 := do
  let x ← real v
  if x.isPositive then .ok x else .error (.notAbove 0)

def connection (v : Json) : Except Complaint String := do
  let s ← text v
  match Connection.parse s with
  | .ok _ => .ok s
  | .error fault => .error (.badConnection fault)

def nullable {α : Type} (read : Json → Except Complaint α) : Json → Except Complaint (Option α)
  | .null => .ok none
  | v => (read v).map some

end Coercion

def required {α : Type} (read : Json → Except Complaint α) : Option Json → Except Complaint α
  | none => .error .missing
  | some v => read v

def defaulted {α : Type} (read : Json → Except Complaint α) (default : α) :
    Option Json → Except Complaint α
  | none => .ok default
  | some v => read v

end SearchBridge
