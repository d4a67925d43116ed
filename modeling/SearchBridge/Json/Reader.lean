import SearchBridge.Json.Basic
import SearchBridge.Text.Hex
import SearchBridge.Text.Surrogate
/-!
Reading JSON text.

White space is the space, the tab, the line feed and the carriage return. A control character may
not stand inside a text, an integer may have 4300 digits at most, and the names `NaN`, `Infinity`
and `-Infinity` are numbers. Of members with the same name the last one counts, at the place of the
first. Two escaped UTF-16 units that form a surrogate pair are one character; any other surrogate
stands alone, however it is written.

How deep arrays and objects may stand in one another can be limited; one that stands too deep is a
fault as soon as it opens, whatever comes after it. Reading a value takes a bound on how long it may
go on, too; `Json.readWithin` starts with one that no text of its length exceeds.
-/

namespace SearchBridge

namespace Json

/-- Why a text is not read: it is no JSON text, or a container stands too deep. -/
inductive ReadFault where
  | malformed
  | nested (c : Container)
  deriving DecidableEq, Repr

def isSeparatorSpace (c : Char) : Bool := c = ' ' || c = '\t' || c = '\n' || c = '\r'

def skipSpace (ps : Text) : Text := ps.dropWhile (Point.isChar isSeparatorSpace)

/-- The text after a given beginning. -/
def after? : List Char → Text → Option Text
  | [], ps => some ps
  | _ :: _, [] => none
  | w :: ws, p :: ps => if p = .char w then after? ws ps else none

def shortEscape? (c : Char) : Option Char :=
  if c = '"' || c = '\\' || c = '/' then some c
  else if c = 'b' then some '\x08'
  else if c = 'f' then some '\x0c'
  else if c = 'n' then some '\n'
  else if c = 'r' then some '\r'
  else if c = 't' then some '\t'
  else none

/-- The rest of a text after its opening quote, in pieces: numbered escapes are units. -/
def readPieces : Text → Option (List Text.Piece × Text)
  | [] => none
  | .char '"' :: r => some ([], r)
  | .char '\\' :: .char 'u' :: a :: b :: c :: d :: r => do
    let n ← Text.hexNumber? (← Text.chars? [a, b, c, d])
    let (pieces, rest) ← readPieces r
    pure (.unit n :: pieces, rest)
  | .char '\\' :: .char e :: r => do
    let c ← shortEscape? e
    let (pieces, rest) ← readPieces r
    pure (.point (.char c) :: pieces, rest)
  | p :: r => do
    if p.toNat < 0x20 || p = .char '\\' then none
    else
      let (pieces, rest) ← readPieces r
      pure (.point p :: pieces, rest)

def readString (ps : Text) : Option (Text × Text) :=
  (readPieces ps).map fun (pieces, rest) => (Text.joinPieces pieces, rest)

def digitRun (ps : Text) : List Char × Text :=
  ((ps.takeWhile (Point.isChar Char.isDigit)).filterMap Point.char?,
    ps.dropWhile (Point.isChar Char.isDigit))

/-- The whole part of a number: a lone zero, or digits that do not start with one. -/
def readWhole : Text → Option (List Char × Text)
  | .char '0' :: r => some (['0'], r)
  | ps => if (digitRun ps).1.isEmpty then none else some (digitRun ps)

/-- The digits of a fraction, none if there is no point with a digit after it. -/
def readFraction : Text → List Char × Text
  | .char '.' :: r => if (digitRun r).1.isEmpty then ([], .char '.' :: r) else digitRun r
  | ps => ([], ps)

/-- An exponent, if there is a mark with a digit after it. -/
def readExponent (ps : Text) : Option Int × Text :=
  match ps with
  | [] => (none, ps)
  | e :: r =>
    if e = .char 'e' || e = .char 'E' then
      let (negative, body) := match r with
        | .char '-' :: t => (true, t)
        | .char '+' :: t => (false, t)
        | t => (false, t)
      let (ds, rest) := digitRun body
      if ds.isEmpty then (none, ps)
      else
        let n : Int := Nat.ofDigitChars 10 ds 0
        (some (if negative then -n else n), rest)
    else (none, ps)

/-- The longest integer that is read, in digits. -/
def integerLimit : Nat := 4300

/-- A number without its sign. It is an integer unless it has a fraction or an exponent. -/
def readMagnitude (negative : Bool) (ps : Text) : Option (Number × Text) := do
  let (whole, r) ← readWhole ps
  let (fraction, r) := readFraction r
  let (exponent, r) := readExponent r
  if fraction.isEmpty && exponent.isNone then
    if integerLimit < whole.length then none
    else
      let n : Int := Nat.ofDigitChars 10 whole 0
      pure (.int (if negative then -n else n), r)
  else
    let digits := Nat.ofDigitChars 10 (whole ++ fraction) 0
    pure (.real (.ofDecimal negative digits (exponent.getD 0 - fraction.length)), r)

def readNumber : Text → Option (Number × Text)
  | .char '-' :: r =>
    match after? "Infinity".toList r with
    | some rest => some (.real (.infinite true), rest)
    | none => readMagnitude true r
  | ps => readMagnitude false ps

/-- A value that is a single word or a number. -/
def readWord (ps : Text) : Option (Json × Text) :=
  match after? "null".toList ps with
  | some r => some (.null, r)
  | none => match after? "true".toList ps with
    | some r => some (.bool true, r)
    | none => match after? "false".toList ps with
      | some r => some (.bool false, r)
      | none => match after? "NaN".toList ps with
        | some r => some (.number (.real .nan), r)
        | none => match after? "Infinity".toList ps with
          | some r => some (.number (.real (.infinite false)), r)
          | none => (readNumber ps).map fun (n, r) => (.number n, r)

/-- What has been read, unless there is nothing. -/
def demand {α : Type} (read : Option α) : Except ReadFault α := read.elim (.error .malformed) .ok

mutual

/-- A value at the very start of the text. `depth` says how many containers may stand in one another
in it. -/
def readValue : Nat → Nat → Text → Except ReadFault (Json × Text)
  | 0, _, _ => .error .malformed
  | _ + 1, _, .char '"' :: r => demand ((readString r).map fun (s, rest) => (.string s, rest))
  | _ + 1, 0, .char '[' :: _ => .error (.nested .array)
  | fuel + 1, depth + 1, .char '[' :: r =>
    match skipSpace r with
    | .char ']' :: rest => .ok (.array [], rest)
    | r => (readItems fuel depth r).map fun (vs, rest) => (.array vs, rest)
  | _ + 1, 0, .char '{' :: _ => .error (.nested .object)
  | fuel + 1, depth + 1, .char '{' :: r =>
    match skipSpace r with
    | .char '}' :: rest => .ok (.object [], rest)
    | r => (readMembers fuel depth r).map fun (ms, rest) => (.object (Ordered.ofList ms), rest)
  | _ + 1, _, ps => demand (readWord ps)

/-- One item or more, up to the closing bracket. -/
def readItems : Nat → Nat → Text → Except ReadFault (List Json × Text)
  | 0, _, _ => .error .malformed
  | fuel + 1, depth, ps => do
    let (v, r) ← readValue fuel depth ps
    match skipSpace r with
    | .char ']' :: rest => pure ([v], rest)
    | .char ',' :: rest => do
      let (vs, rest) ← readItems fuel depth (skipSpace rest)
      pure (v :: vs, rest)
    | _ => throw .malformed

/-- One member or more, up to the closing brace. -/
def readMembers : Nat → Nat → Text → Except ReadFault (List (Text × Json) × Text)
  | 0, _, _ => .error .malformed
  | fuel + 1, depth, ps => do
    let (n, r) ← demand (match ps with
      | .char '"' :: r => readString r
      | _ => none)
    let r ← demand (match skipSpace r with
      | .char ':' :: r => some (skipSpace r)
      | _ => none)
    let (v, r) ← readValue fuel depth r
    match skipSpace r with
    | .char '}' :: rest => pure ([(n, v)], rest)
    | .char ',' :: rest => do
      let (ms, rest) ← readMembers fuel depth (skipSpace rest)
      pure ((n, v) :: ms, rest)
    | _ => throw .malformed

end

/-- The value that a whole text denotes, with so many containers in one another at most. -/
def readWithin (depth : Nat) (ps : Text) : Except ReadFault Json := do
  let (v, rest) ← readValue (2 * ps.length + 1) depth (skipSpace ps)
  if (skipSpace rest).isEmpty then pure v else throw .malformed

/-- The value that a whole text denotes, however deep its containers stand in one another. -/
def read? (ps : Text) : Option Json := (readWithin ps.length ps).toOption

end Json

end SearchBridge
