import SearchBridge.Bytes.Charset
import SearchBridge.Ordered
import SearchBridge.Text.Blank
import SearchBridge.Text.Numeral
import SearchBridge.Text.Quoted
/-!
The parameters of a content type, and the character set that one of them names.

Parameters stand behind semicolons, but not behind a semicolon in double quotes. A value may be in
double quotes or in angle brackets. A parameter whose name ends in an asterisk, or in an asterisk
and a number, is a part of a longer value: the parts are put together in the order of their numbers,
and if one of them is marked by a closing asterisk, its octets may be written in base sixteen and
the whole starts with a character set and a language, each closed by a single quote, in which its
octets are to be read.
-/

namespace SearchBridge

namespace ContentType

inductive Fault where
  /-- Only some parts of a value have numbers. The first part has one, if `numbered`. -/
  | mixedParts (numbered : Bool)
  | longNumber (digits : Nat)
  /-- The name of a character set has a zero character in it. -/
  | zero
  /-- The octets of a value cannot be read in the character set of a name. -/
  | unreadable (name : List Char) (f : CharsetFault)
  deriving DecidableEq, Repr

def Fault.message : Fault → String
  | .mixedParts numbered =>
    let kinds := if numbered then "'NoneType' and 'int'" else "'int' and 'NoneType'"
    "'<' not supported between instances of " ++ kinds
  | .longNumber digits => Text.Numeral.lengthMessage digits
  | .zero => "embedded null character"
  | .unreadable name f =>
    "decoding with '" ++ String.ofList name ++ "' codec failed (RuntimeError: " ++ f.message ++ ")"

/-- The pieces between the semicolons outside double quotes. A quote behind a backslash does not
count. `previous` is the character before the text. -/
def pieces (quoted : Bool) (previous : Char) : List Char → List (List Char)
  | [] => [[]]
  | c :: r =>
    if c = ';' && !quoted then [] :: pieces false c r
    else
      match pieces (if c = '"' && previous ≠ '\\' then !quoted else quoted) c r with
      | [] => [[c]]
      | piece :: rest => (c :: piece) :: rest

/-- A text with one character in place of each backslash and another one behind it. -/
def unescape (escaped : Char) : List Char → List Char
  | '\\' :: c :: r =>
    if c = escaped then c :: unescape escaped r else '\\' :: unescape escaped (c :: r)
  | c :: r => c :: unescape escaped r
  | [] => []

/-- A text with a backslash in front of each backslash and each double quote. -/
def escape (cs : List Char) : List Char :=
  cs.flatMap fun c => if c = '\\' || c = '"' then ['\\', c] else [c]

/-- A value without double quotes or angle brackets around it. In double quotes first the escaped
backslashes are read, then the escaped quotes. -/
def unquote (cs : List Char) : List Char :=
  let inner := (cs.drop 1).dropLast
  if cs.length < 2 then cs
  else if cs.head? = some '"' && cs.getLast? = some '"' then unescape '"' (unescape '\\' inner)
  else if cs.head? = some '<' && cs.getLast? = some '>' then inner
  else cs

structure Parameter where
  name : List Char
  value : List Char
  deriving DecidableEq, Repr

def trimmed (cs : List Char) : List Char := Text.trim Text.isBlankChar cs

/-- A character of a name in lower case. The Kelvin sign is the only one outside ASCII that has a
letter of ASCII for its lower case. -/
def lower (c : Char) : Char := if c = '\u212a' then 'k' else c.toLower

/-- The parameter in a piece. A name in front of an equals sign is put in lower case; a piece
without one is a name as it is written, with an empty value. -/
def parameter (piece : List Char) : Parameter :=
  if piece.contains '=' then
    ⟨(trimmed (piece.takeWhile (· ≠ '='))).map lower,
      unquote (trimmed ((piece.dropWhile (· ≠ '=')).drop 1))⟩
  else ⟨trimmed piece, []⟩

/-- A part of a longer value: its number, if it has one, its text, and whether it is marked. -/
structure Part where
  number : Option Nat
  value : List Char
  marked : Bool
  deriving DecidableEq, Repr

def numberLimit : Nat := 4300

def isWordChar (c : Char) : Bool := c.isAlphanum || c = '_'

/-- The name of the value that a parameter is a part of, with the part, if it is one. -/
def part? (p : Parameter) : Except Fault (Option (List Char × Part)) :=
  let name := p.name.takeWhile isWordChar
  match name, p.name.drop name.length with
  | _ :: _, ['*'] => .ok (some (name, ⟨none, p.value, true⟩))
  | _ :: _, '*' :: r =>
    let digits := r.takeWhile Char.isDigit
    let rest := r.drop digits.length
    if digits.isEmpty || (!rest.isEmpty && rest ≠ ['*']) then .ok none
    else if numberLimit < digits.length then .error (.longNumber digits.length)
    else .ok (some (name, ⟨some (Nat.ofDigitChars 10 digits 0), p.value, !rest.isEmpty⟩))
  | _, _ => .ok none

/-- Octets written as a percent sign and two digits in base sixteen. -/
def percentDecode : List Char → List Char
  | '%' :: a :: b :: r =>
    match Text.hexNumber? [a, b] with
    | some n => Char.ofNat n :: percentDecode r
    | none => '%' :: percentDecode (a :: b :: r)
  | c :: r => c :: percentDecode r
  | [] => []

/-- Parts are put together by their numbers, by their values where those are the same, and a marked
one behind one that is not. -/
def Part.before (p q : Part) : Bool :=
  let m := p.number.getD 0
  let n := q.number.getD 0
  let s := String.ofList p.value
  let t := String.ofList q.value
  m < n || (m = n && (s < t || (s = t && (!p.marked || q.marked))))

/-- A value: as it is, or octets with the character set that they are to be read in. -/
inductive Value where
  | plain (cs : List Char)
  | extended (charset : List Char) (cs : List Char)
  deriving DecidableEq, Repr

/-- The character set of an extended value and what is to be read in it: the text in front of the
first single quote, and the text behind the second one. Without two of them ASCII is meant. -/
def Value.ofExtended (cs : List Char) : Value :=
  match Text.splitOn '\'' cs with
  | charset :: _ :: p :: rest => .extended charset (p ++ rest.flatMap ('\'' :: ·))
  | _ => .extended [] cs

/-- The value that parts form: all of them have a number, or none. -/
def joinParts (parts : List Part) : Except Fault Value :=
  let numbered := (parts.head?.bind (·.number)).isSome
  if parts.any (·.number.isSome != numbered) then .error (.mixedParts numbered)
  else
    let whole := (parts.mergeSort Part.before).flatMap fun p =>
      if p.marked then percentDecode p.value else p.value
    .ok (if parts.any (·.marked) then .ofExtended whole else .plain whole)

/-- The parameters of a content type with their values: first those that are written in one piece,
then those in parts. The first piece is never a part. -/
def values (header : String) : Except Fault (List (List Char × Value)) := do
  match (pieces false ' ' header.toList).map parameter with
  | [] => pure []
  | first :: rest =>
    let parts ← rest.mapM part?
    let plain := first :: ((rest.zip parts).filter (·.2.isNone)).map (·.1)
    let grouped := (parts.filterMap id).foldl
      (fun (groups : Ordered (List Char) (List Part)) (name, part) =>
        groups.alter name fun ps => ps.getD [] ++ [part]) []
    let joined ← grouped.mapM fun (name, ps) => do pure (name, ← joinParts ps)
    pure (plain.map (fun p => (p.name, .plain p.value)) ++ joined)

/-- The octets of characters, those from U+0100 on by their numbers. -/
def octets (cs : List Char) : List UInt8 :=
  cs.flatMap fun c =>
    if c.toNat < 0x100 then [UInt8.ofNat c.toNat]
    else (Text.escapedNumber c.toNat).map fun d => UInt8.ofNat d.toNat

/-- The text of a value. Octets that have none in their character set are taken as they are, unless
a set of characters is out of place. -/
def Value.text : Value → Except Fault Text
  | .plain cs => .ok (Text.ofChars cs)
  | .extended charset cs =>
    if charset.contains '\x00' then .error .zero
    else if cs.isEmpty then .ok []
    else
      let name := if charset.isEmpty then "ascii".toList else charset
      match Charset.ofName? name with
      | none => .ok (Text.ofChars cs)
      | some c =>
        match c.decode false (octets cs) with
        | .ok t => .ok t
        | .error .misplaced => .error (.unreadable (escape name) .misplaced)
        | .error _ => .ok (Text.ofChars cs)

def charsetParameter : List Char := "charset".toList

/-- The character set that a content type names, if it names a known one in ASCII. -/
def charset? (header : String) : Except Fault (Option Charset) := do
  match (← values header).find? fun v => v.1.map lower = charsetParameter with
  | none => pure none
  | some (_, value) =>
    match (← value.text).chars? with
    | none => pure none
    | some name =>
      if name.any (0x80 ≤ ·.toNat) then pure none
      else if name.contains '\x00' then throw .zero
      else pure (Charset.ofName? name)

end ContentType

end SearchBridge
