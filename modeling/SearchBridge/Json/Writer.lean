import SearchBridge.Json.Basic
import SearchBridge.Text.Hex
import SearchBridge.Text.Surrogate
/-!
Writing JSON text. The text is ASCII: a character outside it is written as one or two escaped
UTF-16 units. Members and items are separated by a comma and a space, a name from its value by a
colon and a space.
-/

namespace SearchBridge

namespace Json

/-- A UTF-16 unit as an escape. -/
def escapedUnit (n : Nat) : List Char := '\\' :: 'u' :: Text.hexChars 4 n

def writeChar (c : Char) : List Char :=
  if c = '"' then ['\\', '"']
  else if c = '\\' then ['\\', '\\']
  else if c = '\n' then ['\\', 'n']
  else if c = '\r' then ['\\', 'r']
  else if c = '\t' then ['\\', 't']
  else if c = '\x0c' then ['\\', 'f']
  else if c = '\x08' then ['\\', 'b']
  else
    let n := c.toNat
    if 0x20 ≤ n && n < 0x7F then [c]
    else if n < 0x10000 then escapedUnit n
    else escapedUnit (Text.splitPair n).1 ++ escapedUnit (Text.splitPair n).2

def writePoint : Point → List Char
  | .char c => writeChar c
  | p => escapedUnit p.toNat

def writeString (t : Text) : List Char := '"' :: (t.flatMap writePoint ++ ['"'])

/-- Numbers are written as their text, except for the names of the values that are not finite. -/
def writeNumber : Number → List Char
  | .real .nan => "NaN".toList
  | .real (.infinite negative) => if negative then "-Infinity".toList else "Infinity".toList
  | n => n.toChars

mutual

def write : Json → List Char
  | .null => "null".toList
  | .bool b => if b then "true".toList else "false".toList
  | .number n => writeNumber n
  | .string s => writeString s
  | .array [] => ['[', ']']
  | .array (v :: vs) => '[' :: (write v ++ writeItems vs)
  | .object [] => ['{', '}']
  | .object ((n, v) :: ms) => '{' :: (writeString n ++ ':' :: ' ' :: (write v ++ writeMembers ms))

/-- The items after the first one, each after a separator, and the closing bracket. -/
def writeItems : List Json → List Char
  | [] => [']']
  | v :: vs => ',' :: ' ' :: (write v ++ writeItems vs)

/-- The members after the first one, each after a separator, and the closing brace. -/
def writeMembers : List (Text × Json) → List Char
  | [] => ['}']
  | (n, v) :: ms => ',' :: ' ' :: (writeString n ++ ':' :: ' ' :: (write v ++ writeMembers ms))

end

def text (v : Json) : String := String.ofList v.write

end Json

end SearchBridge
