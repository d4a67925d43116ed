import SearchBridge.Text.Basic
import SearchBridge.Text.Hex
import SearchBridge.Text.Printable
/-!
Quoted text, as values are shown inside messages. Single quotes are used unless the text holds a
single quote and no double quote; the quote in use and the backslash are escaped, and so is every
code point that is not printable.
-/

namespace SearchBridge

namespace Text

/-- A code point by its number. -/
def escapedNumber (n : Nat) : List Char :=
  if n < 0x100 then '\\' :: 'x' :: hexChars 2 n
  else if n < 0x10000 then '\\' :: 'u' :: hexChars 4 n
  else '\\' :: 'U' :: hexChars 8 n

def quotedChar (quote c : Char) : List Char :=
  if c = quote ∨ c = '\\' then ['\\', c]
  else if c = '\n' then ['\\', 'n']
  else if c = '\r' then ['\\', 'r']
  else if c = '\t' then ['\\', 't']
  else if isPrintable c then [c]
  else escapedNumber c.toNat

def quotedPoint (quote : Char) : Point → List Char
  | .char c => quotedChar quote c
  | p => escapedNumber p.toNat

def quoteFor (t : Text) : Char :=
  if t.contains (.char '\'') && !t.contains (.char '"') then '"' else '\''

def quotedChars (t : Text) : List Char :=
  let q := quoteFor t
  q :: (t.flatMap (quotedPoint q) ++ [q])

def quoted (s : String) : String := String.ofList (quotedChars s)

end Text

end SearchBridge
