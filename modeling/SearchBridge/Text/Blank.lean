import SearchBridge.Text.Basic
/-!
Blank text. Ids, field values, tokens and queries that are blank count as absent.

Two classes of characters are told apart: `isSpace` is the White_Space property of Unicode, which
surrounds numerals, and `isBlankChar` adds the four information separators U+001C to U+001F. The
zero-width characters U+200B, U+FEFF and U+180E are in neither.
-/

namespace SearchBridge

namespace Text

/-- The White_Space property. -/
def isSpace (c : Char) : Bool :=
  let n := c.toNat
  (9 ≤ n && n ≤ 13) || n = 0x20 || n = 0x85 || n = 0xA0 || n = 0x1680 ||
    (0x2000 ≤ n && n ≤ 0x200A) || n = 0x2028 || n = 0x2029 || n = 0x202F || n = 0x205F || n = 0x3000

/-- White space or one of the information separators. -/
def isBlankChar (c : Char) : Bool :=
  isSpace c || (0x1C ≤ c.toNat && c.toNat ≤ 0x1F)

/-- Whether a text has nothing in it that is not blank. A surrogate that stands alone is not. -/
def isBlank (t : Text) : Bool := t.all (Point.isChar isBlankChar)

/-- The text without leading and trailing characters of a class. -/
def trim (drop : Char → Bool) (cs : List Char) : List Char :=
  (((cs.dropWhile drop).reverse).dropWhile drop).reverse

@[simp] theorem isBlank_empty : isBlank "" = true := rfl

end Text

end SearchBridge
