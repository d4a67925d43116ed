import SearchBridge.Json.Basic
import SearchBridge.Text.Numeral
/-!
Reading single values loosely. Replies may hold a number where a text is expected and the other
way round; what cannot be read that way counts as absent.
-/

namespace SearchBridge

namespace Json

/-- The text of a scalar: a text itself, a truth value or a number as it is written. -/
def scalarText? : Json → Option Text
  | .string s => some s
  | .bool b => some (Text.ofString (if b then "true" else "false"))
  | .number n => some (Text.ofString n.text)
  | _ => none

/-- The integer that a number or a whole numeral denotes. Truth values denote none. -/
def whole? : Json → Option Int
  | .number n => n.truncate?
  | .string s => Text.readInt? s
  | _ => none

/-- The text of a member, empty when it is absent or no scalar. -/
def textField (v : Json) (name : Text) : Text :=
  ((v.field? name).bind scalarText?).getD []

/-- The integer in a member, if there is one that can be read. -/
def wholeField? (v : Json) (name : Text) : Option Int :=
  (v.field? name).bind whole?

/-- The texts of the scalars that a value is or, if it is an array, holds. -/
def scalarTexts : Json → List Text
  | .array items => items.filterMap scalarText?
  | v => v.scalarText?.toList

end Json

end SearchBridge
