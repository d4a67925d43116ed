import SearchBridge.Text.CharacterName.Alias
import SearchBridge.Text.CharacterName.Alphabets
import SearchBridge.Text.CharacterName.Basic
import SearchBridge.Text.CharacterName.EastAsian
import SearchBridge.Text.CharacterName.Hieroglyphs
import SearchBridge.Text.CharacterName.Historic
import SearchBridge.Text.CharacterName.Notations
import SearchBridge.Text.CharacterName.Numbered
import SearchBridge.Text.CharacterName.Pictographs
import SearchBridge.Text.CharacterName.PresentationForms
import SearchBridge.Text.CharacterName.Shapes
import SearchBridge.Text.CharacterName.Signs
import SearchBridge.Text.CharacterName.SouthAsian
import SearchBridge.Text.CharacterName.Syllabaries
/-!
The characters of Unicode 14 by their names.
-/

namespace SearchBridge

namespace CharacterName

def tables : List (List String) :=
  [alphabets, signs, aliases, southAsian, syllabaries, shapes, eastAsian, presentationForms,
    historic, hieroglyphs, notations, pictographs]

/-- The code point of the character with a name. The names of syllables and of unified ideographs
have to be in capitals, in other names the case of letters does not matter. -/
def point? (name : List Char) : Option Nat :=
  let capitals := name.map Char.toUpper
  syllable? name <|> ideograph? name <|> numbered? capitals
    <|> tables.findSome? (inTable? capitals)

end CharacterName

end SearchBridge
