import SearchBridge.Text.Hex
import SearchBridge.Text.Split
/-!
Tables of the names of characters.

A table is one text, cut into rows. Its entries stand between semicolons, and each of them is about
characters that follow one another: the first code point in base sixteen, the start that all their
names share, and how every name goes on, with commas between them. Names are in capitals. A small
letter in a table stands for words that many names have (`words`), and a part of a table matches a
name exactly by what it stands for (`after?_eq_some_iff`).
-/

namespace SearchBridge

namespace CharacterName

/-- What a small letter of a table stands for. Everything else stands for itself. -/
def words : Char → List Char
  | 'a' => "ABOVE".toList
  | 'b' => "AND ".toList
  | 'c' => "ARROW".toList
  | 'd' => "BELOW".toList
  | 'e' => "BLACK ".toList
  | 'f' => "CAPITAL ".toList
  | 'g' => "DOUBLE ".toList
  | 'h' => "FINAL FORM".toList
  | 'i' => "INITIAL FORM".toList
  | 'j' => "ISOLATED FORM".toList
  | 'k' => "LEFT ".toList
  | 'l' => "LEFTWARDS ".toList
  | 'm' => "LETTER ".toList
  | 'n' => "MATHEMATICAL ".toList
  | 'o' => "MIDDLE ".toList
  | 'p' => "POINTING ".toList
  | 'q' => "RIGHT ".toList
  | 'r' => "RIGHTWARDS ".toList
  | 's' => "SIGN ".toList
  | 't' => "SMALL ".toList
  | 'u' => "TIMES ".toList
  | 'v' => "TRIANGLE-HEADED ".toList
  | 'w' => "VERTICAL ".toList
  | 'x' => "VOWEL ".toList
  | 'y' => "WHITE ".toList
  | 'z' => "WITH ".toList
  | c => [c]

/-- The rest of a name after what a part of a table stands for. -/
def after? : List Char → List Char → Option (List Char)
  | [], name => some name
  | c :: part, name =>
    if (words c).isPrefixOf name then after? part (name.drop (words c).length) else none

/-- The code point that an entry of a table gives to a name. -/
def inRun? (name entry : List Char) : Option Nat :=
  match Text.splitOn ',' entry with
  | number :: start :: ends => do
    let rest ← after? start name
    let place ← ends.findIdx? fun part => after? part rest = some []
    pure ((← Text.hexNumber? number) + place)
  | _ => none

def inTable? (name : List Char) (rows : List String) : Option Nat :=
  (Text.splitOn ';' (rows.flatMap String.toList)).findSome? (inRun? name)

theorem after?_eq_some_iff {part name rest : List Char} :
    after? part name = some rest ↔ name = part.flatMap words ++ rest := by
  induction part generalizing name with
  | nil => simp [after?]
  | cons c part ih =>
      rw [after?, List.flatMap_cons, List.append_assoc]
      split
      · rename_i h
        obtain ⟨after, rfl⟩ := List.isPrefixOf_iff_prefix.1 h
        rw [List.drop_left, ih, List.append_cancel_left_eq]
      · rename_i h
        constructor
        · exact fun hn => absurd hn nofun
        · exact fun hn => absurd (List.isPrefixOf_iff_prefix.2 ⟨_, hn.symm⟩) h

end CharacterName

end SearchBridge
