import SearchBridge.Json.Basic
import SearchBridge.Text.Quoted
/-!
Values as they are shown inside messages: nested texts are quoted, a text on its own is shown as it
is, and the single words are `None`, `True` and `False`.
-/

namespace SearchBridge

namespace Json

mutual

def nested : Json → List Char
  | .null => "None".toList
  | .bool b => if b then "True".toList else "False".toList
  | .number n => n.toChars
  | .string s => Text.quotedChars s
  | .array [] => ['[', ']']
  | .array (v :: vs) => '[' :: (nested v ++ nestedItems vs)
  | .object [] => ['{', '}']
  | .object ((n, v) :: ms) =>
    '{' :: (Text.quotedChars n ++ ':' :: ' ' :: (nested v ++ nestedMembers ms))

/-- The items after the first one and the closing bracket. -/
def nestedItems : List Json → List Char
  | [] => [']']
  | v :: vs => ',' :: ' ' :: (nested v ++ nestedItems vs)

/-- The members after the first one and the closing brace. -/
def nestedMembers : List (Text × Json) → List Char
  | [] => ['}']
  | (n, v) :: ms =>
    ',' :: ' ' :: (Text.quotedChars n ++ ':' :: ' ' :: (nested v ++ nestedMembers ms))

end

/-- The text that a message shows for a value. -/
def shown : Json → Text
  | .string s => s
  | v => Text.ofChars v.nested

end Json

end SearchBridge
