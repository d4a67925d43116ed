/-!
Splitting text at every place where a separator stands.
-/

namespace SearchBridge

namespace Text

/-- The pieces between the separators, one more than there are separators. -/
def splitOn (separator : Char) : List Char → List (List Char)
  | [] => [[]]
  | c :: r =>
    if c = separator then [] :: splitOn separator r
    else
      match splitOn separator r with
      | [] => [[c]]
      | piece :: pieces => (c :: piece) :: pieces

end Text

end SearchBridge
