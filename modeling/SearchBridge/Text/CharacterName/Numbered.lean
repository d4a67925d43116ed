import SearchBridge.Text.Hex
/-!
Names of characters that are put together by rule: syllables from the names of their letters, and
characters that are told apart by their code points alone.
-/

namespace SearchBridge

namespace CharacterName

def leads : List String :=
  ["G", "GG", "N", "D", "DD", "R", "M", "B", "BB", "S", "SS", "", "J", "JJ", "C", "K", "T", "P",
    "H"]

def vowels : List String :=
  ["A", "AE", "YA", "YAE", "EO", "E", "YEO", "YE", "O", "WA", "WAE", "OE", "YO", "U", "WEO", "WE",
    "WI", "YU", "EU", "YI", "I"]

def tails : List String :=
  ["", "G", "GG", "GS", "N", "NJ", "NH", "D", "L", "LG", "LM", "LB", "LS", "LT", "LP", "LH", "M",
    "B", "BS", "S", "SS", "NG", "J", "C", "K", "T", "P", "H"]

/-- The longest of some texts at the front of a name: its place among them, and the rest. -/
def longest? (texts : List String) (name : List Char) : Option (Nat × List Char) :=
  let fitting := texts.zipIdx.filterMap fun (t, i) =>
    (t.toList.isPrefixOf? name).map fun rest => (i, rest)
  fitting.foldl (fun found f =>
    match found with
    | some (_, rest) => if f.2.length < rest.length then some f else found
    | none => some f) none

/-- The syllable that a name is put together for. Of several letters that fit the longest one
counts. -/
def syllable? (name : List Char) : Option Nat := do
  let letters ← "HANGUL SYLLABLE ".toList.isPrefixOf? name
  let (lead, letters) ← longest? leads letters
  let (vowel, letters) ← longest? vowels letters
  let (tail, letters) ← longest? tails letters
  if letters.isEmpty then
    pure (0xAC00 + (lead * vowels.length + vowel) * tails.length + tail)
  else none

/-- The first and the last code points of the runs of unified ideographs. -/
def unifiedIdeographs : List (Nat × Nat) := [
  (0x3400, 0x4DBF), (0x4E00, 0x9FFF), (0x20000, 0x2A6DF), (0x2A700, 0x2B738), (0x2B740, 0x2B81D),
  (0x2B820, 0x2CEA1), (0x2CEB0, 0x2EBE0), (0x30000, 0x3134A)]

def isWithin (runs : List (Nat × Nat)) (n : Nat) : Bool :=
  runs.any fun run => run.1 ≤ n && n ≤ run.2

/-- The unified ideograph that a name tells by four or five digits, which may start with zero. -/
def ideograph? (name : List Char) : Option Nat := do
  let digits ← "CJK UNIFIED IDEOGRAPH-".toList.isPrefixOf? name
  let n ← Text.hexNumber? digits
  if (digits.length = 4 || digits.length = 5) && !digits.any Char.isLower
      && isWithin unifiedIdeographs n then pure n
  else none

/-- The other characters that are told by their code points, without zeros in front. -/
def numberedRuns : List (String × List (Nat × Nat)) := [
  ("CJK COMPATIBILITY IDEOGRAPH-", [(0xF900, 0xFA6D), (0xFA70, 0xFAD9), (0x2F800, 0x2FA1D)]),
  ("KHITAN SMALL SCRIPT CHARACTER-", [(0x18B00, 0x18CD5)]),
  ("NUSHU CHARACTER-", [(0x1B170, 0x1B2FB)])]

/-- The character of those runs that a name in capitals tells. -/
def numbered? (name : List Char) : Option Nat :=
  numberedRuns.findSome? fun (start, runs) => do
    let digits ← start.toList.isPrefixOf? name
    let n ← Text.hexNumber? digits
    if digits.head? ≠ some '0' && isWithin runs n then pure n else none

end CharacterName

end SearchBridge
