import SearchBridge.Ordered
import SearchBridge.Settings.Environment
import SearchBridge.Text.Blank
/-!
Files of environment variables, one `NAME=value` per line.

A line may start with `export`. A name may stand in single quotes, a value in single or double
quotes, in which it may go on over several lines; a value without quotes ends before a `#` that has
blank space in front of it, which may be the space behind the equals sign. A line that cannot be
read is skipped from where reading it failed. In values `${NAME}` and `${NAME:-default}` stand for
variables; those of the environment come before those of the file.

A reading step returns what it read with the text after it, or the text at which it failed.
-/

namespace SearchBridge

namespace EnvFile

open Text (isBlankChar)

/-- Every line end as a line feed. -/
def unifyLines : List Char → List Char
  | [] => []
  | '\r' :: '\n' :: r => '\n' :: unifyLines r
  | '\r' :: r => '\n' :: unifyLines r
  | c :: r => c :: unifyLines r

/-- Blank space inside a line. -/
def isInlineSpace (c : Char) : Bool := isBlankChar c && c ≠ '\n'

def skipInline (cs : List Char) : List Char := cs.dropWhile isInlineSpace

/-- The text after the word `export` and blank space, if it starts with them. -/
def skipExport (cs : List Char) : List Char :=
  let word := "export".toList
  let rest := cs.drop word.length
  if word.isPrefixOf cs && (rest.head?.any isInlineSpace) then skipInline rest else cs

/-- The name at the start of a line, none for a comment. -/
def readName (cs : List Char) : Except (List Char) (Option String × List Char) :=
  match cs with
  | '#' :: _ => .ok (none, cs)
  | '\'' :: r =>
    let name := r.takeWhile (· ≠ '\'')
    match r.drop name.length with
    | _ :: rest => if name.isEmpty then .error cs else .ok (some (String.ofList name), rest)
    | [] => .error cs
  | _ =>
    let name := cs.takeWhile fun c => c ≠ '=' && c ≠ '#' && !isBlankChar c
    if name.isEmpty then .error cs
    else .ok (some (String.ofList name), cs.drop name.length)

/-- The characters before the closing quote and those after it. A backslash is no quote, and neither
is the character after it. -/
def splitQuote? (quote : Char) : List Char → Option (List Char × List Char)
  | [] => none
  | '\\' :: c :: r => (splitQuote? quote r).map fun (value, rest) => ('\\' :: c :: value, rest)
  | c :: r =>
    if c = quote then some ([], r)
    else (splitQuote? quote r).map fun (value, rest) => (c :: value, rest)

/-- What a letter after a backslash stands for between double quotes. -/
def escapes : List (Char × Char) := [
  ('\\', '\\'), ('\'', '\''), ('"', '"'), ('a', '\x07'), ('b', '\x08'), ('f', '\x0c'),
  ('n', '\n'), ('r', '\r'), ('t', '\t'), ('v', '\x0b')]

/-- Replaces the escapes whose letter is allowed. -/
def unescape (allowed : Char → Bool) : List Char → List Char
  | [] => []
  | '\\' :: c :: r =>
    match (escapes.find? fun e => e.1 = c && allowed c) with
    | some e => e.2 :: unescape allowed r
    | none => '\\' :: unescape allowed (c :: r)
  | c :: r => c :: unescape allowed r

/-- A value after its opening quote. `all` starts at the quote. -/
def readQuoted (quote : Char) (allowed : Char → Bool) (all cs : List Char) :
    Except (List Char) (String × List Char) :=
  match splitQuote? quote cs with
  | none => .error all
  | some (value, rest) => .ok (String.ofList (unescape allowed value), rest)

/-- The text before a `#` that follows blank space. -/
def beforeComment (afterSpace : Bool) : List Char → List Char
  | [] => []
  | c :: r =>
    if c = '#' && afterSpace then [] else c :: beforeComment (isBlankChar c) r

def trimEnd (cs : List Char) : List Char := (cs.reverse.dropWhile isBlankChar).reverse

/-- The value after an equals sign and blank space, if there is some. -/
def readValue (afterSpace : Bool) (cs : List Char) : Except (List Char) (String × List Char) :=
  match cs with
  | '\'' :: r => readQuoted '\'' (fun c => c = '\\' || c = '\'') cs r
  | '"' :: r => readQuoted '"' (fun _ => true) cs r
  | _ =>
    let line := cs.takeWhile (· ≠ '\n')
    .ok (String.ofList (trimEnd (beforeComment afterSpace line)), cs.drop line.length)

/-- The rest of a line: blank space, a comment and the line end. -/
def readLineEnd (cs : List Char) : Except (List Char) (Unit × List Char) :=
  let cs := match skipInline cs with
    | '#' :: r => r.dropWhile (· ≠ '\n')
    | _ => cs
  match skipInline cs with
  | [] => .ok ((), [])
  | '\n' :: rest => .ok ((), rest)
  | _ => .error cs

/-- A name with its value, if it has one. Nothing is bound by a comment or by the end of the
text. -/
def readBinding (cs : List Char) :
    Except (List Char) (Option (String × Option String) × List Char) := do
  let cs := cs.dropWhile isBlankChar
  if cs.isEmpty then pure (none, [])
  else
    let (name, rest) ← readName (skipExport cs)
    let rest := skipInline rest
    let (value, rest) ← match rest with
      | '=' :: r =>
        (readValue (r.head?.any isInlineSpace) (skipInline r)).map fun (v, rest) => (some v, rest)
      | _ => pure (none, rest)
    let ((), rest) ← readLineEnd rest
    pure (name.map (·, value), rest)

/-- The bindings of a text, in order. The bound on their number is the length of the text. -/
def readBindings : Nat → List Char → List (String × Option String)
  | 0, _ => []
  | _, [] => []
  | fuel + 1, cs =>
    match readBinding cs with
    | .ok (binding, rest) => binding.toList ++ readBindings fuel rest
    | .error rest => readBindings fuel ((rest.dropWhile (· ≠ '\n')).drop 1)

/-- The bindings of a file. A byte order mark in front is no part of it. -/
def bindings (text : String) : List (String × Option String) :=
  let cs := unifyLines (match text.toList with
    | '\uFEFF' :: r => r
    | cs => cs)
  readBindings (cs.length + 1) cs

/-- A variable in a value: its name, its default and the text after it. -/
def readVariable (cs : List Char) : Option (String × String × List Char) :=
  match cs with
  | '$' :: '{' :: r =>
    let name := r.takeWhile fun c => c ≠ '}' && c ≠ ':'
    match r.drop name.length with
    | '}' :: rest => some (String.ofList name, "", rest)
    | ':' :: '-' :: r =>
      let value := r.takeWhile (· ≠ '}')
      match r.drop value.length with
      | '}' :: rest => some (String.ofList name, String.ofList value, rest)
      | _ => none
    | _ => none
  | _ => none

/-- A value with its variables replaced by what they stand for. -/
def expand (meaning : String → Option String) : Nat → List Char → List Char
  | 0, _ => []
  | _, [] => []
  | fuel + 1, c :: r =>
    match readVariable (c :: r) with
    | some (name, default, rest) => ((meaning name).getD default).toList ++ expand meaning fuel rest
    | none => c :: expand meaning fuel r

/-- The variables of a file with their values, each name at its first place. A name without a value
stands for nothing in the values after it. -/
def resolve (environment : List (String × String)) (bs : List (String × Option String)) :
    Ordered String (Option String) :=
  bs.foldl (fun known b =>
    let meaning (name : String) : Option String :=
      (Ordered.find? environment name).or ((known.find? name).map (·.getD ""))
    known.put b.1 (b.2.map fun v =>
      String.ofList (expand meaning (v.length + 1) v.toList))) []

/-- The environment with the variables of a file added that it does not have yet. Fails with the
first one of them that cannot be set. -/
def extend (environment : List (String × String)) (text : String) :
    Except VariableFault (List (String × String)) := do
  let added := (resolve environment (bindings text)).filterMap fun b =>
    b.2.bind fun v => if (Ordered.find? environment b.1).isSome then none else some (b.1, v)
  pure (environment ++ (← added.mapM fun b => Environment.binding b.1 b.2))

/-- The variable that keeps files of variables from being read. -/
def disablingVariable : String := "PYTHON_DOTENV_DISABLED"

/-- The case of letters does not matter in its value. Outside ASCII only the long s is the same
letter as one inside it. -/
def foldChar (c : Char) : Char := if c = '\u017F' then 's' else c.toLower

/-- Whether an environment keeps files of variables from being read. -/
def isDisabled (environment : List (String × String)) : Bool :=
  (Ordered.find? environment disablingVariable).any fun value =>
    ["1", "true", "t", "yes", "y"].contains (String.ofList (value.toList.map foldChar))

/-- The environment after a file of variables, if there is one and it is read. -/
def load (environment : List (String × String)) (file : Option String) :
    Except VariableFault (List (String × String)) :=
  match file with
  | some text => if isDisabled environment then .ok environment else extend environment text
  | none => .ok environment

end EnvFile

end SearchBridge
