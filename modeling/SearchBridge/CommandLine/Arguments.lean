import SearchBridge.Settings.Basic
import SearchBridge.Text.Quoted
/-!
The arguments of the command line.

An option is given by its name or by any beginning of the name that no other option shares, with its
value behind `=` or as the next argument. An argument that looks like an option is not taken for a
value, a negative number is. The mark `--` behind `=` is no value, and leaves the option without
one. All arguments are classified before the first one takes effect; those that belong to no option
are reported together at the end.
-/

namespace SearchBridge

namespace CommandLine

inductive Flag where
  | help
  | url
  | batchSize
  | queueSize
  | output
  | logLevel
  deriving DecidableEq, Repr

/-- The spellings of the options, in the order in which they are listed. -/
def spellings : List (String × Flag) := [
  ("-h", .help), ("--help", .help), ("--es-url", .url), ("--batch-size", .batchSize),
  ("--queue-size", .queueSize), ("--output", .output), ("--log-level", .logLevel)]

def Flag.name (f : Flag) : String :=
  String.intercalate "/" ((spellings.filter (·.2 = f)).map (·.1))

inductive UsageFault where
  | missingValue (f : Flag)
  | notWhole (f : Flag) (given : String)
  | needless (f : Flag) (given : String)
  | ambiguous (given : String) (candidates : List String)
  | unknown (arguments : List String)
  deriving DecidableEq, Repr

def UsageFault.message : UsageFault → String
  | .missingValue f => "argument " ++ f.name ++ ": expected one argument"
  | .notWhole f given => "argument " ++ f.name ++ ": invalid int value: " ++ Text.quoted given
  | .needless f given =>
    "argument " ++ f.name ++ ": ignored explicit argument " ++ Text.quoted given
  | .ambiguous given candidates =>
    "ambiguous option: " ++ given ++ " could match " ++ String.intercalate ", " candidates
  | .unknown arguments => "unrecognized arguments: " ++ String.intercalate " " arguments

/-- What an option holds once it is given: a value, or none because the mark stood in its place. -/
inductive Given (α : Type) where
  | value (a : α)
  | nothing
  deriving DecidableEq, Repr

def Given.value? {α : Type} : Given α → Option α
  | .value a => some a
  | .nothing => none

/-- What an option holds as a value of a setting: no value is an empty array. -/
def Given.toJson {α : Type} (toJson : α → Json) : Given α → Json
  | .value a => toJson a
  | .nothing => .array []

structure Arguments where
  url : Option (Given String)
  batchSize : Option (Given Int)
  queueSize : Option (Given Int)
  output : Option (Given String)
  logLevel : Option (Given String)
  deriving DecidableEq, Repr

/-- How reading the arguments ends without any. -/
inductive Exit where
  | help
  | fault (f : UsageFault)
  deriving DecidableEq, Repr

/-- What an argument looks like on its own: a plain word, the mark that only plain words follow, an
option with what stands behind its name, or an option that does not exist. -/
inductive Shape where
  | plain
  | rest
  | option (f : Flag) (attached : Option String)
  /-- The short spelling of an option with letters right behind it, or behind `=`. -/
  | cluster (f : Flag) (letters : List Char)
  | unknown
  deriving DecidableEq, Repr

/-- Whether a text is a negative number in plain digits of any script. -/
def isNegativeNumber (cs : List Char) : Bool :=
  let isDigit (c : Char) : Bool := (Text.digitValue? c).isSome
  match cs with
  | '-' :: body =>
    let body := if body.getLast? = some '\n' then body.dropLast else body
    let fraction := (body.dropWhile isDigit)
    match fraction with
    | [] => !body.isEmpty
    | '.' :: digits => !digits.isEmpty && digits.all isDigit
    | _ => false
  | _ => false

/-- What a text is that looks like an option and matches none. -/
def unmatched (cs : List Char) : Shape :=
  if isNegativeNumber cs || cs.contains ' ' then .plain else .unknown

/-- The shape of an argument that starts with two dashes and is no spelling itself. -/
def longShape (argument : String) (cs : List Char) : Except UsageFault Shape :=
  let name := cs.takeWhile (· ≠ '=')
  let attached := ((cs.drop name.length).tail?).map String.ofList
  match spellings.filter fun s => name.isPrefixOf s.1.toList with
  | [] => .ok (unmatched cs)
  | [s] => .ok (.option s.2 attached)
  | several => .error (.ambiguous argument (several.map (·.1)))

def shape (argument : String) : Except UsageFault Shape :=
  let cs := argument.toList
  let name := cs.takeWhile (· ≠ '=')
  let attached := ((cs.drop name.length).tail?).map String.ofList
  match spellings.find? (·.1 = argument), cs with
  | some s, _ => .ok (.option s.2 none)
  | none, ['-', '-'] => .ok .rest
  | none, '-' :: c :: more =>
    match attached.bind fun _ => spellings.find? (·.1 = String.ofList name) with
    | some s =>
      .ok (if c = '-' then .option s.2 attached else .cluster s.2 ((cs.drop name.length).drop 1))
    | none =>
      if c = '-' then longShape argument cs
      else
        match spellings.find? (·.1 = String.ofList ['-', c]) with
        | some s => .ok (.cluster s.2 more)
        | none => .ok (unmatched cs)
  | none, _ => .ok .plain

/-- The shapes of all arguments; behind the mark every argument is plain. -/
def shapes : List String → Except UsageFault (List (String × Shape))
  | [] => .ok []
  | a :: rest => do
    match ← shape a with
    | .rest => pure ((a, .rest) :: rest.map (·, .plain))
    | s => pure ((a, s) :: (← shapes rest))

/-- What letters behind `-h` come to: help if they are all the same one, which may be repeated. -/
def helpCluster (letters : List Char) : Exit :=
  let others := letters.dropWhile (· = 'h')
  if others.isEmpty && !letters.isEmpty then .help
  else .fault (.needless .help (String.ofList others))

def mark : String := "--"

/-- The arguments with the value of an option set. -/
def Arguments.set (a : Arguments) (f : Flag) (value : String) : Except Exit Arguments :=
  let word : Given String := if value = mark then .nothing else .value value
  let whole (use : Given Int → Arguments) : Except Exit Arguments :=
    if value = mark then .ok (use .nothing)
    else match Text.readInt? value with
      | some i => .ok (use (.value i))
      | none => .error (.fault (.notWhole f value))
  match f with
  | .help => .error (.fault (.needless f value))
  | .url => .ok { a with url := some word }
  | .batchSize => whole fun i => { a with batchSize := some i }
  | .queueSize => whole fun i => { a with queueSize := some i }
  | .output => .ok { a with output := some word }
  | .logLevel => .ok { a with logLevel := some word }

/-- Lets classified arguments take effect one after the other. `extra` are those so far that belong
to no option. -/
def apply (a : Arguments) (extra : List String) :
    List (String × Shape) → Except Exit Arguments
  | [] => if extra.isEmpty then .ok a else .error (.fault (.unknown extra))
  | (_, .option .help none) :: _ => .error .help
  | (_, .cluster .help letters) :: _ => .error (helpCluster letters)
  | (_, .option f (some value)) :: rest => do apply (← a.set f value) extra rest
  | (_, .cluster f letters) :: rest => do apply (← a.set f (String.ofList letters)) extra rest
  | (_, .option f none) :: (value, .plain) :: rest => do apply (← a.set f value) extra rest
  | (_, .option f none) :: _ => .error (.fault (.missingValue f))
  | (argument, _) :: rest => apply a (extra ++ [argument]) rest

def Arguments.read (arguments : List String) : Except Exit Arguments := do
  let classified ← (shapes arguments).mapError Exit.fault
  apply ⟨none, none, none, none, none⟩ [] classified

/-- The settings that the arguments give directly. -/
def Arguments.settings (a : Arguments) : List (String × Json) :=
  [("ES_URL", a.url.map (·.toJson Json.ofString)),
   ("BATCH_SIZE", a.batchSize.map (·.toJson Json.int)),
   ("QUEUE_SIZE", a.queueSize.map (·.toJson Json.int)),
   ("log_level", a.logLevel.map (·.toJson Json.ofString))].filterMap fun s => s.2.map (s.1, ·)

def programName : String := "es-export-ids"

def usageText : String := String.intercalate "\n" [
  "usage: es-export-ids [-h] [--es-url ES_URL] [--batch-size BATCH_SIZE]",
  "                     [--queue-size QUEUE_SIZE] [--output OUTPUT]",
  "                     [--log-level LOG_LEVEL]",
  ""]

def helpText : String := usageText ++ String.intercalate "\n" [
  "",
  "Export every document id of an Elasticsearch collection",
  "",
  "options:",
  "  -h, --help            show this help message and exit",
  "  --es-url ES_URL       Collection url, e.g.",
  "                        http://localhost:9200/my_collection (env: ES_URL)",
  "  --batch-size BATCH_SIZE",
  "                        Ids per scroll page (env: BATCH_SIZE)",
  "  --queue-size QUEUE_SIZE",
  "                        Capacity of the id batch queue (env: QUEUE_SIZE)",
  "  --output OUTPUT       File to write ids to (default: stdout)",
  "  --log-level LOG_LEVEL",
  "                        Logging level",
  ""]

end CommandLine

end SearchBridge
