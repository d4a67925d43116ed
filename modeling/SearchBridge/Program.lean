import SearchBridge.CommandLine.Arguments
import SearchBridge.Directory
import SearchBridge.Export.Job
import SearchBridge.Settings.EnvFile
/-!
The program: it reads its arguments and settings, exports every id of the collection to a file or
to the standard output, one per line, and ends with an exit code.
-/

namespace SearchBridge

inductive Stop where
  | variable (fault : VariableFault)
  | exit (e : CommandLine.Exit)
  | settings (issues : List Issue)
  | unknownLevel (name : String)
  | output (fault : OpenFault)
  | failure (f : Failure)
  deriving DecidableEq, Repr

namespace Stop

/-- The message for a threshold of the log that has no meaning. -/
def levelMessage (name : String) : String := "Unknown level: " ++ Text.quoted name

/-- What the user is told, in lines. -/
def text : Stop → String
  | .variable fault => fault.message ++ "\n"
  | .exit .help => CommandLine.helpText
  | .exit (.fault f) =>
    CommandLine.usageText ++ CommandLine.programName ++ ": error: " ++ f.message ++ "\n"
  | .settings issues =>
    String.join (issues.map fun i => i.field ++ ": " ++ i.complaint.message ++ "\n")
  | .unknownLevel name => levelMessage name ++ "\n"
  | .output fault => fault.message ++ "\n"
  | .failure f => f.message.toDisplay ++ "\n"

def code : Stop → Nat
  | .exit .help => 0
  | .exit (.fault _) => 2
  | _ => 1

end Stop

/-- What the program finds: the environment, the file of environment variables if there is one,
what its requests will meet, and which files can be opened for writing. -/
structure Host where
  environment : List (String × String)
  envFile : Option String
  supply : Export.Supply
  opening : String → Except OpenFault Unit

/-- What the arguments and the environment ask for: the file that the ids go to, none for the
standard output, the settings of the export, and the lowest rank of log lines let through. -/
structure Task where
  output : Option String
  settings : Settings
  threshold : Nat
  deriving DecidableEq, Repr

/-- What the program did once the export began: where the output went, how long requests may take,
and the report of the export with the log lines that were let through. -/
structure ProgramReport where
  output : Option String
  timeout : Binary64
  job : Export.JobReport

namespace Host

/-- The arguments, and the settings that they and the environment give. The file of environment
variables is read before everything else. -/
def settings (h : Host) (arguments : List String) :
    Except Stop (CommandLine.Arguments × Settings) := do
  let environment ← (EnvFile.load h.environment h.envFile).mapError Stop.variable
  let given ← (CommandLine.Arguments.read arguments).mapError Stop.exit
  let settings ← (Settings.read given.settings environment).mapError Stop.settings
  pure (given, settings)

/-- The task that the arguments and the environment set. An output without a name, or with an empty
one, is none. -/
def task (h : Host) (arguments : List String) : Except Stop Task := do
  let (given, settings) ← h.settings arguments
  let threshold ←
    (Log.threshold? settings.logLevel).elim (throw (.unknownLevel settings.logLevel)) pure
  let output := (given.output.bind (·.value?)).filter (· ≠ "")
  pure ⟨output, settings, threshold⟩

/-- Exports the ids. A file takes the lines before the first one with a surrogate that stands
alone. -/
def exported (h : Host) (task : Task) : Except Failure Export.JobReport := do
  let job ← task.settings.exportIds h.supply none
  match task.output, job.lines.findIdx? (·.chars?.isNone) with
  | some _, some n =>
    pure { (← task.settings.exportIds h.supply (some n)) with ending := .unencodable }
  | _, _ => pure job

def run (h : Host) (arguments : List String) : Except Stop ProgramReport := do
  let task ← h.task arguments
  (task.output.elim (.ok ()) h.opening).mapError Stop.output
  let job ← (h.exported task).mapError Stop.failure
  let selected (a : Export.Activity) : Export.Activity :=
    { a with log := Log.select task.threshold a.log }
  pure ⟨task.output, task.settings.requestTimeout,
    { job with activity := job.activity.map selected }⟩

end Host

end SearchBridge
