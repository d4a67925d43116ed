import SearchBridge.Http.Recording
import SearchBridge.Program
import SearchBridge.Settings.Environment
/-!
The command line. What the requests meet is read from standard input, one recorded outcome per
line. The ids go to the output, everything else that is said to standard error.
-/

namespace SearchBridge

namespace CommandLine

/-- The lines of a stream up to its end. -/
partial def linesOf (stream : IO.FS.Stream) : IO (List String) := do
  let line ← stream.getLine
  if line.isEmpty then pure [] else pure (line :: (← linesOf stream))

def textOf? (name : String) : IO (Option String) := do
  try
    let text ← IO.FS.readFile name
    pure (some text)
  catch _ => pure none

def environment : IO (List (String × String)) := do
  try
    let block ← IO.FS.readBinFile "/proc/self/environ"
    pure (Environment.ofBlock block.toList)
  catch _ => pure []

/-- Opens a file for writing, which empties it. -/
def openOutput (name : String) : IO (Except OpenFault Unit) := do
  try
    IO.FS.writeFile name ""
    pure (.ok ())
  catch
    | .noFileOrDirectory .. => pure (.error .notFound)
    | .inappropriateType .. => pure (.error .isDirectory)
    | .invalidArgument .. => pure (.error .tooLong)
    | e => throw e

/-- Tells why the program stops. Help is no fault and goes to standard output. -/
def leave (stop : Stop) : IO UInt32 := do
  let stream ← match stop with
    | .exit .help => IO.getStdout
    | _ => IO.getStderr
  stream.putStr stop.text
  pure (UInt32.ofNat stop.code)

/-- Writes what an export did. An export that never comes to its end counts as failed. -/
def finish (report : ProgramReport) : IO UInt32 := do
  let text := (Export.linesText report.job.lines).toDisplay
  match report.output with
  | some name => IO.FS.writeFile name text
  | none => IO.print text
  report.job.activity.forM fun a => a.log.forM fun line => IO.eprintln line.render.toDisplay
  match report.job.ending with
  | .exit code => pure (UInt32.ofNat code)
  | .outputClosed | .unencodable | .stalled => pure 1

end CommandLine

end SearchBridge

open SearchBridge CommandLine

def main (arguments : List String) : IO UInt32 := do
  let host : Host :=
    ⟨← environment, ← textOf? ".env.local", ⟨[], [], Clock.start⟩, fun _ => .ok ()⟩
  match host.task arguments with
  | .error stop => leave stop
  | .ok task =>
    let opened ← task.output.elim (pure (.ok ())) openOutput
    let outcomes := Http.Outcome.ofLines (← linesOf (← IO.getStdin))
    let host := { host with
      supply := ⟨outcomes.map fun o => ⟨false, o⟩, [], Clock.start⟩
      opening := fun _ => opened }
    match host.run arguments with
    | .error stop => leave stop
    | .ok report => finish report
