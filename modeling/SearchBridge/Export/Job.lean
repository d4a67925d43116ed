import SearchBridge.Client
import SearchBridge.Export.Drain
import SearchBridge.Settings.Basic
/-!
The whole job: exporting every id of a collection to a text.

The exporter and the drain work side by side over a bounded queue. What the job leaves does not
depend on how they take turns, so it is described as the run of the exporter followed by the drain
of everything the run put on the queue.
-/

namespace SearchBridge

namespace Export

/-- How a job ends: with an exit code, with the failure of a write, because the output is closed or
cannot hold the text, or not at all, because the drain waits for an end that never comes. -/
inductive JobEnd where
  | exit (code : Nat)
  | outputClosed
  | unencodable
  | stalled
  deriving DecidableEq, Repr

/-- What the exporter of a job did, and what was logged of the job. -/
structure Activity where
  events : List Event
  log : List Log.Line

/-- What a job did. The activity is left out if the job stopped its exporter, since it depends on
how far the exporter had come by then. -/
structure JobReport where
  lines : List Text
  ending : JobEnd
  activity : Option Activity

/-- Whether the client is closed. It is as soon as the drain has come to an end, however it did, and
the exporter was waited for. -/
def JobReport.closed (r : JobReport) : Bool := r.ending ≠ .stalled

def takes {ε : Type} (items : List Item) : List (Take ε) :=
  items.map fun
    | .batch ids => ⟨false, false, .batch ids⟩
    | .endOfStream => ⟨false, false, .endOfStream⟩

/-- What is reported of a run and of the drain of its queue. The output takes `writable` lines at
most, any number if that is absent. -/
def conclude (run : Run) (drained : Drained Unit) (writable : Option Nat) : JobReport :=
  match writable.filter (· < drained.lines.length) with
  | some n => ⟨drained.lines.take n, .outputClosed, none⟩
  | none =>
    let report (ending : JobEnd) (more : List Log.Line) : JobReport :=
      ⟨drained.lines, ending, some ⟨run.events, run.log ++ more⟩⟩
    match drained.failure, run.exporter.error with
    | some (), _ => report .stalled []
    | none, none => report (.exit 0) []
    | none, some f =>
      report (.exit 1) [⟨.error,
        "Export failed after " ++ (Number.int drained.written).text ++ " ids: " ++ f.message⟩]

def job (x : Exporter) (supply : Supply) (writable : Option Nat) : JobReport :=
  let run := x.run supply
  conclude run (drain () false false (takes (published run.events))) writable

end Export

namespace Settings

def client (s : Settings) : Except Failure Client :=
  ((Connection.parse s.url).mapError Failure.connection).map fun c =>
    ⟨c, s.keepAlive, .ofString s.continuation, .real s.enqueueTimeout⟩

/-- A new exporter of the collection that the settings describe. -/
def exporter (s : Settings) : Except Failure Export.Exporter := do
  let client ← s.client
  Export.Exporter.create (client.plan (.number (.int s.batchSize)))

def exportIds (s : Settings) (supply : Export.Supply) (writable : Option Nat) :
    Except Failure Export.JobReport := do
  pure (Export.job (← s.exporter) supply writable)

end Settings

end SearchBridge
