import SearchBridge.Export.Exporter
/-!
An exporter in use: operations are asked of it one after the other, in any order and as often as one
likes, and each finds what the ones before it left.
-/

namespace SearchBridge

namespace Export

/-- What is asked of an exporter. A wait joins a run in the background, and a poll does so without
waiting; as such a run comes to its end before anything else is looked at, both find the same. -/
inductive Operation where
  | run
  | start
  | stop
  | wait
  | poll
  deriving DecidableEq, Repr

/-- What an operation returns: nothing, whether the export is done, or a failure. -/
inductive Operation.Result where
  | nothing
  | ended (done : Bool)
  | failed (f : Failure)
  deriving DecidableEq, Repr

/-- An exporter in use, its runs so far, and the supply of the runs to come. -/
structure Usage where
  exporter : Exporter
  supply : Supply
  runs : List Run

namespace Usage

def fresh (x : Exporter) (supply : Supply) : Usage := ⟨x, supply, []⟩

def add (u : Usage) (r : Run) : Usage := ⟨r.exporter, r.supply, u.runs ++ [r]⟩

/-- An operation. A run that is broken off fails, unless it is in the background. -/
def perform (u : Usage) : Operation → Operation.Result × Usage
  | .run =>
    let r := u.exporter.run u.supply
    (r.fault.elim .nothing fun fault => .failed (.exchange fault), u.add r)
  | .start =>
    match u.exporter.start u.supply with
    | .error f => (.failed f, u)
    | .ok r => (.nothing, u.add r)
  | .stop => (.nothing, { u with exporter := u.exporter.stop })
  | .wait | .poll => (.ended u.exporter.done, u)

def after (u : Usage) (operations : List Operation) : Usage :=
  operations.foldl (fun u o => (u.perform o).2) u

def events (u : Usage) : List Event := u.runs.flatMap (·.events)

def log (u : Usage) : List Log.Line := u.runs.flatMap (·.log)

end Usage

end Export

end SearchBridge
