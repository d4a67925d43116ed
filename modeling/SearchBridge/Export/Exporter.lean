import SearchBridge.Export.Scroll
/-!
An exporter: a plan together with what is known of its runs.

A run opens the cursor, goes through the pages, gives the cursor up if it has a token, and marks the
end of the stream unless it was cancelled. Whatever goes wrong on the way is kept and the run still
comes to its end; only a fault of the exchange that gives the cursor up breaks it off.
-/

namespace SearchBridge

namespace Export

structure Exporter where
  plan : Plan
  started : Bool
  done : Bool
  cancelled : Bool
  idsExported : Nat
  batchesPublished : Nat
  error : Option Failure

namespace Exporter

/-- A new exporter. Pages have to have room for one id at least. -/
def create (plan : Plan) : Except Failure Exporter :=
  if plan.batchSize.isTooSmall then .error (.batchSize plan.batchSize)
  else .ok ⟨plan, false, false, false, 0, 0, none⟩

end Exporter

/-- What a run depends on and uses up. -/
structure Supply where
  answers : List Answer
  puts : List PutAction
  clock : Clock

/-- Opens the cursor and goes through the pages. -/
def openAndPage (p : Plan) (stage : Stage) (answers : List Answer) : Paging :=
  let request := p.openRequest
  let rest : Paging :=
    match answers with
    | [] =>
      .done (.failed (request.lost Http.silence)) (request.log (.unreachable Http.silence)) none
        stage []
    | answer :: answers =>
      let stage := { stage with cancelled := stage.cancelled || answer.cancels }
      match request.fetch answer.outcome with
      | .error f => .done (.failed f) (request.log answer.outcome) none stage answers
      | .ok root => pages p root none stage answers
  rest.after [.request request] []

structure Clearing where
  fault : Option Http.ExchangeFault
  log : List Log.Line
  cancelled : Bool
  answers : List Answer

/-- Gives a cursor up. Any answer will do: what is wrong with it is logged only. -/
def clear (p : Plan) (token : Text) (cancelled : Bool) (answers : List Answer) : Clearing :=
  let request := p.clearRequest token
  let warn (m : Text) : Log.Line := ⟨.warning, "Could not clear scroll: " ++ m⟩
  let outcome := (answers.head?.map (·.outcome)).getD (.unreachable Http.silence)
  let log := request.log outcome
  let cancelled := cancelled || (answers.head?.map (·.cancels)).getD false
  match request.settle outcome with
  | .error (.exchange fault) => ⟨some fault, log, cancelled, answers.tail⟩
  | .error f => ⟨none, log ++ [warn f.message], cancelled, answers.tail⟩
  | .ok reply =>
    ⟨none, if reply.status = 200 then log else log ++ [warn reply.message], cancelled,
      answers.tail⟩

/-- What a run did: the exporter after it, its events and log, what is left of the supply, and the
fault that broke it off, if one did. -/
structure Run where
  exporter : Exporter
  events : List Event
  log : List Log.Line
  supply : Supply
  fault : Option Http.ExchangeFault

def Exporter.run (x : Exporter) (supply : Supply) : Run :=
  let paging := openAndPage x.plan ⟨supply.puts, supply.clock, x.cancelled⟩ supply.answers
  let ids := x.idsExported + idCount paging.batches
  let x := { x with
    idsExported := ids
    batchesPublished := x.batchesPublished + paging.batches.length
    cancelled := paging.stage.cancelled }
  let (x, log) : Exporter × List Log.Line :=
    match paging.ending with
    | .failed f =>
      ({ x with error := some f }, paging.log ++ [⟨.error,
        "Id export failed after " ++ (Number.int ids).text ++ " ids: " ++ f.message⟩])
    | _ => (x, paging.log)
  let clearing : Clearing :=
    match paging.token with
    | none => ⟨none, [], x.cancelled, paging.answers⟩
    | some token => clear x.plan token x.cancelled paging.answers
  let cleared : List Event := paging.token.toList.map fun t => .request (x.plan.clearRequest t)
  let x := { x with cancelled := clearing.cancelled }
  let log := log ++ clearing.log
  match clearing.fault with
  | some fault =>
    ⟨x, paging.events ++ cleared, log, ⟨clearing.answers, paging.stage.puts, paging.stage.clock⟩,
      some fault⟩
  | none =>
    let closing := publish Item.endOfStream x.plan.enqueueTimeout (some x.cancelled)
      paging.stage.puts
    ⟨{ x with done := true, cancelled := closing.cancelled.getD false },
      paging.events ++ cleared ++ closing.attempts.map Event.put, log,
      ⟨clearing.answers, closing.rest, paging.stage.clock⟩, none⟩

def Exporter.stop (x : Exporter) : Exporter := { x with cancelled := true }

/-- Starts a run in the background, which comes to its end before anything else is looked at. An
exporter starts once. -/
def Exporter.start (x : Exporter) (supply : Supply) : Except Failure Run :=
  if x.started then .error .alreadyStarted else .ok ({ x with started := true }.run supply)

/-- The items that events put on the queue, in order. -/
def published (events : List Event) : List Item :=
  acceptedItems (events.filterMap fun
    | .put a => some a
    | .request _ => none)

end Export

end SearchBridge
