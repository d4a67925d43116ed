import SearchBridge.Export.Publish
import SearchBridge.Failure
import SearchBridge.IdSet
import SearchBridge.Search.Reply
/-!
Paging through a collection with a scroll cursor.

The first request opens the cursor. Each page that has ids is published as the set of its ids, and
only then the next page is asked for, with the token that this page brought. A page without ids
ends the paging, and so does any failure. Cancellation is seen before a page is read and by the
publication of its ids.
-/

namespace SearchBridge

namespace Export

/-- What goes on the queue: the ids of a page, or the mark that nothing follows. -/
inductive Item where
  | batch (ids : IdSet)
  | endOfStream
  deriving DecidableEq, Repr

/-- What an export does to its surroundings, in order. -/
inductive Event where
  | request (r : Http.Request)
  | put (a : Attempt Item)
  deriving DecidableEq, Repr

/-- What a request of an export meets; cancellation may be set while it is under way. -/
structure Answer where
  cancels : Bool
  outcome : Http.Outcome

/-- What an export depends on besides the answers: what its attempts to put meet, the clock, and
whether it has been cancelled. -/
structure Stage where
  puts : List PutAction
  clock : Clock
  cancelled : Bool

/-- Where and how to export. Both addresses end in `/`. `keepAlive` and `continuation` say how long
the cursor is kept for the first page and for the pages after it, `idField` names the member of a
hit that holds its id. -/
structure Plan where
  url : String
  engineRoot : String
  batchSize : PageSize
  keepAlive : String
  continuation : Json
  enqueueTimeout : Number
  idField : Json

namespace Plan

/-- The request that opens the cursor with a search for every document. -/
def openRequest (p : Plan) : Http.Request :=
  Http.post (p.url ++ "_search?scroll=" ++ p.keepAlive)
    (Json.object [
      ("query", .object [("match_all", .object [])]),
      ("size", .string p.batchSize.text),
      ("stored_fields", .array [])]).text
    Http.jsonType

def scrollUrl (p : Plan) : String := p.engineRoot ++ "_search/scroll"

def nextRequest (p : Plan) (token : Text) : Http.Request :=
  Http.post p.scrollUrl
    (Json.object [("scroll", p.continuation), ("scroll_id", .string token)]).text
    Http.jsonType

def clearRequest (p : Plan) (token : Text) : Http.Request :=
  Http.delete p.scrollUrl (Json.object [("scroll_id", .array [.string token])]).text

end Plan

/-- The token of a page, which has to be a text that is not blank. -/
def tokenOf (root : Json) : Except ReplyFault Text :=
  match root.field? "_scroll_id" with
  | some (.string s) => if Text.isBlank s then .error .noCursor else .ok s
  | _ => .error .noCursor

/-- What is read from a page: its token as soon as it has one, and its ids unless it is at
fault. -/
structure PageReading where
  token : Option Text
  ids : Except Failure (List Text)
  clock : Clock

/-- Reads a page. The clock is read once the token is known, and again once the ids are. -/
def readPage (p : Plan) (root : Json) (clock : Clock) : PageReading :=
  match tokenOf root with
  | .error fault => ⟨none, .error (.reply fault), clock⟩
  | .ok token =>
    match clock.read with
    | (.error fault, clock) => ⟨some token, .error (.clock fault), clock⟩
    | (.ok _, clock) =>
      match SearchReply.ofLookup root p.idField with
      | .error (.reply fault) => ⟨some token, .error (.reply fault), clock⟩
      | .error (.shape fault) => ⟨some token, .error (.shape fault), clock⟩
      | .ok reply =>
        match clock.read with
        | (.error fault, clock) => ⟨some token, .error (.clock fault), clock⟩
        | (.ok _, clock) => ⟨some token, .ok reply.ids, clock⟩

def idCount : List IdSet → Nat
  | [] => 0
  | batch :: rest => batch.size + idCount rest

inductive Ending where
  | complete
  | stopped
  | failed (f : Failure)
  deriving DecidableEq, Repr

/-- What paging did, and what it left: the last token, the stage and the answers not used. -/
structure Paging where
  events : List Event
  batches : List IdSet
  ending : Ending
  log : List Log.Line
  token : Option Text
  stage : Stage
  answers : List Answer

def Paging.done (ending : Ending) (log : List Log.Line) (token : Option Text) (stage : Stage)
    (answers : List Answer) : Paging :=
  ⟨[], [], ending, log, token, stage, answers⟩

/-- Paging with the events and batches that came before it. -/
def Paging.after (p : Paging) (events : List Event) (batches : List IdSet) : Paging :=
  { p with events := events ++ p.events, batches := batches ++ p.batches }

/-- Goes on from a page. `token` is the last one seen before it. -/
def pages (p : Plan) (root : Json) (token : Option Text) (stage : Stage)
    (answers : List Answer) : Paging :=
  if stage.cancelled then .done .stopped [] token stage answers
  else
    let page := readPage p root stage.clock
    let token := page.token.or token
    let stage := { stage with clock := page.clock }
    match page.ids with
    | .error f => .done (.failed f) [] token stage answers
    | .ok [] => .done .complete [] token stage answers
    | .ok ids =>
      let batch := IdSet.ofList ids
      let published := publish (Item.batch batch) p.enqueueTimeout (some false) stage.puts
      let puts := published.attempts.map Event.put
      let stage := { stage with
        puts := published.rest, cancelled := published.cancelled.getD false }
      if published.accepted then
        let request := p.nextRequest (token.getD [])
        let rest : Paging :=
          match answers with
          | [] =>
            .done (.failed (request.lost Http.silence)) (request.log (.unreachable Http.silence))
              token stage []
          | answer :: answers =>
            let stage := { stage with cancelled := stage.cancelled || answer.cancels }
            match request.fetch answer.outcome with
            | .error f => .done (.failed f) (request.log answer.outcome) token stage answers
            | .ok root => pages p root token stage answers
        rest.after (puts ++ [.request request]) [batch]
      else (Paging.done .stopped [] token stage answers).after puts []

end Export

end SearchBridge
