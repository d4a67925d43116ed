import SearchBridge.Document.Fetch
import SearchBridge.Export.Exporter
import SearchBridge.Json.Collect
/-!
A client of one collection.

Its operations run in a session, which holds what the requests to come will meet, the clock and the
requests sent so far. Each of them sends one request, apart from those that need none and from
loading ids, which pages through the collection.
-/

namespace SearchBridge

structure Client where
  connection : Connection
  keepAlive : String
  continuation : Json
  enqueueTimeout : Number

/-- What the operations of a client depend on and leave behind. -/
structure Session where
  outcomes : List Http.Outcome
  clock : Clock
  sent : List Http.Request
  closed : Bool

/-- An operation in a session: it may fail, and it leaves the session changed either way. -/
abbrev Op (α : Type) := ExceptT Failure (StateM Session) α

namespace Op

def exchange (r : Http.Request) : Op Http.Reply := fun s =>
  let outcome := s.outcomes.headD (.unreachable Http.silence)
  (r.settle outcome, { s with outcomes := s.outcomes.tail, sent := s.sent ++ [r] })

def now : Op Int := fun s =>
  let (t, clock) := s.clock.read
  (t.mapError Failure.clock, { s with clock := clock })

def lift {ε α : Type} (wrap : ε → Failure) (e : Except ε α) : Op α :=
  ExceptT.mk (pure (e.mapError wrap))

end Op

/-- The result of a search: what the reply says, and how long the whole round trip took. -/
structure SearchResult where
  reply : SearchReply
  elapsed : Int
  deriving DecidableEq, Repr

namespace Client

/-- Posts a body and requires status 200. -/
def post (url body : String) (contentType : String) : Op Json := do
  Op.lift id (← Op.exchange (Http.post url body contentType)).accepted

/-- Runs a search and reports the ranked ids. -/
def search (c : Client) (q : QueryRequest) : Op SearchResult := do
  let start ← Op.now
  let root ← post (c.connection.url ++ "_search") (q.searchBody []).text Http.jsonType
  let reply ← Op.lift .reply (SearchReply.ofJson root idField)
  pure ⟨reply, (← Op.now) - start⟩

/-- Counts documents per value of the facet field, those without a value included. -/
def facet (c : Client) (q : QueryRequest) : Op FacetReply := do
  let body ← Op.lift .facet q.facetBody
  let root ← post (c.connection.url ++ "_search") body.text Http.jsonType
  Op.lift .reply (FacetReply.ofJson root (q.facetField.getD ""))

/-- Indexes documents. Nothing is sent if there are none or if one of them has no id. -/
def index (c : Client) (ds : List StoredDocument) : Op Unit := do
  if ds.isEmpty then pure ()
  else
    let body ← Op.lift .unidentified (StoredDocument.bulkBody ds)
    let root ← post (c.connection.url ++ "_bulk") body Http.linesType
    Op.lift (fun
      | .rejected cause => Failure.bulk cause
      | .shape fault => Failure.shape fault) (BulkReply.check root)

/-- Fetches documents by id. With fields named only those are sent back; denied fields are left
out of the documents. -/
def documents (c : Client) (ids : List Json) (fields : List String) (denied : List Text) :
    Op (List StoredDocument) := do
  let url := c.connection.url ++ "_doc/_mget" ++ Fetch.sourceFilter fields
  let root ← post url (Fetch.body ids).text Http.jsonType
  Op.lift .reply (Fetch.documents root denied)

/-- The name under which mappings hold the destinations of copied fields. -/
def copyDirective : String := "copy_to"

/-- The destinations of copied fields in the template of a collection. -/
def copyTargets (collection : String) (root : Json) : IdSet :=
  match (root.field? collection).bind (·.field? "mappings") with
  | some (.object members) => (Json.object members).collect copyDirective
  | _ => IdSet.ofList []

/-- The destinations of copied fields. A collection without a template has none. -/
def copyFields (c : Client) : Op IdSet := do
  let url := c.connection.engineRoot ++ "_template/" ++ c.connection.collection
  let reply ← Op.exchange (Http.get url)
  if reply.status = 404 then pure (IdSet.ofList [])
  else pure (copyTargets c.connection.collection (← Op.lift id reply.accepted))

def deleteAll (c : Client) : Op Unit := do
  let body := Json.object [("query", .object [("match_all", .object [])])]
  discard (post (c.connection.url ++ "_delete_by_query") body.text Http.jsonType)

/-- How an export of this client goes about, with pages of a given size. -/
def plan (c : Client) (batchSize : Export.PageSize) : Export.Plan where
  url := c.connection.url
  engineRoot := c.connection.engineRoot
  batchSize := batchSize
  keepAlive := c.keepAlive
  continuation := c.continuation
  enqueueTimeout := c.enqueueTimeout
  idField := .ofString idField

/-- Exports the ids of the collection onto a queue without bound, and waits for the end. -/
def loadIds (c : Client) (batchSize : Export.PageSize) : Op Export.Run := do
  let exporter ← Op.lift id (Export.Exporter.create (c.plan batchSize))
  let s ← get
  let supply : Export.Supply := ⟨s.outcomes.map (⟨false, ·⟩), [], s.clock⟩
  let run ← Op.lift id (exporter.start supply)
  let requests := run.events.filterMap fun
    | .request r => some r
    | .put _ => none
  set { s with
    outcomes := run.supply.answers.map Export.Answer.outcome
    clock := run.supply.clock
    sent := s.sent ++ requests }
  pure run

def close : Op Unit := modify fun s => { s with closed := true }

end Client

end SearchBridge
