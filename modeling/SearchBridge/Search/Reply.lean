import SearchBridge.Fault
import SearchBridge.Json.Scalar
import SearchBridge.Text.Blank
/-!
Reading the replies to search and facet requests. A reply that lacks a required container is at
fault; timings, totals and counts that cannot be read are absent.
-/

namespace SearchBridge

/-- The member that holds the id of a hit or a document. -/
def idField : String := "_id"

/-- The total of a reply's `hits`: a number, or an object whose `value` is one. -/
def totalOf (hits : Json) : Option Int :=
  match hits.field? "total" with
  | some (.object members) => (Json.object members).wholeField? "value"
  | _ => hits.wholeField? "total"

/-- What a search reply says: how many documents match, how long the engine took, and the ids of
the hits in rank order. -/
structure SearchReply where
  totalHits : Option Int
  queryTime : Option Int
  ids : List Text
  deriving DecidableEq, Repr

namespace SearchReply

/-- The ids of hits, in order and with repetitions; hits whose id is blank are skipped. -/
def idsOf (field : Text) (hits : List Json) : List Text :=
  (hits.map (·.textField field)).filter (!Text.isBlank ·)

/-- Reads a search reply whose hits have their id in a given member. -/
def ofJson (root : Json) (field : Text) : Except ReplyFault SearchReply := do
  let hits ← root.requireObject "hits"
  match hits.find? "hits" with
  | some (.array items) =>
    pure ⟨totalOf (.object hits), root.wholeField? "took", idsOf field items⟩
  | _ => throw .noHits

end SearchReply

/-- Why a search reply is not read: it lacks a container, or its hits cannot be looked up. -/
inductive SearchFault where
  | reply (fault : ReplyFault)
  | shape (fault : ShapeFault)
  deriving DecidableEq, Repr

namespace SearchReply

/-- The hits of a reply that are objects, if it has an array of hits. -/
def objectHits (root : Json) : List Json :=
  ((((root.field? "hits").bind (·.field? "hits")).bind Json.items?).getD []).filter
    (·.members?.isSome)

/-- Reads a search reply whose hits have their id in the member that a value names. What is no text
names no member, and what holds other values cannot be looked up at all. -/
def ofLookup (root name : Json) : Except SearchFault SearchReply :=
  match name with
  | .string field => (ofJson root field).mapError .reply
  | _ => do
    let reply ← (ofJson root []).mapError .reply
    match name.container?, objectHits root with
    | some c, _ :: _ => throw (.shape (.notSetMember c))
    | _, _ => pure { reply with ids := [] }

end SearchReply

/-- The documents that match and how many of them hold each value of the facet field, in order of
the first bucket of each value. -/
structure FacetReply where
  total : Option Int
  counts : Ordered Text (Option Int)
  deriving DecidableEq, Repr

namespace FacetReply

/-- The last bucket of a value gives its count, the first one its place. -/
def countsOf (buckets : List Json) : Ordered Text (Option Int) :=
  Ordered.ofList (buckets.map fun b => (b.textField "key", b.wholeField? "doc_count"))

/-- Reads the reply to a facet request for a field. -/
def ofJson (root : Json) (field : Text) : Except ReplyFault FacetReply := do
  let aggregations ← root.requireObject "aggregations"
  match aggregations.find? field with
  | some (.object aggregation) =>
    match Ordered.find? aggregation "buckets" with
    | some (.array buckets) =>
      pure ⟨((root.field? "hits").map totalOf).getD none, countsOf buckets⟩
    | _ => throw (.noBuckets field)
  | _ => throw (.noAggregation field)

end FacetReply

end SearchBridge
