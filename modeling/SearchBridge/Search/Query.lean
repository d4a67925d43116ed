import SearchBridge.Search.Request
/-!
The bodies of search and facet requests.
-/

namespace SearchBridge

inductive FacetFault where
  | noField
  deriving DecidableEq, Repr

def FacetFault.message : FacetFault → String
  | .noField => "QueryRequest has no facet_field"

namespace QueryRequest

/-- The text match of a request over the fields of its parameter `qf`, with the tie breaker of its
parameter `tie` unless that is absent or null. -/
def textMatch (q : QueryRequest) : Json :=
  let asked : Ordered Text Json := [
    ("query", .string q.query),
    ("type", .string "best_fields"),
    ("fields", (q.parameter? "qf").getD .null)]
  let tie : Ordered Text Json :=
    match q.parameter? "tie" with
    | none | some .null => []
    | some v => [("tie_breaker", v)]
  .object [("multi_match", .object (asked ++ tie))]

/-- The body of a search request. The fields to return are named only if there are any, the page
size only if it is set. -/
def searchBody (q : QueryRequest) (fields : List Json) : Json :=
  let source : Ordered Text Json := if fields.isEmpty then [] else [("_source", .array fields)]
  let size : Ordered Text Json := q.pageSize.elim [] fun n => [("size", .int n)]
  .object (("query", q.textMatch) :: (source ++ size))

/-- The name of the bucket that counts documents without a value. -/
def missingBucket : String := "null"

/-- The body of a request that counts documents per value of the facet field and returns none of
them. The text match is left out when the request asks for every document. -/
def facetBody (q : QueryRequest) : Except FacetFault Json :=
  match q.facetField with
  | none => .error .noField
  | some field =>
    if field = "" then .error .noField
    else
      let counted : Ordered Text Json := [
        ("aggregations", .object [(field, .object [("terms", .object [
          ("field", .string field),
          ("missing", .string missingBucket),
          ("min_doc_count", .string "0"),
          ("size", .string (Number.int q.facetLimit).text)])])]),
        ("size", .string "0")]
      let matched : Ordered Text Json := if q.isMatchAll then [] else [("query", q.textMatch)]
      .ok (.object (counted ++ matched))

end QueryRequest

end SearchBridge
