import SearchBridge.Schema.Coercion
import SearchBridge.Text.Blank
/-!
Query requests, independent of any engine: free text with named parameters, an optional field to
count by, and an optional page size.
-/

namespace SearchBridge

def wildcardQuery : String := "*:*"

structure QueryRequest where
  query : String
  parameters : Ordered Text Json
  facetField : Option String
  facetLimit : Int
  pageSize : Option Int
  deriving DecidableEq, Repr

namespace QueryRequest

/-- Whether the request asks for every document: its text is blank or the wildcard. -/
def isMatchAll (q : QueryRequest) : Bool := Text.isBlank q.query || q.query = wildcardQuery

def parameter? (q : QueryRequest) (name : Text) : Option Json := q.parameters.find? name

/-- Reads a request from the members of an object; every field at fault is reported. Members with
other names are ignored. -/
def ofMembers (given : Ordered Text Json) : Except (List Issue) QueryRequest :=
  let query := required Coercion.text (given.find? "query")
  let parameters := defaulted Coercion.members [] (given.find? "parameters")
  let facetField := defaulted (Coercion.nullable Coercion.text) none (given.find? "facet_field")
  let facetLimit := defaulted (Coercion.integerFrom 0) 10 (given.find? "facet_limit")
  let pageSize :=
    defaulted (Coercion.nullable (Coercion.integerFrom 0)) none (given.find? "num_results")
  match query, parameters, facetField, facetLimit, pageSize with
  | .ok query, .ok parameters, .ok facetField, .ok facetLimit, .ok pageSize =>
    .ok ⟨query, parameters, facetField, facetLimit, pageSize⟩
  | _, _, _, _, _ =>
    .error ([Issue.of? "query" query, Issue.of? "parameters" parameters,
      Issue.of? "facet_field" facetField, Issue.of? "facet_limit" facetLimit,
      Issue.of? "num_results" pageSize].filterMap id)

def toMembers (q : QueryRequest) : Ordered Text Json :=
  [("query", .string q.query), ("parameters", .object q.parameters),
   ("facet_field", q.facetField.elim .null Json.ofString), ("facet_limit", .int q.facetLimit),
   ("num_results", q.pageSize.elim .null .int)]

/-- Requests cannot be changed: assigning to a field is always an issue of that field. A name that
starts with an underscore is no field, and assigning to it changes nothing. -/
def assign (_ : QueryRequest) (field : String) : Except Issue Unit :=
  if field.toList.head? = some '_' then .ok () else .error ⟨field, .readOnly⟩

end QueryRequest

end SearchBridge
