import Mathlib.Data.List.Basic
import SearchBridge.Proofs.Denoted
import SearchBridge.Proofs.Taxonomy
/-!
The bodies of search and facet requests, decoded.

What a request asks for is said of a decoded body member by member, with the names that every object
in it has. Both bodies are stable if the parameters of the request are, so that decoding brings back
what was written, and nothing in a query text, a field name or a parameter changes the names.
-/

namespace SearchBridge

namespace Json

/-- The value that is reached through members of given names, one inside the other. -/
def at? (v : Json) (path : List Text) : Option Json := path.foldlM field? v

/-- At the end of a path stands an object whose members have exactly these names, in this order. -/
def HasNames (v : Json) (path : List Text) (names : List String) : Prop :=
  ∃ members, v.at? path = some (.object members) ∧
    Ordered.keys members = names.map Text.ofString

theorem read?_text (v : Json) : read? v.text = v.reread := by
  rw [← read?_write, text, Text.ofString, String.toList_ofList]

theorem Stable.read?_text {v : Json} (h : v.Stable) : read? v.text = some v :=
  (Json.read?_text v).trans h.reread

end Json

namespace QueryRequest

open Json

/-- A request that has no integer that is too long to be read, and whose parameters can be told from
their text. -/
structure Encodable (q : QueryRequest) : Prop where
  parameters : ∀ b ∈ q.parameters, b.2.Stable
  facetLimit : (Nat.toDigits 10 q.facetLimit.natAbs).length ≤ integerLimit
  pageSize : ∀ n, q.pageSize = some n → (Nat.toDigits 10 n.natAbs).length ≤ integerLimit

/-- The parameter `tie`, unless it is null. -/
def tieBreaker? (q : QueryRequest) : Option Json := (q.parameter? "tie").filter (· ≠ .null)

/-- What the decoded body of a search request is to hold, and nothing besides. -/
structure AsksSearch (q : QueryRequest) (body : Json) : Prop where
  names : body.HasNames [] ("query" :: q.pageSize.elim [] fun _ => ["size"])
  queryNames : body.HasNames ["query"] ["multi_match"]
  matchNames : body.HasNames ["query", "multi_match"]
    (["query", "type", "fields"] ++ q.tieBreaker?.elim [] fun _ => ["tie_breaker"])
  text : body.at? ["query", "multi_match", "query"] = some (.string q.query)
  type : body.at? ["query", "multi_match", "type"] = some (.string "best_fields")
  fields : body.at? ["query", "multi_match", "fields"] = some ((q.parameter? "qf").getD .null)
  tie : body.at? ["query", "multi_match", "tie_breaker"] = q.tieBreaker?
  size : body.at? ["size"] = q.pageSize.map .int

/-- What the decoded body of a facet request is to hold, and nothing besides, given the decoded body
of a search request. -/
structure AsksCounts (q : QueryRequest) (field : String) (search body : Json) : Prop where
  names : body.HasNames [] (["aggregations", "size"] ++
    if Text.isBlank q.query ∨ q.query = "*:*" then [] else ["query"])
  countedNames : body.HasNames ["aggregations"] [field]
  kindNames : body.HasNames ["aggregations", field] ["terms"]
  termNames : body.HasNames ["aggregations", field, "terms"]
    ["field", "missing", "min_doc_count", "size"]
  counted : body.at? ["aggregations", field, "terms", "field"] = some (.string field)
  query : body.at? ["query"] =
    if Text.isBlank q.query ∨ q.query = "*:*" then none else search.at? ["query"]

variable {q : QueryRequest}

/-! ### What is written -/

theorem textMatch_eq (q : QueryRequest) :
    q.textMatch = .object [("multi_match", .object
      (("query", .string q.query) :: ("type", .string "best_fields") ::
        ("fields", (q.parameter? "qf").getD .null) ::
        q.tieBreaker?.elim [] fun v => [("tie_breaker", v)]))] := by
  rw [textMatch, tieBreaker?]
  cases q.parameter? "tie" with
  | none => rfl
  | some v => cases v <;> rfl

/-- The object that says how the documents with each value of a field are counted. -/
def countedBy (q : QueryRequest) (field : String) : Json :=
  .object [(field, .object [("terms", .object [
    ("field", .string field), ("missing", .string missingBucket), ("min_doc_count", .string "0"),
    ("size", .string (Number.int q.facetLimit).text)])])]

theorem facetBody_eq {field : String} (hfield : q.facetField = some field) (hfull : field ≠ "") :
    q.facetBody = .ok (.object (("aggregations", q.countedBy field) :: ("size", .string "0") ::
      if q.isMatchAll then [] else [("query", q.textMatch)])) := by
  rw [facetBody, hfield]
  dsimp only
  rw [if_neg hfull]
  rfl

theorem isMatchAll_iff : q.isMatchAll = true ↔ Text.isBlank q.query ∨ q.query = "*:*" := by
  rw [isMatchAll, Bool.or_eq_true, decide_eq_true_eq]
  rfl

theorem asksSearch_searchBody (q : QueryRequest) : q.AsksSearch (q.searchBody []) := by
  have hbody : q.searchBody [] =
      .object (("query", q.textMatch) :: q.pageSize.elim [] fun n => [("size", .int n)]) := rfl
  rw [hbody, textMatch_eq]
  constructor
  case names => exact ⟨_, rfl, by cases q.pageSize <;> rfl⟩
  case queryNames => exact ⟨_, rfl, rfl⟩
  case matchNames => exact ⟨_, rfl, by cases q.tieBreaker? <;> rfl⟩
  case tie => cases q.tieBreaker? <;> rfl
  case size => cases q.pageSize <;> rfl
  all_goals rfl

/-- Only one name in the body of a facet request is not fixed: the one of the field. -/
theorem asksCounts_facetBody {field : String} {body : Json} (hfield : q.facetField = some field)
    (hfull : field ≠ "") (hbody : q.facetBody = .ok body) :
    q.AsksCounts field (q.searchBody []) body := by
  rw [facetBody_eq hfield hfull] at hbody
  cases hbody
  have hat : ∀ path members, (Json.object (("aggregations", q.countedBy field) :: members)).at?
      ("aggregations" :: (field : Text) :: path) =
        ((q.countedBy field).field? field).bind (·.at? path) := fun _ _ => rfl
  have hcounted : (q.countedBy field).field? field = some (.object [("terms", .object [
      ("field", .string field), ("missing", .string missingBucket), ("min_doc_count", .string "0"),
      ("size", .string (Number.int q.facetLimit).text)])]) :=
    if_pos rfl
  constructor
  case names =>
    refine ⟨_, rfl, ?_⟩
    simp only [← isMatchAll_iff]
    cases q.isMatchAll <;> rfl
  case query =>
    simp only [← isMatchAll_iff]
    cases q.isMatchAll <;> rfl
  case countedNames => exact ⟨_, rfl, rfl⟩
  case kindNames => exact ⟨_, by rw [hat, hcounted]; rfl, rfl⟩
  case termNames => exact ⟨_, by rw [hat, hcounted]; rfl, rfl⟩
  case counted =>
    rw [hat, hcounted]
    rfl

/-! ### What is read back -/

/-- An object whose names are strings is stable if they are distinct and its values are stable. -/
theorem stable_object (members : List (String × Json)) (hdistinct : (members.map (·.1)).Nodup)
    (hvalues : members.Forall fun m => m.2.Stable) :
    Stable (.object (members.map fun m => ((m.1 : Text), m.2))) := by
  refine .object (nodup_stringNames hdistinct) ?_ ?_
  · exact List.forall_mem_map.mpr fun m _ => Text.settled_ofString m.1
  · exact List.forall_mem_map.mpr (List.forall_iff_forall_mem.mp hvalues)

/-- Parameters that a text without surrogates denotes can be told from their own text. -/
theorem encodable_of_read? {ps : Text} (hplain : ps.Plain)
    (hread : read? ps = some (.object q.parameters))
    (hreal : ∀ x, read? (Text.ofChars (writeNumber (.real x))) = some (.number (.real x)))
    (hlimit : (Nat.toDigits 10 q.facetLimit.natAbs).length ≤ integerLimit)
    (hsize : ∀ n, q.pageSize = some n → (Nat.toDigits 10 n.natAbs).length ≤ integerLimit) :
    q.Encodable := by
  cases stable_of_read? hreal hplain hread with
  | object _ _ hvalues => exact ⟨hvalues, hlimit, hsize⟩

theorem Encodable.parameter (h : q.Encodable) {name : Text} {v : Json}
    (hv : q.parameter? name = some v) : v.Stable :=
  h.parameters _ (Ordered.mem_of_find? hv)

theorem Encodable.textMatch (h : q.Encodable) : q.textMatch.Stable := by
  have htext := stable_ofString q.query
  have htype := stable_ofString "best_fields"
  have hfields : ((q.parameter? "qf").getD .null).Stable := by
    cases hqf : q.parameter? "qf" with
    | none => exact .null
    | some v => exact h.parameter hqf
  rw [textMatch_eq]
  refine stable_object [("multi_match", _)] (by simp) ?_
  cases htie : q.tieBreaker? with
  | none =>
      exact stable_object [("query", _), ("type", _), ("fields", _)] (by simp)
        ⟨htext, htype, hfields⟩
  | some v =>
      have hbreaker : v.Stable := h.parameter (Option.filter_eq_some_iff.mp htie).1
      exact stable_object [("query", _), ("type", _), ("fields", _), ("tie_breaker", _)] (by simp)
        ⟨htext, htype, hfields, hbreaker⟩

theorem Encodable.searchBody (h : q.Encodable) : (q.searchBody []).Stable := by
  have hquery := h.textMatch
  change Stable (.object (("query", q.textMatch) :: q.pageSize.elim [] fun n => [("size", .int n)]))
  cases hsize : q.pageSize with
  | none => exact stable_object [("query", _)] (by simp) hquery
  | some n =>
      have hshort : (Json.int n).Stable := .int (h.pageSize n hsize)
      exact stable_object [("query", _), ("size", _)] (by simp) ⟨hquery, hshort⟩

theorem stable_countedBy (q : QueryRequest) (field : String) : (q.countedBy field).Stable := by
  have hterms := stable_object [("field", .string field), ("missing", .string missingBucket),
    ("min_doc_count", .string "0"), ("size", .string (Number.int q.facetLimit).text)] (by simp)
    ⟨stable_ofString _, stable_ofString _, stable_ofString _, stable_ofString _⟩
  exact stable_object [(field, _)] (by simp) (stable_object [("terms", _)] (by simp) hterms)

theorem Encodable.facetBody {field : String} {body : Json} (h : q.Encodable)
    (hfield : q.facetField = some field) (hfull : field ≠ "") (hbody : q.facetBody = .ok body) :
    body.Stable := by
  have hcounted := q.stable_countedBy field
  have hsize := stable_ofString "0"
  rw [facetBody_eq hfield hfull] at hbody
  cases hbody
  cases q.isMatchAll with
  | true =>
      exact stable_object [("aggregations", _), ("size", _)] (by simp) ⟨hcounted, hsize⟩
  | false =>
      exact stable_object [("aggregations", _), ("size", _), ("query", _)] (by simp)
        ⟨hcounted, hsize, h.textMatch⟩

end QueryRequest

namespace Client

/-! ### What is sent -/

def ask (c : Client) (body : String) : Http.Request :=
  Http.post (c.connection.url ++ "_search") body Http.jsonType

/-- A search sends its body and nothing else, whatever becomes of it. -/
theorem search_sent (c : Client) (q : QueryRequest) {s : Session} {start : Int}
    (hclock : s.clock.current = .ok start) :
    ((c.search q).run.run s).2.sent = s.sent ++ [c.ask (q.searchBody []).text] := by
  have hstart : s.clock.read = (.ok start, s.clock.read.2) := Prod.ext hclock rfl
  rw [search, Op.run_bind, Op.run_now hstart]
  dsimp only
  rw [Op.run_bind, Op.run_post]
  -- what comes after the request sends nothing more
  cases (Http.Request.fetch _ _) with
  | error failure => rfl
  | ok root =>
      dsimp only
      rw [Op.run_bind, Op.run_lift]
      cases SearchReply.ofJson root idField with
      | error fault => rfl
      | ok reply =>
          simp only [mapError_ok]
          rw [Op.run_bind, Op.run_clock]
          cases (Clock.read _).1 <;> rfl

/-- Counting sends its body and reads the value that is brought. -/
theorem facet_run (c : Client) {q : QueryRequest} {field : String} {body : Json}
    (hfield : q.facetField = some field) (hbody : q.facetBody = .ok body) (s : Session) :
    (c.facet q).run.run s =
      ((c.ask body.text).fetch s.next >>= fun root =>
        (FacetReply.ofJson root field).mapError .reply, s.after (c.ask body.text)) := by
  rw [facet, Op.run_bind, Op.run_lift, hbody, hfield]
  dsimp only [mapError_ok]
  rw [Op.run_bind, Op.run_post, ask]
  cases (Http.Request.fetch _ _) <;> rfl

/-- The bodies that are sent to search and to count decode to objects that hold what the request
asks for and nothing else: the text match with the parameters as they are, the page size if there is
one, and in the body of a count the same text match unless every document is asked for. -/
theorem bodies_decode_as_asked (c : Client) {q : QueryRequest} (hq : q.Encodable) {s : Session}
    {start : Int} (hclock : s.clock.current = .ok start) :
    ∃ body decoded, ((c.search q).run.run s).2.sent = s.sent ++ [c.ask body] ∧
      Json.read? body = some decoded ∧ q.AsksSearch decoded ∧
      ∀ field : String, q.facetField = some field → field ≠ "" → ∀ s' : Session,
        ∃ body' decoded', ((c.facet q).run.run s').2.sent = s'.sent ++ [c.ask body'] ∧
          Json.read? body' = some decoded' ∧ q.AsksCounts field decoded decoded' := by
  refine ⟨_, _, c.search_sent q hclock, hq.searchBody.read?_text, q.asksSearch_searchBody,
    fun field hfield hfull s' => ?_⟩
  have hbody := q.facetBody_eq hfield hfull
  refine ⟨_, _, congrArg (·.2.sent) (c.facet_run hfield hbody s'),
    (hq.facetBody hfield hfull hbody).read?_text,
    q.asksCounts_facetBody hfield hfull hbody⟩

/-- A request whose text has quotes in it, with fields, a tie breaker and an empty page. -/
def quotedQuery : QueryRequest :=
  ⟨"say \"\u00e9\"", [("qf", .array [.string "title^2"]),
    ("tie", .number (.real (.ofDecimal false 1 (-1))))], some "colour", 10, some 0⟩

theorem quotedQuery_asked :
    quotedQuery.Encodable ∧ Clock.start.current = .ok 0 ∧
      ∃ body decoded,
        ((Call.sampleClient.search quotedQuery).run.run ⟨[], .start, [], false⟩).2.sent =
          [Call.sampleClient.ask body] ∧
        Json.read? body = some decoded ∧ quotedQuery.AsksSearch decoded ∧
        ∃ body' decoded',
          ((Call.sampleClient.facet quotedQuery).run.run ⟨[], .start, [], false⟩).2.sent =
            [Call.sampleClient.ask body'] ∧
          Json.read? body' = some decoded' ∧ quotedQuery.AsksCounts "colour" decoded decoded' := by
  have htie : Json.read? (Text.ofChars (Json.writeNumber (.real (.ofDecimal false 1 (-1))))) =
      some (.number (.real (.ofDecimal false 1 (-1)))) := by
    decide +kernel
  have hencodable : quotedQuery.Encodable := by
    refine ⟨?_, by decide, fun n hn => ?_⟩
    · simp only [quotedQuery, List.forall_mem_cons, List.not_mem_nil, false_implies, implies_true,
        and_true]
      exact ⟨.array (List.forall_mem_singleton.mpr (Json.stable_ofString _)), .real htie⟩
    · cases hn
      decide
  obtain ⟨body, decoded, hsent, hread, hasks, hfacet⟩ :=
    Call.sampleClient.bodies_decode_as_asked hencodable (s := ⟨[], .start, [], false⟩) rfl
  obtain ⟨body', decoded', hsent', hread', hasks'⟩ :=
    hfacet "colour" rfl (by decide) ⟨[], .start, [], false⟩
  exact ⟨hencodable, rfl, body, decoded, hsent, hread, hasks, body', decoded', hsent', hread',
    hasks'⟩

end Client

end SearchBridge
