import SearchBridge.Client
import SearchBridge.Proofs.Cursor
/-!
What the operations of a client that send one request make of what that request meets.

An engine that cannot be reached, a status other than 200, and a value that lacks a container the
operation needs are told apart; everything else is a result. This is so exactly if a reply can be
made of what answers. A response whose text is in a character set that cannot be decoded is none,
and then the failure is the one of the decoding, whatever the status says.
-/

namespace SearchBridge

namespace Http

/-- The message of a response with another status than 200: its text, or else its reason phrase. -/
def Response.refusal (r : Response) (text : Text) : Text :=
  if text.isEmpty then (r.reason : Text) else text

theorem Response.message_of_toReply {r : Response} {reply : Reply}
    (h : r.toReply = .ok reply) (hstatus : r.status ≠ 200) :
    ∃ text, r.text = .ok text ∧ reply.message = r.refusal text := by
  simp only [Response.toReply, Response.message, if_neg hstatus, bind, Except.bind] at h
  split at h
  · cases h
  split at h
  · cases h
  next message hmessage =>
  cases h
  cases htext : r.text with
  | error fault =>
      rw [htext] at hmessage
      cases hmessage
  | ok text =>
      rw [htext] at hmessage
      exact ⟨text, rfl, (Except.ok.inj hmessage).symm⟩

/-- Every request returns the reply that is made of the response to it. -/
theorem Request.settle_of_toReply {r : Response} {reply : Reply} (h : r.toReply = .ok reply)
    {q : Request} : q.settle (.response r) = .ok reply := by
  rw [Request.settle, h]
  rfl

/-- No answer at all, or a response of which a reply can be made: its body is no JSON text that is
nested too deeply, and its text can be decoded if it is needed. -/
def Outcome.Readable : Outcome → Prop
  | .response r =>
    (∃ root, r.json = .ok root) ∧ (r.status ≠ 200 → ∃ text, r.text = .ok text)
  | .unreachable _ => True
  | .fault _ => False

theorem Outcome.readable_iff_regular {o : Outcome} : o.Readable ↔ o.Regular := by
  cases o with
  | response r =>
      constructor
      · rintro ⟨⟨root, hjson⟩, htext⟩
        obtain ⟨message, hmessage⟩ : ∃ message, r.message = .ok message := by
          unfold Response.message
          split
          · exact ⟨_, rfl⟩
          · next hstatus =>
            obtain ⟨text, htext⟩ := htext hstatus
            rw [htext]
            exact ⟨_, rfl⟩
        refine ⟨⟨r.status, message, root⟩, ?_⟩
        simp only [Response.toReply, hjson, hmessage, bind, Except.bind]
        rfl
      · rintro ⟨reply, hreply⟩
        refine ⟨⟨reply.json, (Response.json_of_toReply hreply).2⟩, fun hstatus => ?_⟩
        obtain ⟨text, htext, -⟩ := Response.message_of_toReply hreply hstatus
        exact ⟨text, htext⟩
  | unreachable reason => exact Iff.rfl
  | fault fault => exact Iff.rfl

end Http

/-- The operations that send one request and wait for the answer. -/
inductive Call where
  | search (q : QueryRequest)
  | facet (q : QueryRequest)
  | documents (ids : List Json) (fields : List String) (denied : List Text)
  | copyFields
  | deleteAll

namespace Call

abbrev Result : Call → Type
  | .search _ => SearchResult
  | .facet _ => FacetReply
  | .documents _ _ _ => List StoredDocument
  | .copyFields => IdSet
  | .deleteAll => Unit

def perform (c : Client) : (call : Call) → Op call.Result
  | .search q => c.search q
  | .facet q => c.facet q
  | .documents ids fields denied => c.documents ids fields denied
  | .copyFields => c.copyFields
  | .deleteAll => c.deleteAll

/-- A facet call has to name the field whose values are counted. -/
def Proper : Call → Prop
  | .facet q => ∃ field, q.facetField = some field ∧ field ≠ ""
  | _ => True

/-- What the value of a reply has to hold and does not. -/
inductive Lacks : Call → Json → ReplyFault → Prop where
  | hits {q : QueryRequest} {root : Json}
      (h : ∀ hits, root.field? "hits" ≠ some (.object hits)) :
      Lacks (.search q) root (.noObject "hits")
  | hitList {q : QueryRequest} {root : Json} {hits : Ordered Text Json}
      (h : root.field? "hits" = some (.object hits))
      (hlist : ∀ items, hits.find? "hits" ≠ some (.array items)) :
      Lacks (.search q) root .noHits
  | aggregations {q : QueryRequest} {root : Json}
      (h : ∀ counted, root.field? "aggregations" ≠ some (.object counted)) :
      Lacks (.facet q) root (.noObject "aggregations")
  | aggregation {q : QueryRequest} {root : Json} {field : String} {counted : Ordered Text Json}
      (hfield : q.facetField = some field)
      (h : root.field? "aggregations" = some (.object counted))
      (hname : ∀ found, counted.find? field ≠ some (.object found)) :
      Lacks (.facet q) root (.noAggregation field)
  | buckets {q : QueryRequest} {root : Json} {field : String} {counted found : Ordered Text Json}
      (hfield : q.facetField = some field)
      (h : root.field? "aggregations" = some (.object counted))
      (hname : counted.find? field = some (.object found))
      (hlist : ∀ items, found.find? "buckets" ≠ some (.array items)) :
      Lacks (.facet q) root (.noBuckets field)
  | docs {ids : List Json} {fields : List String} {denied : List Text} {root : Json}
      (h : ∀ items, root.field? "docs" ≠ some (.array items)) :
      Lacks (.documents ids fields denied) root .noDocuments

/-- What stands for a collection without a template, where that is no failure. -/
def untemplated? : (call : Call) → Option call.Result
  | .copyFields => some (IdSet.ofList [])
  | _ => none

/-- What becomes of a call whose request meets an outcome. -/
inductive Settles (r : Http.Request) (call : Call) :
    Http.Outcome → Except Failure call.Result → Prop where
  /-- Nothing answers. -/
  | unreachable (reason : String) :
      Settles r call (.unreachable reason) (.error (.unreachable r.method r.url reason))
  /-- The engine answers with another status than 200. -/
  | refused {response : Http.Response} {text : Text} (hstatus : response.status ≠ 200)
      (htext : response.text = .ok text)
      (hknown : response.status = 404 → call.untemplated? = none) :
      Settles r call (.response response)
        (.error (.refused response.status (response.refusal text)))
  /-- There is no template to look at. -/
  | untemplated {response : Http.Response} {result : call.Result} (hstatus : response.status = 404)
      (hknown : call.untemplated? = some result) : Settles r call (.response response) (.ok result)
  /-- The value of the body lacks a container. A body that is no JSON text counts as null. -/
  | lacking {response : Http.Response} {root : Json} {fault : ReplyFault}
      (hstatus : response.status = 200) (hjson : response.json = .ok root)
      (hlacks : call.Lacks root fault) :
      Settles r call (.response response) (.error (.reply fault))
  /-- The value of the body lacks nothing. -/
  | complete {response : Http.Response} {root : Json} {result : call.Result}
      (hstatus : response.status = 200) (hjson : response.json = .ok root)
      (hwhole : ∀ fault, ¬call.Lacks root fault) :
      Settles r call (.response response) (.ok result)

end Call

/-- What the next request of a session meets. -/
def Session.next (s : Session) : Http.Outcome := s.outcomes.headD (.unreachable Http.silence)

/-! ### Containers -/

theorem Json.requireObject_cases (root : Json) (name : String) :
    (∃ members, root.field? name = some (.object members) ∧
        root.requireObject name = .ok members) ∨
      (∀ members, root.field? name ≠ some (.object members)) ∧
        root.requireObject name = .error (.noObject name) := by
  unfold Json.requireObject
  cases root.field? name with
  | none => exact Or.inr ⟨by simp, rfl⟩
  | some v =>
      cases v with
      | object members => exact Or.inl ⟨members, rfl, rfl⟩
      | _ => exact Or.inr ⟨by simp, rfl⟩

namespace Call

/-- A reading of the value of a reply fails exactly with what the value lacks. -/
def Reads (call : Call) (root : Json) {α : Type} : Except ReplyFault α → Prop
  | .ok _ => ∀ fault, ¬call.Lacks root fault
  | .error fault => call.Lacks root fault

theorem Reads.map {call : Call} {root : Json} {α β : Type} {read : Except ReplyFault α}
    (h : call.Reads root read) (f : α → β) : call.Reads root (read.map f) := by
  cases read with
  | ok _ => exact h
  | error _ => exact h

theorem search_reads (q : QueryRequest) (root : Json) :
    (Call.search q).Reads root (SearchReply.ofJson root idField) := by
  rcases root.requireObject_cases "hits" with ⟨hits, hroot, hrequire⟩ | ⟨hroot, hrequire⟩
  · simp only [SearchReply.ofJson, hrequire, bind, Except.bind]
    split
    · next items hitems =>
      intro fault hlacks
      cases hlacks with
      | hits hnone => exact hnone _ hroot
      | hitList hobject hlist =>
          rw [hroot] at hobject
          cases hobject
          exact hlist _ hitems
    · next hlist => exact .hitList hroot fun items hitems => hlist items hitems
  · simp only [SearchReply.ofJson, hrequire, bind, Except.bind]
    exact .hits hroot

theorem facet_reads {q : QueryRequest} {field : String} (hfield : q.facetField = some field)
    (root : Json) : (Call.facet q).Reads root (FacetReply.ofJson root field) := by
  rcases root.requireObject_cases "aggregations" with ⟨counted, hroot, hrequire⟩ |
    ⟨hroot, hrequire⟩
  · simp only [FacetReply.ofJson, hrequire, bind, Except.bind]
    split
    · next found hfound =>
      split
      · next items hitems =>
        intro fault hlacks
        cases hlacks with
        | aggregations hnone => exact hnone _ hroot
        | aggregation hname hobject hnone =>
            rw [hfield] at hname
            cases hname
            rw [hroot] at hobject
            cases hobject
            exact hnone _ hfound
        | buckets hname hobject hinner hlist =>
            rw [hfield] at hname
            cases hname
            rw [hroot] at hobject
            cases hobject
            rw [hfound] at hinner
            cases hinner
            exact hlist _ hitems
      · next hlist => exact .buckets hfield hroot hfound fun items hitems => hlist items hitems
    · next hname => exact .aggregation hfield hroot fun found hfound => hname found hfound
  · simp only [FacetReply.ofJson, hrequire, bind, Except.bind]
    exact .aggregations hroot

theorem documents_reads (ids : List Json) (fields : List String) (denied : List Text)
    (root : Json) :
    (Call.documents ids fields denied).Reads root (Fetch.documents root denied) := by
  cases hdocs : (root.field? "docs").bind Json.items? with
  | none =>
      have hitems : Fetch.items root = .error .noDocuments := by rw [Fetch.items, hdocs]; rfl
      simp only [Fetch.documents, hitems, bind, Except.bind]
      refine .docs fun items hroot => ?_
      rw [hroot] at hdocs
      cases hdocs
  | some items =>
      have hitems : Fetch.items root = .ok items := by rw [Fetch.items, hdocs]; rfl
      simp only [Fetch.documents, hitems, bind, Except.bind]
      intro fault hlacks
      cases hlacks with
      | docs hnone =>
          obtain ⟨v, hroot, hv⟩ := Option.bind_eq_some_iff.mp hdocs
          cases v with
          | array found => exact hnone _ hroot
          | _ => cases hv

/-! ### Replies -/

variable {call : Call} {r : Http.Request} {o : Http.Outcome}

/-- What a call makes of a reply, given how it reads the value of one. -/
def conclude (call : Call) (read : Json → Except ReplyFault call.Result) (reply : Http.Reply) :
    Except Failure call.Result :=
  match call.untemplated?, decide (reply.status = 404) with
  | some result, true => .ok result
  | _, _ => reply.accepted >>= fun root => (read root).mapError .reply

/-- A call settles by every reply that can be made of a response. -/
theorem settles_conclude {read : Json → Except ReplyFault call.Result}
    (hreads : ∀ root, call.Reads root (read root)) {response : Http.Response} {reply : Http.Reply}
    (hreply : response.toReply = .ok reply) :
    call.Settles r (.response response) (call.conclude read reply) := by
  obtain ⟨hstatus, hjson⟩ := Http.Response.json_of_toReply hreply
  unfold conclude
  split
  · next result missing hknown hmissing =>
    exact .untemplated (hstatus.symm.trans (of_decide_eq_true hmissing)) hknown
  · next hother =>
    by_cases hok : reply.status = 200
    · have hread := hreads reply.json
      simp only [Http.Reply.accepted, if_pos hok, bind, Except.bind]
      cases hvalue : read reply.json with
      | error fault =>
          rw [hvalue] at hread
          exact .lacking (hstatus.symm.trans hok) hjson hread
      | ok result =>
          rw [hvalue] at hread
          exact .complete (hstatus.symm.trans hok) hjson hread
    · have hrefused : response.status ≠ 200 := hstatus ▸ hok
      obtain ⟨text, htext, hmessage⟩ := Http.Response.message_of_toReply hreply hrefused
      simp only [Http.Reply.accepted, if_neg hok, bind, Except.bind]
      rw [hstatus, hmessage]
      refine .refused hrefused htext fun hmissing => ?_
      cases hknown : call.untemplated? with
      | none => rfl
      | some result =>
          exact absurd (decide_eq_true (hstatus.trans hmissing)) (hother result hknown)

/-- A failure of the exchange is none that a call settles by. -/
theorem Settles.not_exchange {fault : Http.ExchangeFault} :
    ¬call.Settles r o (.error (.exchange fault)) := by
  intro h
  cases h

/-- What a call makes of an outcome settles it exactly if a reply can be made of the outcome, and
is a failure of the exchange otherwise. -/
theorem settles_iff {read : Json → Except ReplyFault call.Result}
    (hreads : ∀ root, call.Reads root (read root)) :
    (call.Settles r o (r.settle o >>= call.conclude read) ↔ o.Regular) ∧
      (¬o.Regular →
        ∃ fault, r.settle o >>= call.conclude read = .error (.exchange fault)) := by
  by_cases hregular : o.Regular
  · refine ⟨iff_of_true ?_ hregular, fun h => absurd hregular h⟩
    cases o with
    | response response =>
        obtain ⟨reply, hreply⟩ := hregular
        rw [Http.Request.settle_of_toReply hreply]
        exact settles_conclude hreads hreply
    | unreachable reason => exact .unreachable reason
    | fault fault => cases hregular
  · have hfailed : ∃ fault, r.settle o = .error (.exchange fault) := by
      refine Classical.byContradiction fun hnone => hregular ?_
      exact Http.Request.settle_regular_iff.mp fun fault hfault => hnone ⟨fault, hfault⟩
    obtain ⟨fault, hfault⟩ := hfailed
    have hresult : r.settle o >>= call.conclude read = .error (.exchange fault) := by
      rw [hfault]
      rfl
    rw [hresult]
    exact ⟨iff_of_false Settles.not_exchange hregular, fun _ => ⟨fault, rfl⟩⟩

end Call

/-! ### Operations -/

def Session.after (s : Session) (r : Http.Request) : Session :=
  { s with outcomes := s.outcomes.tail, sent := s.sent ++ [r] }

namespace Op

variable {α β ε : Type}

theorem run_bind (x : Op α) (f : α → Op β) (s : Session) :
    (x >>= f).run.run s =
      match x.run.run s with
      | (.ok a, s') => (f a).run.run s'
      | (.error failure, s') => (.error failure, s') := by
  unfold ExceptT.run StateT.run
  simp only [bind, ExceptT.bind, ExceptT.mk, StateT.bind, ExceptT.bindCont]
  cases x s with
  | mk result s' => cases result <;> rfl

theorem run_exchange (r : Http.Request) (s : Session) :
    (Op.exchange r).run.run s = (r.settle s.next, s.after r) := rfl

theorem run_lift (wrap : ε → Failure) (e : Except ε α) (s : Session) :
    (Op.lift wrap e).run.run s = (e.mapError wrap, s) := rfl

theorem run_clock (s : Session) : Op.now.run.run s =
    (s.clock.read.1.mapError Failure.clock, { s with clock := s.clock.read.2 }) := rfl

theorem run_now {s : Session} {t : Int} {clock : Clock} (h : s.clock.read = (.ok t, clock)) :
    Op.now.run.run s = (.ok t, { s with clock := clock }) := by
  rw [run_clock, h]
  rfl

theorem run_post (url body contentType : String) (s : Session) :
    (Client.post url body contentType).run.run s =
      ((Http.post url body contentType).fetch s.next,
        s.after (Http.post url body contentType)) := by
  rw [Client.post, run_bind, run_exchange, Http.Request.fetch]
  cases (Http.post url body contentType).settle s.next with
  | error failure => rfl
  | ok reply =>
      change (Op.lift id reply.accepted).run.run _ = (reply.accepted, _)
      rw [run_lift]
      cases reply.accepted <;> rfl

end Op

namespace Call

open Client

/-- A call sends one request and concludes from what that meets. -/
def Sends (call : Call) (s : Session) (after : Except Failure call.Result × Session) : Prop :=
  ∃ r read, (∀ root, call.Reads root (read root)) ∧ after.2.sent = s.sent ++ [r] ∧
    after.1 = r.settle s.next >>= call.conclude read

/-- Unless something stands for a collection without a template, a call concludes from the value
that its request brings. -/
theorem settle_conclude {call : Call} (huntemplated : call.untemplated? = none)
    (r : Http.Request) (o : Http.Outcome) (read : Json → Except ReplyFault call.Result) :
    r.settle o >>= call.conclude read =
      r.fetch o >>= fun root => (read root).mapError .reply := by
  have hread : call.conclude read =
      fun reply => reply.accepted >>= fun root => (read root).mapError .reply := by
    funext reply
    rw [conclude, huntemplated]
  rw [Http.Request.fetch, hread]
  cases r.settle o <;> rfl

/-- What goes on from the value that a POST brings sends nothing more. -/
theorem sends_post {call : Call} (huntemplated : call.untemplated? = none) {s : Session}
    {url body contentType : String} {rest : Json → Op call.Result}
    {read : Json → Except ReplyFault call.Result} (hreads : ∀ root, call.Reads root (read root))
    (hrest : ∀ root s', s'.clock = s.clock → ∃ clock,
      (rest root).run.run s' = ((read root).mapError .reply, { s' with clock := clock })) :
    call.Sends s ((post url body contentType >>= rest).run.run s) := by
  obtain ⟨after, hsent, hrun⟩ : ∃ after : Session,
      after.sent = s.sent ++ [Http.post url body contentType] ∧
        (post url body contentType >>= rest).run.run s =
          ((Http.post url body contentType).fetch s.next >>=
            fun root => (read root).mapError .reply, after) := by
    rw [Op.run_bind, Op.run_post]
    cases (Http.post url body contentType).fetch s.next with
    | error failure => exact ⟨s.after (Http.post url body contentType), rfl, rfl⟩
    | ok root =>
        obtain ⟨clock, hrun⟩ := hrest root (s.after (Http.post url body contentType)) rfl
        exact ⟨_, rfl, hrun⟩
  refine ⟨Http.post url body contentType, read, hreads, ?_, ?_⟩
  · rw [hrun, hsent]
  · rw [hrun, settle_conclude huntemplated]

theorem search_sends (c : Client) (q : QueryRequest) {s : Session} (hclock : s.clock.Reliable) :
    (Call.search q).Sends s ((c.search q).run.run s) := by
  obtain ⟨start, clock, hstart, hlater⟩ := hclock.read
  obtain ⟨finish, clock', hfinish, -⟩ := hlater.read
  rw [Client.search, Op.run_bind, Op.run_now hstart]
  refine sends_post (s := { s with clock := clock }) rfl
    (fun root => (search_reads q root).map (⟨·, finish - start⟩)) ?_
  intro root s' hs'
  have hnow : s'.clock.read = (.ok finish, clock') := hs' ▸ hfinish
  rw [Op.run_bind, Op.run_lift]
  cases SearchReply.ofJson root idField with
  | error fault => exact ⟨s'.clock, rfl⟩
  | ok reply =>
      refine ⟨clock', ?_⟩
      simp only [mapError_ok]
      rw [Op.run_bind, Op.run_now hnow]
      rfl

theorem copyFields_sends (c : Client) (s : Session) :
    Call.copyFields.Sends s (c.copyFields.run.run s) := by
  have hreads : ∀ root, Call.copyFields.Reads root
      (.ok (copyTargets c.connection.collection root)) := by
    intro root fault hlacks
    cases hlacks
  refine ⟨Http.get (c.connection.engineRoot ++ "_template/" ++ c.connection.collection), _,
    hreads, ?_⟩
  rw [Client.copyFields, Op.run_bind, Op.run_exchange]
  cases (Http.Request.settle _ _) with
  | error failure => exact ⟨rfl, rfl⟩
  | ok reply =>
      dsimp only
      by_cases hmissing : reply.status = 404
      · rw [if_pos hmissing]
        refine ⟨rfl, ?_⟩
        change _ = conclude _ _ reply
        rw [conclude, decide_eq_true hmissing]
        rfl
      · rw [if_neg hmissing, Op.run_bind, Op.run_lift]
        change _ ∧ _ = conclude _ _ reply
        rw [conclude, decide_eq_false hmissing]
        cases reply.accepted <;> exact ⟨rfl, rfl⟩

/-- A call sends one request and concludes from what that meets. -/
theorem perform_sends (c : Client) {call : Call} (hproper : call.Proper) {s : Session}
    (hclock : s.clock.Reliable) : call.Sends s ((call.perform c).run.run s) := by
  cases call with
  | search q => exact search_sends c q hclock
  | facet q =>
      obtain ⟨field, hfield, hfull⟩ := hproper
      obtain ⟨body, hbody⟩ : ∃ body, q.facetBody = .ok body := by
        rw [QueryRequest.facetBody, hfield]
        dsimp only
        rw [if_neg hfull]
        exact ⟨_, rfl⟩
      change Sends (.facet q) s ((c.facet q).run.run s)
      rw [Client.facet, Op.run_bind, Op.run_lift, hbody, hfield]
      exact sends_post rfl (fun root => facet_reads hfield root)
        fun root s' _ => ⟨s'.clock, rfl⟩
  | documents ids fields denied =>
      exact sends_post rfl (documents_reads ids fields denied) fun root s' _ => ⟨s'.clock, rfl⟩
  | copyFields => exact copyFields_sends c s
  | deleteAll =>
      have hreads : ∀ root, Call.deleteAll.Reads root (.ok ()) := by
        intro root fault hlacks
        cases hlacks
      change Sends .deleteAll s ((c.deleteAll).run.run s)
      simp only [Client.deleteAll, discard, map_const, Function.comp_apply, map_eq_pure_bind]
      exact sends_post rfl hreads fun root s' _ => ⟨s'.clock, rfl⟩

/-- Every call of a client sends one request. An engine that cannot be reached, a status other than
200 and a value without a container that is needed are reported as such, and nothing else is a
failure: all of this exactly if what the request meets can be read. If it cannot, the failure is
the one of the exchange. -/
theorem settles_iff_readable (c : Client) {call : Call} (hproper : call.Proper) {s : Session}
    (hclock : s.clock.Reliable) :
    ∃ r, ((call.perform c).run.run s).2.sent = s.sent ++ [r] ∧
      (call.Settles r s.next ((call.perform c).run.run s).1 ↔ s.next.Readable) ∧
      (¬s.next.Readable →
        ∃ fault, ((call.perform c).run.run s).1 = .error (.exchange fault)) := by
  obtain ⟨r, read, hreads, hsent, hresult⟩ := perform_sends c hproper hclock
  obtain ⟨hsettles, hexchange⟩ := settles_iff (r := r) (o := s.next) hreads
  rw [Http.Outcome.readable_iff_regular, hresult]
  exact ⟨r, hsent, hsettles, hexchange⟩

/-- A client of the collection `c` of a host. -/
def sampleClient : Client :=
  ⟨⟨"http://h/c/", "http://h/", "c"⟩, "10m", .string "1m", .int 1⟩

def meeting (response : Http.Response) : Session := ⟨[.response response], .start, [], false⟩

theorem meeting_reliable (response : Http.Response) : (meeting response).clock.Reliable := by
  simp [meeting, Clock.Reliable, Clock.start]

/-- A request to count documents by their colour. -/
def countByColour : Call := .facet ⟨"*:*", [], some "colour", 10, none⟩

/-- A reply that counts by another field. -/
def otherCounts : Http.Response :=
  .recorded 200
    (Utf8.encode "\x7b\"aggregations\":\x7b\"size\":\x7b\"buckets\":[]\x7d\x7d\x7d") none

theorem countByColour_settles : countByColour.Proper ∧ (meeting otherCounts).clock.Reliable ∧
    ∃ r, ((countByColour.perform sampleClient).run.run (meeting otherCounts)).2.sent = [r] ∧
      countByColour.Settles r (.response otherCounts)
        ((countByColour.perform sampleClient).run.run (meeting otherCounts)).1 := by
  have hproper : countByColour.Proper := ⟨"colour", rfl, by decide⟩
  have hclock := meeting_reliable otherCounts
  have hreadable : (meeting otherCounts).next.Readable := by
    have hjson : otherCounts.json.toBool = true := by decide +kernel
    refine ⟨?_, fun h => absurd rfl h⟩
    cases hroot : otherCounts.json with
    | ok root => exact ⟨root, rfl⟩
    | error fault =>
        rw [hroot] at hjson
        cases hjson
  obtain ⟨r, hsent, hsettles, -⟩ := settles_iff_readable sampleClient hproper hclock
  exact ⟨hproper, hclock, r, hsent, hsettles.mpr hreadable⟩

/-- An error page whose content type names a character set that nothing can be decoded from. -/
def errorPage : Http.Response :=
  .recorded 500 (Utf8.encode "boom") (some "text/html; charset=undefined")

/-- A status other than 200 is lost if the text of the response cannot be decoded. -/
theorem status_lost_in_decoding :
    (meeting errorPage).next = .response errorPage ∧ errorPage.status = 500 ∧
      ∀ r, ¬Call.deleteAll.Settles r (.response errorPage)
        ((Call.deleteAll.perform sampleClient).run.run (meeting errorPage)).1 := by
  refine ⟨rfl, rfl, fun r => ?_⟩
  have hproper : Call.deleteAll.Proper := trivial
  obtain ⟨sent, read, hreads, -, hresult⟩ :=
    perform_sends sampleClient hproper (meeting_reliable errorPage)
  have hirregular : ¬(meeting errorPage).next.Regular := by
    have hfailed : errorPage.toReply.toBool = false := by decide +kernel
    rintro ⟨reply, hreply⟩
    rw [hreply] at hfailed
    cases hfailed
  obtain ⟨fault, hfault⟩ := (settles_iff (r := sent) hreads).2 hirregular
  rw [hresult, hfault]
  exact Settles.not_exchange

end Call

end SearchBridge
