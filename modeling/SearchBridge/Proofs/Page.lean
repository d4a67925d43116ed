import SearchBridge.Export.Exporter
/-!
Pages, seen from the answers of the engine.

A page is in order if it is answered with status 200 and its object has a token, which is no blank
text, and a list of hits. What is wrong with any other page is said by `PageFault`. Both are laid
beside the functions that read a page, and a page read by a clock that works is one or the other.
-/

namespace SearchBridge

section

variable {ε ε' α : Type} (f : ε → ε')

@[simp] theorem mapError_ok (a : α) : (Except.ok a : Except ε α).mapError f = .ok a := rfl

@[simp] theorem mapError_error (e : ε) :
    (Except.error e : Except ε α).mapError f = .error (f e) := rfl

end

namespace Http

/-- A response with status 200 brings the JSON value of its body. -/
def Outcome.Brings (o : Outcome) (root : Json) : Prop :=
  ∃ response reply, o = .response response ∧ response.toReply = .ok reply ∧ reply.status = 200 ∧
    reply.json = root

/-- A response of which a reply can be made, whatever its status, or the silence of the engine. -/
def Outcome.Regular : Outcome → Prop
  | .response r => ∃ reply, r.toReply = .ok reply
  | .unreachable _ => True
  | .fault _ => False

theorem Request.fetch_eq_ok_iff {r : Request} {o : Outcome} {root : Json} :
    r.fetch o = .ok root ↔ o.Brings root := by
  cases o with
  | response response =>
      cases hreply : response.toReply with
      | error fault =>
          simp [Request.fetch, Request.settle, hreply, Outcome.Brings, bind,
            Except.bind]
      | ok reply =>
          by_cases hstatus : reply.status = 200
          · simp [Request.fetch, Request.settle, hreply, Outcome.Brings, bind,
              Except.bind, Reply.accepted, hstatus]
          · simp [Request.fetch, Request.settle, hreply, Outcome.Brings, bind,
              Except.bind, Reply.accepted, hstatus]
  | unreachable reason =>
      simp [Request.fetch, Request.settle, Outcome.Brings, bind, Except.bind]
  | fault fault =>
      simp [Request.fetch, Request.settle, Outcome.Brings, bind, Except.bind]

theorem Request.brings_of_toOption {r : Request} {o : Outcome} {root : Json}
    (h : (r.fetch o).toOption = some root) : o.Brings root := by
  cases hfetch : r.fetch o with
  | error f =>
      rw [hfetch] at h
      cases h
  | ok found =>
      rw [hfetch] at h
      cases h
      exact Request.fetch_eq_ok_iff.mp hfetch

theorem Outcome.Brings.unique {o : Outcome} {root root' : Json} (h : o.Brings root)
    (h' : o.Brings root') : root = root' := by
  obtain ⟨response, reply, rfl, hreply, -, rfl⟩ := h
  obtain ⟨response', reply', hresponse, hreply', -, rfl⟩ := h'
  cases hresponse
  rw [hreply] at hreply'
  cases hreply'
  rfl

/-- An exchange fails by itself unless its outcome is regular. -/
theorem Request.settle_regular_iff {r : Request} {o : Outcome} :
    (∀ fault, r.settle o ≠ .error (.exchange fault)) ↔ o.Regular := by
  cases o with
  | response response =>
      cases hreply : response.toReply <;>
        simp [Request.settle, hreply, Outcome.Regular]
  | unreachable reason => simp [Request.settle, Request.lost, Outcome.Regular]
  | fault fault => simp [Request.settle, Outcome.Regular]

end Http

namespace Clock

/-- Every reading is a point in time. -/
def Reliable (c : Clock) : Prop := ∀ r ∈ c.current :: c.later, ∃ t, r = .ok t

theorem Reliable.read {c : Clock} (h : c.Reliable) :
    ∃ t later, c.read = (.ok t, later) ∧ later.Reliable := by
  obtain ⟨current, later⟩ := c
  obtain ⟨t, ht⟩ : ∃ t, current = .ok t := h current List.mem_cons_self
  subst ht
  cases later with
  | nil => exact ⟨t, _, rfl, h⟩
  | cons next rest => exact ⟨t, _, rfl, fun r hr => h r (List.mem_cons_of_mem _ hr)⟩

/-- A clock that shows these times in turn. -/
def telling (now : Int) (later : List Int) : Clock := ⟨.ok now, later.map .ok⟩

theorem reliable_telling (now : Int) (later : List Int) : (telling now later).Reliable := by
  intro r hr
  rcases List.mem_cons.mp hr with rfl | hlater
  · exact ⟨now, rfl⟩
  · obtain ⟨t, -, rfl⟩ := List.mem_map.mp hlater
    exact ⟨t, rfl⟩

end Clock

namespace Export

/-- The object of a page in order: its token is no blank text, and it has a list of hits. -/
structure PageObject (root : Json) (token : Text) (hits : List Json) : Prop where
  token_eq : root.field? "_scroll_id" = some (.string token)
  not_blank : Text.isBlank token = false
  hits_eq : (root.field? "hits").bind (·.field? "hits") = some (.array hits)

/-- A page in order, with the ids of its hits that are not blank. -/
def GoodPage (field : Text) (o : Http.Outcome) (token : Text) (ids : List Text) : Prop :=
  ∃ root hits, o.Brings root ∧ PageObject root token hits ∧ ids = SearchReply.idsOf field hits

/-- What the object of a page lacks. -/
inductive ObjectFault (root : Json) : ReplyFault → Prop
  | noCursor :
      (∀ token, root.field? "_scroll_id" = some (.string token) → Text.isBlank token = true) →
      ObjectFault root .noCursor
  | noHits :
      (root.field? "hits").bind Json.members? = none → ObjectFault root (.noObject "hits")
  | noHitList {members : Ordered Text Json} :
      root.field? "hits" = some (.object members) →
      (∀ hits, members.find? "hits" ≠ some (.array hits)) → ObjectFault root .noHits

/-- What is wrong with a page that is not in order, and what it is reported as. -/
inductive PageFault (url : String) : Http.Outcome → Failure → Prop
  /-- Another status than 200, reported with the status and the message of the response. -/
  | refused {response : Http.Response} {reply : Http.Reply} :
      response.toReply = .ok reply → reply.status ≠ 200 →
      PageFault url (.response response) (.refused reply.status reply.message)
  /-- No answer, reported without a status. -/
  | unreachable {reason : String} :
      PageFault url (.unreachable reason) (.unreachable .post url reason)
  /-- A fault of the exchange, reported as it is. -/
  | network {fault : Http.NetworkFault} :
      PageFault url (.fault fault) (.exchange (.network fault))
  | unreadable {response : Http.Response} {fault : Http.ResponseFault} :
      response.toReply = .error fault →
      PageFault url (.response response) (.exchange (.response fault))
  /-- A value without a token, without hits or without a list of them. -/
  | lacking {o : Http.Outcome} {root : Json} {fault : ReplyFault} :
      o.Brings root → ObjectFault root fault → PageFault url o (.reply fault)

theorem fetch_fault {r : Http.Request} {o : Http.Outcome} {f : Failure} (hpost : r.method = .post)
    (h : r.fetch o = .error f) : PageFault r.url o f := by
  cases o with
  | response response =>
      cases hreply : response.toReply with
      | error fault =>
          simp only [Http.Request.fetch, Http.Request.settle, hreply, mapError_error, bind,
            Except.bind, Except.error.injEq] at h
          subst h
          exact .unreadable hreply
      | ok reply =>
          simp only [Http.Request.fetch, Http.Request.settle, hreply, mapError_ok, bind,
            Except.bind, Http.Reply.accepted] at h
          split at h
          · cases h
          · rename_i hstatus
            cases h
            exact .refused hreply hstatus
  | unreachable reason =>
      simp only [Http.Request.fetch, Http.Request.settle, Http.Request.lost, hpost, bind,
        Except.bind, Except.error.injEq] at h
      subst h
      exact .unreachable
  | fault fault =>
      simp only [Http.Request.fetch, Http.Request.settle, bind, Except.bind,
        Except.error.injEq] at h
      subst h
      exact .network

theorem tokenOf_eq_ok_iff {root : Json} {token : Text} :
    tokenOf root = .ok token ↔
      root.field? "_scroll_id" = some (.string token) ∧ Text.isBlank token = false := by
  unfold tokenOf
  split
  · rename_i s hs
    by_cases hblank : Text.isBlank s = true
    · simp only [hblank, if_true, hs, reduceCtorEq, false_iff]
      rintro ⟨heq, hfalse⟩
      cases heq
      rw [hblank] at hfalse
      cases hfalse
    · have hfalse : Text.isBlank s = false := Bool.eq_false_iff.mpr hblank
      simp only [hfalse, Bool.false_eq_true, if_false, hs, Except.ok.injEq, Option.some.injEq,
        Json.string.injEq]
      constructor
      · rintro rfl
        exact ⟨rfl, hfalse⟩
      · exact And.left
  · rename_i hother
    simp only [reduceCtorEq, false_iff]
    rintro ⟨heq, -⟩
    exact hother token heq

theorem tokenOf_error {root : Json} {fault : ReplyFault} (h : tokenOf root = .error fault) :
    fault = .noCursor ∧ ObjectFault root .noCursor := by
  have hno : ∀ token, root.field? "_scroll_id" = some (.string token) →
      Text.isBlank token = true := by
    intro token htoken
    cases hblank : Text.isBlank token with
    | true => rfl
    | false =>
        rw [tokenOf_eq_ok_iff.mpr ⟨htoken, hblank⟩] at h
        cases h
  refine ⟨?_, .noCursor hno⟩
  unfold tokenOf at h
  split at h
  · split at h
    · cases h
      rfl
    · cases h
  · cases h
    rfl

theorem mem_idsOf {field id : Text} {hits : List Json} :
    id ∈ SearchReply.idsOf field hits ↔
      ∃ hit, hit ∈ hits ∧ hit.textField field = id ∧ Text.isBlank id = false := by
  simp only [SearchReply.idsOf, List.mem_filter, List.mem_map, Bool.not_eq_eq_eq_not, Bool.not_true]
  constructor
  · rintro ⟨⟨hit, hmem, heq⟩, hblank⟩
    exact ⟨hit, hmem, heq, hblank⟩
  · rintro ⟨hit, hmem, heq, hblank⟩
    exact ⟨⟨hit, hmem, heq⟩, hblank⟩

/-- A search reply that is read reports the ids of a list of hits. -/
theorem ofJson_hits {root : Json} {field : Text} {reply : SearchReply}
    (h : SearchReply.ofJson root field = .ok reply) :
    ∃ hits, (root.field? "hits").bind (·.field? "hits") = some (.array hits) ∧
      reply.ids = SearchReply.idsOf field hits := by
  simp only [SearchReply.ofJson, Json.requireObject, bind, Except.bind] at h
  cases hmembers : (root.field? "hits").bind Json.members? with
  | none =>
      rw [hmembers] at h
      cases h
  | some members =>
      rw [hmembers] at h
      simp only [Option.elim] at h
      split at h
      · rename_i hits hlist
        cases h
        obtain ⟨inner, hinner, hobject⟩ := Option.bind_eq_some_iff.mp hmembers
        cases inner with
        | object found =>
            cases hobject
            exact ⟨hits, by simp [hinner, hlist], rfl⟩
        | _ => cases hobject
      · cases h

theorem ofJson_fault {root : Json} {field : Text} {fault : ReplyFault}
    (h : SearchReply.ofJson root field = .error fault) : ObjectFault root fault := by
  cases hmembers : (root.field? "hits").bind Json.members? with
  | none =>
      simp only [SearchReply.ofJson, Json.requireObject, hmembers, Option.elim, bind, Except.bind,
        Except.error.injEq] at h
      subst h
      exact .noHits hmembers
  | some members =>
      obtain ⟨inner, hinner, hobject⟩ := Option.bind_eq_some_iff.mp hmembers
      cases inner with
      | object found =>
          cases hobject
          simp only [SearchReply.ofJson, Json.requireObject, hmembers, Option.elim, bind,
            Except.bind] at h
          split at h
          · cases h
          · rename_i hother
            cases h
            exact .noHitList hinner hother
      | _ => cases hobject

theorem PageObject.unique {root : Json} {token token' : Text} {hits hits' : List Json}
    (h : PageObject root token hits) (h' : PageObject root token' hits') :
    token = token' ∧ hits = hits' := by
  have htoken := h.token_eq
  have hhits := h.hits_eq
  rw [h'.token_eq] at htoken
  rw [h'.hits_eq] at hhits
  cases htoken
  cases hhits
  exact ⟨rfl, rfl⟩

theorem PageObject.not_fault {root : Json} {token : Text} {hits : List Json} {fault : ReplyFault}
    (h : PageObject root token hits) : ¬ObjectFault root fault := by
  intro hfault
  obtain ⟨inner, hinner, hlist⟩ := Option.bind_eq_some_iff.mp h.hits_eq
  cases hfault with
  | noCursor hnone =>
      have hblank := hnone token h.token_eq
      rw [h.not_blank] at hblank
      cases hblank
  | noHits hnone =>
      rw [hinner] at hnone
      cases inner with
      | object members => cases hnone
      | _ => cases hlist
  | noHitList hobject hnone =>
      rw [hinner] at hobject
      cases hobject
      exact hnone hits hlist

theorem GoodPage.not_fault {field : Text} {o : Http.Outcome} {token : Text} {ids : List Text}
    {url : String} {f : Failure} (h : GoodPage field o token ids) : ¬PageFault url o f := by
  obtain ⟨root, hits, hbrings, hpage, -⟩ := h
  intro hfault
  cases hfault with
  | refused hreply hstatus =>
      obtain ⟨response, reply, hresponse, hreply', hok, -⟩ := hbrings
      cases hresponse
      rw [hreply] at hreply'
      cases hreply'
      exact hstatus hok
  | unreachable =>
      obtain ⟨_, _, hresponse, -⟩ := hbrings
      cases hresponse
  | network =>
      obtain ⟨_, _, hresponse, -⟩ := hbrings
      cases hresponse
  | unreadable hreply =>
      obtain ⟨response, reply, hresponse, hreply', -⟩ := hbrings
      cases hresponse
      rw [hreply] at hreply'
      cases hreply'
  | lacking hbrings' hobject =>
      cases hbrings.unique hbrings'
      exact hpage.not_fault hobject

theorem readPage_token (p : Plan) (root : Json) (clock : Clock) :
    (readPage p root clock).token = (tokenOf root).toOption := by
  unfold readPage
  cases htoken : tokenOf root with
  | error fault => rfl
  | ok token =>
      simp only [Except.toOption]
      split
      · rfl
      · split
        · rfl
        · rfl
        · split <;> rfl

/-- Ids are read from a page only if it has a token and a list of hits. -/
theorem readPage_ids {p : Plan} {root : Json} {clock : Clock} {ids : List Text}
    (h : (readPage p root clock).ids = .ok ids) :
    ∃ token reply, tokenOf root = .ok token ∧ (readPage p root clock).token = some token ∧
      SearchReply.ofLookup root p.idField = .ok reply ∧ reply.ids = ids := by
  have htoken := readPage_token p root clock
  unfold readPage at h
  split at h
  · cases h
  · rename_i token hok
    split at h
    · cases h
    · split at h
      · cases h
      · cases h
      · rename_i reply hreply
        split at h
        · cases h
        · cases h
          exact ⟨token, reply, hok, by rw [htoken, hok]; rfl, hreply, rfl⟩

/-- With a clock that works the ids of a page are read, or its object lacks something. -/
theorem readPage_reliable {p : Plan} (root : Json) {clock : Clock} {field : Text}
    (hfield : p.idField = .string field) (hclock : clock.Reliable) :
    (readPage p root clock).clock.Reliable ∧
      ((∃ ids, (readPage p root clock).ids = .ok ids) ∨
        ∃ fault, (readPage p root clock).ids = .error (.reply fault) ∧ ObjectFault root fault) := by
  obtain ⟨_, clock₁, hread₁, hclock₁⟩ := hclock.read
  obtain ⟨_, clock₂, hread₂, hclock₂⟩ := hclock₁.read
  unfold readPage
  cases htoken : tokenOf root with
  | error fault =>
      obtain ⟨rfl, hfault⟩ := tokenOf_error htoken
      exact ⟨hclock, Or.inr ⟨_, rfl, hfault⟩⟩
  | ok token =>
      cases hreply : SearchReply.ofJson root field with
      | error fault =>
          simp only [hread₁, SearchReply.ofLookup, hfield, hreply, mapError_error]
          exact ⟨hclock₁, Or.inr ⟨fault, rfl, ofJson_fault hreply⟩⟩
      | ok reply =>
          simp only [hread₁, SearchReply.ofLookup, hfield, hreply, mapError_ok, hread₂]
          exact ⟨hclock₂, Or.inl ⟨_, rfl⟩⟩

/-- A page whose ids are read is in order. -/
theorem goodPage_of_ids {p : Plan} {root : Json} {clock : Clock} {field : Text} {o : Http.Outcome}
    {ids : List Text} (hfield : p.idField = .string field) (hbrings : o.Brings root)
    (h : (readPage p root clock).ids = .ok ids) : ∃ token, GoodPage field o token ids := by
  obtain ⟨token, reply, htoken, -, hreply, hids⟩ := readPage_ids h
  obtain ⟨htokenEq, hblank⟩ := tokenOf_eq_ok_iff.mp htoken
  have hjson : SearchReply.ofJson root field = .ok reply := by
    rw [hfield] at hreply
    cases hread : SearchReply.ofJson root field with
    | error fault => simp [SearchReply.ofLookup, hread] at hreply
    | ok found =>
        simp only [SearchReply.ofLookup, hread, mapError_ok, Except.ok.injEq] at hreply
        rw [hreply]
  obtain ⟨hits, hhits, hfound⟩ := ofJson_hits hjson
  exact ⟨token, root, hits, hbrings, ⟨htokenEq, hblank, hhits⟩, hids.symm.trans hfound⟩

/-- The id of a hit. A name that is no text names no member, so a hit has a blank id then. -/
def Plan.idOf (p : Plan) (hit : Json) : Text :=
  match p.idField with
  | .string field => hit.textField field
  | _ => []

/-- A hit that is not skipped: its id is not blank. -/
def Plan.Takes (p : Plan) (hit : Json) : Prop := Text.isBlank (p.idOf hit) = false

/-- With a name that is no text a reply is read as one whose hits have no ids. -/
theorem ofLookup_other {root name : Json} {reply : SearchReply}
    (hname : ∀ field, name ≠ .string field) (h : SearchReply.ofLookup root name = .ok reply) :
    reply.ids = [] ∧
      ∃ hits, (root.field? "hits").bind (·.field? "hits") = some (.array hits) := by
  unfold SearchReply.ofLookup at h
  split at h
  · exact absurd rfl (hname _)
  · cases hread : SearchReply.ofJson root [] with
    | error fault =>
        rw [hread] at h
        cases h
    | ok found =>
        obtain ⟨hits, hhits, -⟩ := ofJson_hits hread
        rw [hread] at h
        simp only [mapError_ok, bind, Except.bind] at h
        split at h
        · cases h
        · cases h
          exact ⟨rfl, hits, hhits⟩

/-- The ids that are read of a reply are those of its hits that are not skipped. -/
theorem ofLookup_hits {p : Plan} {root : Json} {reply : SearchReply}
    (h : SearchReply.ofLookup root p.idField = .ok reply) :
    ∃ hits, (root.field? "hits").bind (·.field? "hits") = some (.array hits) ∧
      ∀ id, id ∈ reply.ids ↔ ∃ hit ∈ hits, p.idOf hit = id ∧ p.Takes hit := by
  by_cases hname : ∃ field, p.idField = .string field
  · obtain ⟨field, hfield⟩ := hname
    have hids (hit : Json) : p.idOf hit = hit.textField field := by rw [Plan.idOf, hfield]
    cases hread : SearchReply.ofJson root field with
    | error fault =>
        rw [hfield, SearchReply.ofLookup, hread] at h
        cases h
    | ok found =>
        rw [hfield, SearchReply.ofLookup, hread] at h
        cases h
        obtain ⟨hits, hhits, hfound⟩ := ofJson_hits hread
        refine ⟨hits, hhits, fun id => ?_⟩
        rw [hfound, mem_idsOf]
        simp only [Plan.Takes, hids]
        constructor
        · rintro ⟨hit, hmem, rfl, hblank⟩
          exact ⟨hit, hmem, rfl, hblank⟩
        · rintro ⟨hit, hmem, rfl, hblank⟩
          exact ⟨hit, hmem, rfl, hblank⟩
  · have hother (field : Text) : p.idField ≠ .string field := fun hfield => hname ⟨field, hfield⟩
    have hblank (hit : Json) : p.idOf hit = [] := by
      unfold Plan.idOf
      split
      · rename_i field hfield
        exact absurd hfield (hother field)
      · rfl
    obtain ⟨hnone, hits, hhits⟩ := ofLookup_other hother h
    refine ⟨hits, hhits, fun id => ?_⟩
    rw [hnone]
    constructor
    · intro hmem
      cases hmem
    · rintro ⟨hit, -, -, htakes⟩
      rw [Plan.Takes, hblank] at htakes
      cases htakes

/-- A page whose ids are read is in order, and its ids are those of its hits that are not
skipped. -/
theorem readPage_hits {p : Plan} {root : Json} {clock : Clock} {ids : List Text}
    (h : (readPage p root clock).ids = .ok ids) :
    ∃ token hits, PageObject root token hits ∧
      ∀ id, id ∈ ids ↔ ∃ hit ∈ hits, p.idOf hit = id ∧ p.Takes hit := by
  obtain ⟨token, reply, htoken, -, hreply, rfl⟩ := readPage_ids h
  obtain ⟨htokenEq, hblank⟩ := tokenOf_eq_ok_iff.mp htoken
  obtain ⟨hits, hhits, hids⟩ := ofLookup_hits hreply
  exact ⟨token, hits, ⟨htokenEq, hblank, hhits⟩, hids⟩

end Export

end SearchBridge
