import SearchBridge.Proofs.Run
/-!
The order in which a run sends its requests and puts its items on the queue.
-/

namespace SearchBridge

namespace Export

def Item.isBatch : Item → Bool
  | .batch _ => true
  | .endOfStream => false

/-- The protocol that the requests and the puts of a run keep to. -/
structure Protocol (p : Plan) (script : List Answer) (events : List Event) : Prop where
  /-- The first event is a search for every document that opens the cursor. -/
  opens : ∃ rest, events = .request ⟨.post, p.url ++ "_search?scroll=" ++ p.keepAlive,
    some (Json.object [
      ("query", .object [("match_all", .object [])]),
      ("size", .string p.batchSize.text),
      ("stored_fields", .array [])]).text,
    some "application/json"⟩ :: rest
  /-- Every other POST continues after the request right before it. -/
  continues : ∀ before q after, events = before ++ .request q :: after → q.method = .post →
    before ≠ [] → ∃ m, (requests before).length = m + 1 ∧ Continues p script m before q
  /-- There is one POST more than there are batches that the queue accepts. -/
  posts : ((requests events).filter (·.method = .post)).length =
    ((published events).filter Item.isBatch).length + 1
  /-- The cursor is given up once at most. -/
  deletes : ((requests events).filter (·.method = .delete)).length ≤ 1
  /-- It is given up by the last request, before the end is offered to the queue, and it is named by
  a token that one of the requests brought. -/
  clears : ∀ before q after, events = before ++ .request q :: after → q.method = .delete →
    requests after = [] ∧ (∀ a ∈ attempts before, a.item ≠ .endOfStream) ∧
      ∃ m token, m < (requests before).length ∧ TokenAt script m token ∧
        q = ⟨.delete, p.engineRoot ++ "_search/scroll",
          some (Json.object [("scroll_id", .array [.string token])]).text,
          some "application/json"⟩

/-- Every run keeps to the protocol, whatever answers it, whatever the queue does and whenever it is
cancelled. -/
theorem run_keeps_protocol (x : Exporter) (supply : Supply) :
    Protocol x.plan supply.answers (x.run supply).events := by
  have hcourse := x.paging_course supply
  constructor
  case opens =>
    obtain ⟨rest, hhead⟩ := hcourse.head
    rw [x.run_events, hhead]
    exact ⟨_, rfl⟩
  case continues =>
    intro before q after hsplit hpost hne
    rw [x.run_events] at hsplit
    rcases split_append hsplit with ⟨mid, hpaging, -⟩ | ⟨mid, -, hrest⟩
    · obtain ⟨m, hm, hcontinues⟩ := hcourse.continues hpaging hne
      rw [Nat.zero_add] at hcontinues
      exact ⟨m, hm, hcontinues⟩
    · obtain ⟨-, hmem, -⟩ := Exporter.split_clearing hrest
      obtain ⟨token, -, rfl⟩ := Exporter.mem_clearRequests hmem
      cases hpost
  case posts =>
    have hpaging : (requests (x.paging supply).events).filter (·.method = .post) =
        requests (x.paging supply).events := by
      rw [List.filter_eq_self]
      intro q hq
      simp [Exporter.paging_method hq]
    have hclear : (x.clearRequests supply).filter (·.method = .post) = [] := by
      rw [List.filter_eq_nil_iff]
      intro q hq
      obtain ⟨token, -, rfl⟩ := Exporter.mem_clearRequests hq
      simp [Plan.clearRequest, Http.delete]
    have hbatches : ((x.paging supply).batches.map Item.batch).filter Item.isBatch =
        (x.paging supply).batches.map Item.batch := by
      rw [List.filter_eq_self]
      intro i hi
      obtain ⟨batch, -, rfl⟩ := List.mem_map.mp hi
      rfl
    have hclosing : (acceptedItems (x.closingAttempts supply)).filter Item.isBatch = [] := by
      rw [List.filter_eq_nil_iff]
      intro i hi
      rw [Exporter.closing_accepted hi]
      exact Bool.false_ne_true
    rw [x.run_requests, x.run_published, List.filter_append, List.filter_append,
      hcourse.published_eq, hpaging, hclear, hbatches, hclosing, List.append_nil, List.append_nil,
      hcourse.requests_length, List.length_map]
  case deletes =>
    have hposts : (requests (x.paging supply).events).filter (·.method = .delete) = [] := by
      rw [List.filter_eq_nil_iff]
      intro q hq
      simp [Exporter.paging_method hq]
    rw [x.run_requests, List.filter_append, hposts, List.nil_append]
    exact Nat.le_trans (List.length_filter_le _ _) Exporter.clearRequests_length
  case clears =>
    intro before q after hsplit hdelete
    obtain ⟨rfl, hmem, rfl⟩ := Exporter.split_delete hsplit hdelete
    obtain ⟨token, htoken, rfl⟩ := Exporter.mem_clearRequests hmem
    rw [hcourse.requests_length]
    refine ⟨requests_puts _, ?_, ?_⟩
    · intro a ha hend
      obtain ⟨batch, hbatch⟩ := hcourse.attempt_item a ha
      rw [hend] at hbatch
      cases hbatch
    · rcases hcourse.token_seen htoken with hnone | ⟨m, hm, hseen⟩
      · cases hnone
      · rw [Nat.zero_add] at hseen
        exact ⟨m, token, Nat.lt_succ_of_le hm, hseen, rfl⟩

end Export

end SearchBridge
