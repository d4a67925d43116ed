import SearchBridge.Proofs.Page
import SearchBridge.Proofs.Publication
/-!
The course of paging as a relation.

The requests of a run are numbered from zero, and request number `n` meets answer number `n` of the
script. `Course` says what may follow a request: it is lost, or it brings a page, and then the page
ends the paging or its ids are published and the next request is sent. Everything that is claimed of
the events of a run is proved by induction on it.
-/

namespace SearchBridge

namespace Export

/-- What request number `n` meets. When the answers are used up nothing answers any more. -/
def outcomeAt (script : List Answer) (n : Nat) : Http.Outcome :=
  ((script.drop n).head?.map (·.outcome)).getD (.unreachable Http.silence)

/-- Whether cancellation is set while request number `n` is under way. -/
def cancelsAt (script : List Answer) (n : Nat) : Bool :=
  ((script.drop n).head?.map (·.cancels)).getD false

/-- The stage after request number `n`. -/
def Stage.passed (stage : Stage) (script : List Answer) (n : Nat) : Stage :=
  { stage with cancelled := stage.cancelled || cancelsAt script n }

/-- Sends a request and goes through the pages from the one that it brings. -/
def send (p : Plan) (r : Http.Request) (token : Option Text) (stage : Stage)
    (answers : List Answer) : Paging :=
  let rest : Paging :=
    match answers with
    | [] =>
      .done (.failed (r.lost Http.silence)) (r.log (.unreachable Http.silence)) token stage []
    | answer :: answers =>
      let stage := { stage with cancelled := stage.cancelled || answer.cancels }
      match r.fetch answer.outcome with
      | .error f => .done (.failed f) (r.log answer.outcome) token stage answers
      | .ok root => pages p root token stage answers
  rest.after [.request r] []

theorem openAndPage_eq_send (p : Plan) (stage : Stage) (answers : List Answer) :
    openAndPage p stage answers = send p p.openRequest none stage answers := rfl

theorem Paging.after_after (o : Paging) (e₁ e₂ : List Event) (b₁ b₂ : List IdSet) :
    (o.after e₂ b₂).after e₁ b₁ = o.after (e₁ ++ e₂) (b₁ ++ b₂) := by
  simp [Paging.after]

theorem Paging.after_one_length (o : Paging) (events : List Event) (batch : IdSet) :
    (o.after events [batch]).batches.length = o.batches.length + 1 := rfl

theorem Paging.after_token (o : Paging) (events : List Event) (batches : List IdSet) :
    (o.after events batches).token = o.token := rfl

theorem send_lost {p : Plan} {r : Http.Request} {token : Option Text} {stage : Stage}
    {script : List Answer} {n : Nat} {f : Failure} (h : r.fetch (outcomeAt script n) = .error f) :
    send p r token stage (script.drop n) =
      ⟨[.request r], [], .failed f, r.log (outcomeAt script n), token, stage.passed script n,
        script.drop (n + 1)⟩ := by
  unfold outcomeAt at h ⊢
  unfold send Stage.passed cancelsAt
  rw [← List.tail_drop]
  cases hdrop : script.drop n with
  | nil =>
      rw [hdrop] at h
      simp only [List.head?_nil, Option.map_none, Option.getD_none, Http.Request.fetch,
        Http.Request.settle, bind, Except.bind, Except.error.injEq] at h
      simp [Paging.done, Paging.after, ← h]
  | cons answer rest =>
      rw [hdrop] at h
      simp only [List.head?_cons, Option.map_some, Option.getD_some] at h
      simp [Paging.done, Paging.after, h]

theorem send_brings {p : Plan} {r : Http.Request} {token : Option Text} {stage : Stage}
    {script : List Answer} {n : Nat} {root : Json} (h : (outcomeAt script n).Brings root) :
    send p r token stage (script.drop n) =
      (pages p root token (stage.passed script n) (script.drop (n + 1))).after
        [.request r] [] := by
  have hfetch : r.fetch (outcomeAt script n) = .ok root := Http.Request.fetch_eq_ok_iff.mpr h
  unfold outcomeAt at hfetch
  unfold send Stage.passed cancelsAt
  rw [← List.tail_drop]
  cases hdrop : script.drop n with
  | nil =>
      rw [hdrop] at hfetch
      cases hfetch
  | cons answer rest =>
      rw [hdrop] at hfetch
      simp only [List.head?_cons, Option.map_some, Option.getD_some] at hfetch
      simp [hfetch]

/-- The publication of the ids of a page. -/
def offered (p : Plan) (stage : Stage) (ids : List Text) : Publication Item :=
  publish (Item.batch (IdSet.ofList ids)) p.enqueueTimeout (some false) stage.puts

/-- The stage after the publication of the ids of a page. -/
def Stage.published (stage : Stage) (p : Plan) (root : Json) (ids : List Text) : Stage :=
  ⟨(offered p stage ids).rest, (readPage p root stage.clock).clock,
    (offered p stage ids).cancelled.getD false⟩

@[simp] theorem offered_passed (p : Plan) (stage : Stage) (script : List Answer) (n : Nat)
    (ids : List Text) : offered p (stage.passed script n) ids = offered p stage ids := rfl

@[simp] theorem Stage.published_passed (stage : Stage) (script : List Answer) (n : Nat) (p : Plan)
    (root : Json) (ids : List Text) :
    (stage.passed script n).published p root ids = stage.published p root ids := rfl

theorem pages_publish {p : Plan} {root : Json} {token : Option Text} {stage : Stage}
    {answers : List Answer} {fresh : Text} {ids : List Text} (hlive : stage.cancelled = false)
    (hids : (readPage p root stage.clock).ids = .ok ids) (hne : ids ≠ [])
    (hfresh : (readPage p root stage.clock).token = some fresh) :
    pages p root token stage answers =
      if (offered p stage ids).accepted then
        (send p (p.nextRequest fresh) (some fresh) (stage.published p root ids) answers).after
          ((offered p stage ids).attempts.map .put) [IdSet.ofList ids]
      else
        (Paging.done .stopped [] (some fresh) (stage.published p root ids) answers).after
          ((offered p stage ids).attempts.map .put) [] := by
  cases ids with
  | nil => exact absurd rfl hne
  | cons first rest =>
      rw [pages.eq_def]
      simp only [hlive, hids, hfresh, Bool.false_eq_true, if_false]
      unfold send
      simp only [Paging.after_after]
      rfl

theorem pages_stopped {p : Plan} {root : Json} {token : Option Text} {stage : Stage}
    {answers : List Answer} (h : stage.cancelled = true) :
    pages p root token stage answers = .done .stopped [] token stage answers := by
  rw [pages.eq_def]
  simp [h]

theorem pages_faulty {p : Plan} {root : Json} {token : Option Text} {stage : Stage}
    {answers : List Answer} {f : Failure} (hlive : stage.cancelled = false)
    (h : (readPage p root stage.clock).ids = .error f) :
    pages p root token stage answers =
      .done (.failed f) [] ((readPage p root stage.clock).token.or token)
        { stage with clock := (readPage p root stage.clock).clock } answers := by
  rw [pages.eq_def]
  simp [hlive, h]

theorem pages_complete {p : Plan} {root : Json} {token : Option Text} {stage : Stage}
    {answers : List Answer} (hlive : stage.cancelled = false)
    (h : (readPage p root stage.clock).ids = .ok []) :
    pages p root token stage answers =
      .done .complete [] ((readPage p root stage.clock).token.or token)
        { stage with clock := (readPage p root stage.clock).clock } answers := by
  rw [pages.eq_def]
  simp [hlive, h]

/-- Request number `n` brought a page that is read while the run goes on: the page has a token and
ids to publish. -/
structure Offer (p : Plan) (script : List Answer) (n : Nat) (stage : Stage) (root : Json)
    (token : Text) (ids : List Text) : Prop where
  brings : (outcomeAt script n).Brings root
  live : (stage.passed script n).cancelled = false
  ids_eq : (readPage p root stage.clock).ids = .ok ids
  filled : ids ≠ []
  token_eq : tokenOf root = .ok token

theorem Offer.token_read {p : Plan} {script : List Answer} {n : Nat} {stage : Stage} {root : Json}
    {token : Text} {ids : List Text} (h : Offer p script n stage root token ids) :
    (readPage p root stage.clock).token = some token := by
  rw [readPage_token, h.token_eq]
  rfl

/-- What may follow request number `n`. `token` is the last one seen before it. -/
inductive Course (p : Plan) (script : List Answer) :
    Nat → Http.Request → Option Text → Stage → Paging → Prop
  | lost {n : Nat} {r : Http.Request} {token : Option Text} {stage : Stage} {f : Failure} :
      r.fetch (outcomeAt script n) = .error f →
      Course p script n r token stage
        ⟨[.request r], [], .failed f, r.log (outcomeAt script n), token, stage.passed script n,
          script.drop (n + 1)⟩
  | stopped {n : Nat} {r : Http.Request} {token : Option Text} {stage : Stage} {root : Json} :
      (outcomeAt script n).Brings root → (stage.passed script n).cancelled = true →
      Course p script n r token stage
        ⟨[.request r], [], .stopped, [], token, stage.passed script n, script.drop (n + 1)⟩
  | faulty {n : Nat} {r : Http.Request} {token : Option Text} {stage : Stage} {root : Json}
      {f : Failure} :
      (outcomeAt script n).Brings root → (stage.passed script n).cancelled = false →
      (readPage p root stage.clock).ids = .error f →
      Course p script n r token stage
        ⟨[.request r], [], .failed f, [], (readPage p root stage.clock).token.or token,
          ⟨stage.puts, (readPage p root stage.clock).clock, false⟩, script.drop (n + 1)⟩
  | complete {n : Nat} {r : Http.Request} {token : Option Text} {stage : Stage} {root : Json} :
      (outcomeAt script n).Brings root → (stage.passed script n).cancelled = false →
      (readPage p root stage.clock).ids = .ok [] →
      Course p script n r token stage
        ⟨[.request r], [], .complete, [], (readPage p root stage.clock).token.or token,
          ⟨stage.puts, (readPage p root stage.clock).clock, false⟩, script.drop (n + 1)⟩
  | refused {n : Nat} {r : Http.Request} {token : Option Text} {stage : Stage} {root : Json}
      {fresh : Text} {ids : List Text} :
      Offer p script n stage root fresh ids → (offered p stage ids).accepted = false →
      Course p script n r token stage
        ⟨.request r :: (offered p stage ids).attempts.map .put, [], .stopped, [], some fresh,
          stage.published p root ids, script.drop (n + 1)⟩
  | next {n : Nat} {r : Http.Request} {token : Option Text} {stage : Stage} {root : Json}
      {fresh : Text} {ids : List Text} {rest : Paging} :
      Offer p script n stage root fresh ids → (offered p stage ids).accepted = true →
      Course p script (n + 1) (p.nextRequest fresh) (some fresh) (stage.published p root ids) rest →
      Course p script n r token stage
        (rest.after (.request r :: (offered p stage ids).attempts.map .put) [IdSet.ofList ids])

theorem lt_length_of_brings {script : List Answer} {n : Nat} {root : Json}
    (h : (outcomeAt script n).Brings root) : n < script.length := by
  rcases Nat.lt_or_ge n script.length with hlt | hge
  · exact hlt
  · obtain ⟨_, _, hresponse, -⟩ := h
    simp [outcomeAt, List.drop_eq_nil_of_le hge] at hresponse

/-- What sends a request and goes through the pages keeps to a course. Each page uses up an answer,
and without one the request is lost. -/
theorem send_course (p : Plan) (script : List Answer) (n : Nat) (r : Http.Request)
    (token : Option Text) (stage : Stage) :
    Course p script n r token stage (send p r token stage (script.drop n)) := by
  cases hfetch : r.fetch (outcomeAt script n) with
  | error f =>
      rw [send_lost hfetch]
      exact .lost hfetch
  | ok root =>
      have hbrings := Http.Request.fetch_eq_ok_iff.mp hfetch
      have hlt := lt_length_of_brings hbrings
      rw [send_brings hbrings]
      cases hlive : (stage.passed script n).cancelled with
      | true =>
          rw [pages_stopped hlive]
          exact .stopped hbrings hlive
      | false =>
          cases hids : (readPage p root stage.clock).ids with
          | error f =>
              rw [pages_faulty hlive hids, hlive]
              exact .faulty hbrings hlive hids
          | ok ids =>
              by_cases hempty : ids = []
              · subst hempty
                rw [pages_complete hlive hids, hlive]
                exact .complete hbrings hlive hids
              · obtain ⟨fresh, _, htoken, hread, -⟩ := readPage_ids hids
                have hoffer : Offer p script n stage root fresh ids :=
                  ⟨hbrings, hlive, hids, hempty, htoken⟩
                have hrest := send_course p script (n + 1) (p.nextRequest fresh) (some fresh)
                  (stage.published p root ids)
                rw [pages_publish hlive hids hempty hread, offered_passed, Stage.published_passed]
                cases haccepted : (offered p stage ids).accepted with
                | true =>
                    rw [if_pos rfl, Paging.after_after]
                    exact .next hoffer haccepted hrest
                | false =>
                    rw [if_neg Bool.false_ne_true, Paging.after_after]
                    have hcourse : Course p script n r token stage _ := .refused hoffer haccepted
                    simpa [Paging.done, Paging.after] using hcourse
termination_by script.length - n

/-- Only what sends the request keeps to its course. -/
theorem Course.eq_send {p : Plan} {script : List Answer} {n : Nat} {r : Http.Request}
    {token : Option Text} {stage : Stage} {out : Paging}
    (h : Course p script n r token stage out) : out = send p r token stage (script.drop n) := by
  induction h with
  | lost hfetch => rw [send_lost hfetch]
  | stopped hbrings hcancelled =>
      rw [send_brings hbrings, pages_stopped hcancelled]
      rfl
  | faulty hbrings hlive hids =>
      rw [send_brings hbrings, pages_faulty hlive hids, hlive]
      rfl
  | complete hbrings hlive hids =>
      rw [send_brings hbrings, pages_complete hlive hids, hlive]
      rfl
  | refused hoffer haccepted =>
      rw [send_brings hoffer.brings,
        pages_publish hoffer.live hoffer.ids_eq hoffer.filled hoffer.token_read, offered_passed,
        haccepted, if_neg Bool.false_ne_true, Paging.after_after]
      simp [Paging.done, Paging.after]
  | next hoffer haccepted _ ih =>
      rw [send_brings hoffer.brings,
        pages_publish hoffer.live hoffer.ids_eq hoffer.filled hoffer.token_read, offered_passed,
        haccepted, if_pos rfl, Paging.after_after, Stage.published_passed, ← ih]
      rfl

end Export

end SearchBridge
