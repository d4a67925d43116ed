import SearchBridge.Proofs.Cancellation
import SearchBridge.Proofs.Nesting
import SearchBridge.Proofs.Terminal
/-!
Which cursor a run gives up.

A response carries a token whether the run looks at it or not. A run that is cancelled does not look
at the page that it got last, and neither does one that cannot make a reply of the response, so it
gives up the cursor that it knew before, if it knew one. All other runs give up the last cursor that
they got.
-/

namespace SearchBridge

namespace Http

theorem Response.json_of_toReply {r : Response} {reply : Reply} (h : r.toReply = .ok reply) :
    reply.status = r.status ∧ r.json = .ok reply.json := by
  simp only [Response.toReply, bind, Except.bind] at h
  split at h
  · cases h
  · rename_i json hjson
    split at h
    · cases h
    · cases h
      exact ⟨rfl, hjson⟩

/-- The body of a response is a JSON text of a value, however deep its containers stand in one
another. -/
def Response.Denotes (r : Response) (v : Json) : Prop :=
  ∃ t depth, Unicode.decodeDetected? r.body = some t ∧ Json.readWithin depth t = .ok v

theorem Response.Denotes.unique {r : Response} {v v' : Json} (h : r.Denotes v)
    (h' : r.Denotes v') : v = v' := by
  obtain ⟨t, depth, htext, hread⟩ := h
  obtain ⟨t', depth', htext', hread'⟩ := h'
  obtain rfl : t = t' := Option.some.inj (htext.symm.trans htext')
  rcases Json.readWithin_agree hread depth' with hsame | ⟨c, hnested⟩
  · exact Except.ok.inj (hsame.symm.trans hread')
  · rw [hread'] at hnested
    cases hnested

/-- A text that is malformed where its nesting is no matter denotes nothing. -/
theorem Response.not_denotes_of_malformed {r : Response} {t : Text} (room : Nat)
    (htext : Unicode.decodeDetected? r.body = some t)
    (hmalformed : Json.readWithin room t = .error .malformed) (v : Json) : ¬r.Denotes v := by
  rintro ⟨t', depth, htext', hread⟩
  obtain rfl : t = t' := Option.some.inj (htext.symm.trans htext')
  rcases Json.readWithin_agree hread room with hsame | ⟨c, hnested⟩
  · rw [hmalformed] at hsame
    cases hsame
  · rw [hmalformed] at hnested
    cases hnested

/-- What is read of a body is the value that it denotes, or null if it denotes none. -/
theorem Response.json_cases {r : Response} {root : Json} (h : r.json = .ok root) :
    r.Denotes root ∨ (∀ v, ¬r.Denotes v) ∧ root = .null := by
  unfold Response.json at h
  split at h
  · next hnone =>
    cases h
    refine Or.inr ⟨fun v hv => ?_, rfl⟩
    obtain ⟨t, -, htext, -⟩ := hv
    rw [hnone] at htext
    cases htext
  · next t htext =>
    split at h
    · next v hread =>
      cases h
      exact Or.inl ⟨t, r.depth, htext, hread⟩
    · next hmalformed =>
      cases h
      exact Or.inr ⟨not_denotes_of_malformed r.depth htext hmalformed, rfl⟩
    · cases h

/-- A response carries a token: its status is 200 and its body is a JSON text, however deep its
containers stand in one another, of an object whose token is no blank text. -/
def Response.Carries (r : Response) (token : Text) : Prop :=
  r.status = 200 ∧ ∃ t depth root, Unicode.decodeDetected? r.body = some t ∧
    Json.readWithin depth t = .ok root ∧ root.field? "_scroll_id" = some (.string token) ∧
    Text.isBlank token = false

theorem Response.carries_iff_denotes {r : Response} {token : Text} :
    r.Carries token ↔ r.status = 200 ∧ ∃ root, r.Denotes root ∧
      root.field? "_scroll_id" = some (.string token) ∧ Text.isBlank token = false := by
  constructor
  · rintro ⟨hstatus, t, depth, root, htext, hread, htoken⟩
    exact ⟨hstatus, root, ⟨t, depth, htext, hread⟩, htoken⟩
  · rintro ⟨hstatus, root, ⟨t, depth, htext, hread⟩, htoken⟩
    exact ⟨hstatus, t, depth, root, htext, hread, htoken⟩

theorem Response.Carries.unique {r : Response} {token token' : Text} (h : r.Carries token)
    (h' : r.Carries token') : token = token' := by
  obtain ⟨-, root, hroot, htoken, -⟩ := carries_iff_denotes.mp h
  obtain ⟨-, root', hroot', htoken', -⟩ := carries_iff_denotes.mp h'
  obtain rfl := hroot.unique hroot'
  rw [htoken] at htoken'
  cases htoken'
  rfl

theorem Response.carries_iff {r : Response} {root : Json} {token : Text} (hstatus : r.status = 200)
    (h : r.json = .ok root) : r.Carries token ↔ Export.tokenOf root = .ok token := by
  rw [Export.tokenOf_eq_ok_iff, carries_iff_denotes]
  constructor
  · rintro ⟨-, root', hroot', htoken⟩
    rcases json_cases h with hroot | ⟨hnone, -⟩
    · exact hroot'.unique hroot ▸ htoken
    · exact absurd hroot' (hnone root')
  · intro htoken
    rcases json_cases h with hroot | ⟨-, rfl⟩
    · exact ⟨hstatus, root, hroot, htoken⟩
    · cases htoken.1

end Http

namespace Export

/-- Request number `n` is answered by a response that carries a token. -/
def CursorAt (script : List Answer) (n : Nat) (token : Text) : Prop :=
  ∃ response, outcomeAt script n = .response response ∧ response.Carries token

theorem CursorAt.unique {script : List Answer} {n : Nat} {token token' : Text}
    (h : CursorAt script n token) (h' : CursorAt script n token') : token = token' := by
  obtain ⟨response, hresponse, hcarries⟩ := h
  obtain ⟨response', hresponse', hcarries'⟩ := h'
  rw [hresponse] at hresponse'
  cases hresponse'
  exact hcarries.unique hcarries'

theorem cursorAt_iff {script : List Answer} {n : Nat} {root : Json} {token : Text}
    (h : (outcomeAt script n).Brings root) :
    CursorAt script n token ↔ tokenOf root = .ok token := by
  obtain ⟨response, reply, hresponse, hreply, hok, rfl⟩ := h
  obtain ⟨hstatus, hjson⟩ := Http.Response.json_of_toReply hreply
  rw [← Http.Response.carries_iff (hstatus.symm.trans hok) hjson]
  constructor
  · rintro ⟨found, hfound, hcarries⟩
    rw [hresponse] at hfound
    cases hfound
    exact hcarries
  · intro hcarries
    exact ⟨response, hresponse, hcarries⟩

/-- The last token among those that a number of requests got. -/
def LastCursor (script : List Answer) (count : Nat) (token : Text) : Prop :=
  ∃ n < count, CursorAt script n token ∧ ∀ m, n < m → m < count → ∀ t, ¬CursorAt script m t

/-- What a run knows of cursors once a request met an outcome. `prior` is what it knew before, and
`flag` says whether it is cancelled by then. -/
inductive Learns (o : Http.Outcome) (flag : Bool) (prior : Option Text) : Option Text → Prop
  | cancelled : flag = true → Learns o flag prior prior
  | nothing : (∀ root token, o.Brings root → tokenOf root ≠ .ok token) → Learns o flag prior prior
  | token {root : Json} {token : Text} :
      flag = false → o.Brings root → tokenOf root = .ok token → Learns o flag prior (some token)

/-- What a run knew of cursors before the request that is `k` requests behind request number `n`:
the token that the request right before it got, or `token` if there was none. -/
inductive Knew (script : List Answer) (n : Nat) (token : Option Text) : Nat → Option Text → Prop
  | first : Knew script n token 0 token
  | later {m : Nat} {t : Text} : CursorAt script (n + m) t → Knew script n token (m + 1) (some t)

/-- The last request of a course, with the events before and after it, what the run knew of cursors
before it, and what it learns from it. -/
structure LastRequest (script : List Answer) (n : Nat) (cancelled : Bool) (token : Option Text)
    (out : Paging) (before : List Event) (q : Http.Request) (after : List Event)
    (prior : Option Text) : Prop where
  events_eq : out.events = before ++ .request q :: after
  last : requests after = []
  number : (requests before).length = out.batches.length
  knew : Knew script n token out.batches.length prior
  learns : Learns (outcomeAt script (n + out.batches.length))
    (flagAfter script n cancelled (before ++ [.request q])) prior out.token

section

variable {p : Plan} {script : List Answer} {n : Nat} {r : Http.Request} {token : Option Text}
  {stage : Stage} {root : Json} {fresh : Text} {ids : List Text} {out : Paging}

theorem Offer.cursorAt (h : Offer p script n stage root fresh ids) : CursorAt script n fresh :=
  (cursorAt_iff h.brings).mpr h.token_eq

theorem Knew.after {k : Nat} {prior : Option Text} (h : Knew script (n + 1) (some fresh) k prior)
    (hcursor : CursorAt script n fresh) : Knew script n token (k + 1) prior := by
  cases h with
  | first => exact .later hcursor
  | later hlater =>
      rw [Nat.add_right_comm] at hlater
      exact .later hlater

theorem LastRequest.single {after : List Event} (hevents : out.events = .request r :: after)
    (hafter : requests after = []) (hbatches : out.batches = [])
    (hlearns : Learns (outcomeAt script n) (stage.passed script n).cancelled token out.token) :
    ∃ before q after prior,
      LastRequest script n stage.cancelled token out before q after prior :=
  ⟨[], r, after, token, hevents, hafter, by rw [hbatches]; rfl, by rw [hbatches]; exact .first,
    by rw [hbatches]; exact hlearns⟩

/-- A page that is read adds its token. -/
theorem learns_of_readPage {o : Http.Outcome} {flag : Bool} {clock : Clock} (hlive : flag = false)
    (hbrings : o.Brings root) : Learns o flag token ((readPage p root clock).token.or token) := by
  rw [readPage_token]
  cases htoken : tokenOf root with
  | error fault =>
      refine .nothing fun found t hfound hok => ?_
      cases hfound.unique hbrings
      rw [htoken] at hok
      cases hok
  | ok t => exact .token hlive hbrings htoken

/-- What a course leaves of cursors is what it learns from its last request. -/
theorem Course.exists_lastRequest (h : Course p script n r token stage out) :
    ∃ before q after prior,
      LastRequest script n stage.cancelled token out before q after prior := by
  induction h with
  | @lost n r token stage f hfetch =>
      refine LastRequest.single rfl rfl rfl (.nothing fun root t hbrings _ => ?_)
      rw [Http.Request.fetch_eq_ok_iff.mpr hbrings] at hfetch
      cases hfetch
  | stopped _ hcancelled => exact LastRequest.single rfl rfl rfl (.cancelled hcancelled)
  | faulty hbrings hlive _ =>
      exact LastRequest.single rfl rfl rfl (learns_of_readPage hlive hbrings)
  | complete hbrings hlive _ =>
      exact LastRequest.single rfl rfl rfl (learns_of_readPage hlive hbrings)
  | refused hoffer _ =>
      exact LastRequest.single rfl (requests_puts _) rfl
        (.token hoffer.live hoffer.brings hoffer.token_eq)
  | @next n r token stage root fresh ids rest hoffer _ _ ih =>
      obtain ⟨before, q, after, prior, hrest⟩ := ih
      have hnumber : n + 1 + rest.batches.length = n + (rest.batches.length + 1) := by omega
      refine ⟨.request r :: ((offered p stage ids).attempts.map .put ++ before), q, after, prior,
        ?_, hrest.last, ?_, ?_, ?_⟩
      · simp [Paging.after, hrest.events_eq]
      · simp [Paging.after, hrest.number]
      · rw [Paging.after_one_length]
        exact hrest.knew.after hoffer.cursorAt
      · have hlearns := hrest.learns
        rw [hnumber, ← hoffer.flagAfter_eq r] at hlearns
        rw [Paging.after_one_length, Paging.after_token]
        simpa only [List.cons_append, List.append_assoc] using hlearns

end

namespace Learns

variable {script : List Answer} {k : Nat} {flag : Bool} {prior got : Option Text} {token : Text}

/-- Who does not look at a response knows what was known before. -/
theorem unread (h : Learns (outcomeAt script k) flag prior got)
    (hunread : flag = true ∨ ∀ root, ¬(outcomeAt script k).Brings root) : got = prior := by
  cases h with
  | cancelled _ => rfl
  | nothing _ => rfl
  | token hlive hbrings _ =>
      rcases hunread with hset | hnone
      · rw [hlive] at hset
        cases hset
      · exact absurd hbrings (hnone _)

/-- A response without a token changes nothing. -/
theorem tokenless (h : Learns (outcomeAt script k) flag prior got)
    (hnone : ∀ t, ¬CursorAt script k t) : got = prior := by
  cases h with
  | cancelled _ => rfl
  | nothing _ => rfl
  | token _ hbrings htoken => exact absurd ((cursorAt_iff hbrings).mpr htoken) (hnone _)

/-- The token of a response is known, unless nobody looks at the response. -/
theorem known_or_unread (h : Learns (outcomeAt script k) flag prior got)
    (hcursor : CursorAt script k token) :
    got = some token ∨ flag = true ∨ ∀ root, ¬(outcomeAt script k).Brings root := by
  cases h with
  | cancelled hset => exact Or.inr (Or.inl hset)
  | nothing hnothing =>
      exact Or.inr (Or.inr fun root hbrings =>
        hnothing root token hbrings ((cursorAt_iff hbrings).mp hcursor))
  | token _ hbrings htoken =>
      cases hcursor.unique ((cursorAt_iff hbrings).mpr htoken)
      exact Or.inl rfl

/-- The last cursor of a run is named at its end, unless nobody looked at it and the one before it
goes by another name. -/
theorem names_last_iff {α : Type} (h : Learns (outcomeAt script k) flag prior got)
    (hknew : Knew script 0 none k prior) (name : Text → α) :
    (∀ token, LastCursor script (k + 1) token → got.toList.map name = [name token]) ↔
      ¬∃ token, CursorAt script k token ∧
        (flag = true ∨ ∀ root, ¬(outcomeAt script k).Brings root) ∧
        ∀ m t, m + 1 = k → CursorAt script m t → name t ≠ name token := by
  constructor
  · rintro hnamed ⟨token, hcursor, hunread, hother⟩
    have hlast := hnamed token ⟨k, Nat.lt_succ_self k, hcursor, fun m hlt hle => by omega⟩
    rw [h.unread hunread] at hlast
    cases hknew with
    | first => cases hlast
    | @later m t hbefore =>
        rw [Nat.zero_add] at hbefore
        exact hother m t rfl hbefore (List.cons.inj hlast).1
  · rintro hseen token ⟨n, hn, hcursor, hlatest⟩
    rcases Nat.lt_succ_iff_lt_or_eq.mp hn with hlt | rfl
    · -- the last response has no token, so the one before it has the last one
      rw [h.tokenless (hlatest k hlt (Nat.lt_succ_self k))]
      cases hknew with
      | first => cases hlt
      | @later m t hbefore =>
          rw [Nat.zero_add] at hbefore
          rcases Nat.lt_or_eq_of_le (Nat.le_of_lt_succ hlt) with hearlier | rfl
          · exact absurd hbefore (hlatest m hearlier (by omega) t)
          · rw [hcursor.unique hbefore]
            rfl
    · rcases h.known_or_unread hcursor with rfl | hunread
      · rfl
      · rw [h.unread hunread]
        refine Classical.byContradiction fun hne =>
          hseen ⟨token, hcursor, hunread, fun m t hm hbefore hsame => hne ?_⟩
        cases hknew with
        | first => cases hm
        | @later m' t' hbefore' =>
            rw [Nat.zero_add] at hbefore'
            cases hm
            rw [← hbefore.unique hbefore', ← hsame]
            rfl

end Learns

theorem last_post_unique {q q' : Http.Request} {before before' after after' : List Event}
    (h : before ++ .request q :: after = before' ++ .request q' :: after')
    (hq : q.method = .post) (hq' : q'.method = .post) (hafter : posts after = [])
    (hafter' : posts after' = []) : before = before' ∧ q = q' := by
  have hfirst {q q' : Http.Request} {mid after after' : List Event}
      (h : .request q :: after = mid ++ .request q' :: after') (hq' : q'.method = .post)
      (hafter : posts after = []) : mid = [] := by
    cases mid with
    | nil => rfl
    | cons event mid =>
        obtain ⟨-, rfl⟩ := List.cons.inj h
        simp [posts, hq'] at hafter
  rcases List.append_eq_append_iff.mp h with ⟨mid, rfl, hrest⟩ | ⟨mid, rfl, hrest⟩
  · obtain rfl := hfirst hrest hq' hafter
    cases hrest
    exact ⟨(List.append_nil before).symm, rfl⟩
  · obtain rfl := hfirst hrest hq hafter'
    cases hrest
    exact ⟨List.append_nil before', rfl⟩

/-- The last request of the paging of a run is its last POST. -/
theorem LastRequest.last_post {x : Exporter} {supply : Supply} {before after : List Event}
    {q : Http.Request} {prior : Option Text}
    (h : LastRequest supply.answers 0 x.cancelled none (x.paging supply) before q after prior) :
    q.method = .post ∧ ∃ later, posts later = [] ∧
      (x.run supply).events = before ++ .request q :: later := by
  have hmem : q ∈ requests (x.paging supply).events := by
    rw [h.events_eq, requests_append, requests_request]
    exact List.mem_append_right _ List.mem_cons_self
  have hafter : posts after = [] := by
    unfold posts
    rw [h.last]
    rfl
  refine ⟨Exporter.paging_method hmem, after ++ ((x.clearRequests supply).map .request ++
    (x.closingAttempts supply).map .put), ?_, ?_⟩
  · rw [posts_append, hafter, Exporter.posts_tail]
    rfl
  · rw [x.run_events, h.events_eq, List.append_assoc, List.cons_append]

/-- A run overlooks its last cursor: the response to the last POST carries a token, but by then the
run is cancelled or no reply can be made of the response, and the response before it carries no
token that the same DELETE would name. -/
def Overlooks (x : Exporter) (script : List Answer) (events : List Event) : Prop :=
  ∃ before q after, events = before ++ .request q :: after ∧ q.method = .post ∧ posts after = [] ∧
    ∃ token, CursorAt script (requests before).length token ∧
      (flagAfter script 0 x.cancelled (before ++ [.request q]) = true ∨
        ∀ root, ¬(outcomeAt script (requests before).length).Brings root) ∧
      ∀ m t, m + 1 = (requests before).length → CursorAt script m t →
        x.plan.clearRequest t ≠ x.plan.clearRequest token

/-- The POSTs of a run are its first requests. If one of them got a token, the run sends one DELETE,
which names the last of these tokens, exactly if it does not overlook it. -/
theorem run_gives_up_cursor_iff (x : Exporter) (supply : Supply) :
    requests (x.run supply).events = posts (x.run supply).events ++ deletes (x.run supply).events ∧
      ((∀ token, LastCursor supply.answers (posts (x.run supply).events).length token →
          deletes (x.run supply).events = [⟨.delete, x.plan.engineRoot ++ "_search/scroll",
            some (Json.object [("scroll_id", .array [.string token])]).text,
            some "application/json"⟩]) ↔
        ¬Overlooks x supply.answers (x.run supply).events) := by
  have hcourse := x.paging_course supply
  obtain ⟨before, q, after, prior, hlast⟩ := hcourse.exists_lastRequest
  obtain ⟨hpost, later, hlater, hevents⟩ := hlast.last_post
  have hlearns := hlast.learns
  rw [Nat.zero_add] at hlearns
  refine ⟨by rw [Exporter.posts_run, Exporter.deletes_run, x.run_requests], ?_⟩
  rw [Exporter.deletes_run, Exporter.posts_run, hcourse.requests_length]
  refine (hlearns.names_last_iff hlast.knew x.plan.clearRequest).trans (not_congr ?_)
  constructor
  · rintro ⟨token, hcursor, hunread, hother⟩
    refine ⟨before, q, later, hevents, hpost, hlater, token, ?_⟩
    rw [hlast.number]
    exact ⟨hcursor, hunread, hother⟩
  · rintro ⟨before', q', after', hsplit, hpost', hafter', token, hoverlooked⟩
    obtain ⟨rfl, rfl⟩ := last_post_unique (hevents.symm.trans hsplit) hpost hpost' hlater hafter'
    rw [hlast.number] at hoverlooked
    exact ⟨token, hoverlooked⟩

/-- The answer to a run that is stopped while it opens its cursor. -/
def stoppedSupply : Supply := ⟨[{ emptyPage with cancels := true }], [], .start⟩

/-- A run that is stopped while it opens its cursor gets a token and gives up nothing. -/
theorem cursor_kept_by_stopped_run :
    LastCursor stoppedSupply.answers (posts (sampleExporter.run stoppedSupply).events).length "t" ∧
      (sampleExporter.run stoppedSupply).fault = none ∧
      deletes (sampleExporter.run stoppedSupply).events = [] := by
  have hposts : (posts (sampleExporter.run stoppedSupply).events).length = 1 := by decide +kernel
  have hfetch : (sampleExporter.plan.openRequest.fetch
      (outcomeAt stoppedSupply.answers 0)).toOption =
        some (.object [("_scroll_id", .string "t"), ("hits", .object [("hits", .array [])])]) := by
    decide +kernel
  have hcursor : CursorAt stoppedSupply.answers 0 "t" :=
    (cursorAt_iff (Http.Request.brings_of_toOption hfetch)).mpr rfl
  rw [hposts]
  exact ⟨⟨0, Nat.zero_lt_one, hcursor, fun m hlt hle => by omega⟩, by decide +kernel,
    by decide +kernel⟩

end Export

end SearchBridge
