import SearchBridge.Proofs.Course
import SearchBridge.Proofs.Events
/-!
What the events of a course are.

Every course is one request more than the batches that it gets accepted, and each request but the
first follows the acceptance of the batch of the page before it, with the token of that page. A
course depends on the answers to its own requests and on no others.
-/

namespace SearchBridge

namespace Export

/-- Two scripts have the same answer to request number `n`. -/
def AnsweredAlike (script script' : List Answer) (n : Nat) : Prop :=
  outcomeAt script n = outcomeAt script' n ∧ cancelsAt script n = cancelsAt script' n

theorem AnsweredAlike.passed {script script' : List Answer} {n : Nat}
    (h : AnsweredAlike script script' n) (stage : Stage) :
    stage.passed script n = stage.passed script' n := by
  rw [Stage.passed, Stage.passed, h.2]

theorem AnsweredAlike.offer {p : Plan} {script script' : List Answer} {n : Nat} {stage : Stage}
    {root : Json} {fresh : Text} {ids : List Text} (h : AnsweredAlike script script' n)
    (hoffer : Offer p script n stage root fresh ids) :
    Offer p script' n stage root fresh ids :=
  ⟨h.1 ▸ hoffer.brings, h.passed stage ▸ hoffer.live, hoffer.ids_eq, hoffer.filled,
    hoffer.token_eq⟩

/-- Request number `n` is answered by a page with this token. -/
def TokenAt (script : List Answer) (n : Nat) (token : Text) : Prop :=
  ∃ root, (outcomeAt script n).Brings root ∧ root.field? "_scroll_id" = some (.string token)

/-- Request number `n` is answered by a page whose hits have these ids. -/
def BatchAt (p : Plan) (script : List Answer) (n : Nat) (batch : IdSet) : Prop :=
  ∃ root reply, (outcomeAt script n).Brings root ∧
    SearchReply.ofLookup root p.idField = .ok reply ∧ batch = IdSet.ofList reply.ids

/-- A request continues after request number `m`: it carries the token of the page that answered
that one, and the last event before it is the acceptance of the batch of the same page. -/
structure Continues (p : Plan) (script : List Answer) (m : Nat) (before : List Event)
    (q : Http.Request) : Prop where
  cursor : ∃ token, TokenAt script m token ∧ q = ⟨.post, p.engineRoot ++ "_search/scroll",
    some (Json.object [("scroll", p.continuation), ("scroll_id", .string token)]).text,
    some "application/json"⟩
  acceptance : ∃ earlier a batch, before = earlier ++ [.put a] ∧ a.action.accepts = true ∧
    a.item = .batch batch ∧ BatchAt p script m batch

theorem Continues.prepend {p : Plan} {script : List Answer} {m : Nat} {before : List Event}
    {q : Http.Request} (h : Continues p script m before q) (events : List Event) :
    Continues p script m (events ++ before) q := by
  obtain ⟨earlier, a, batch, hbefore, hrest⟩ := h.acceptance
  exact ⟨h.cursor, events ++ earlier, a, batch, by rw [hbefore, List.append_assoc], hrest⟩

section

variable {p : Plan} {script : List Answer} {n : Nat} {r : Http.Request} {token : Option Text}
  {stage : Stage} {root : Json} {fresh : Text} {ids : List Text} {out : Paging}

theorem Offer.tokenAt (h : Offer p script n stage root fresh ids) : TokenAt script n fresh :=
  ⟨root, h.brings, (tokenOf_eq_ok_iff.mp h.token_eq).1⟩

theorem Offer.batchAt (h : Offer p script n stage root fresh ids) :
    BatchAt p script n (IdSet.ofList ids) := by
  obtain ⟨_, reply, -, -, hreply, hids⟩ := readPage_ids h.ids_eq
  exact ⟨root, reply, h.brings, hreply, by rw [hids]⟩

/-- A token that a page adds is the one that it brings. -/
theorem tokenAt_of_readPage {clock : Clock} {t : Text}
    (hbrings : (outcomeAt script n).Brings root)
    (h : (readPage p root clock).token.or token = some t) :
    token = some t ∨ TokenAt script n t := by
  rw [readPage_token] at h
  cases htoken : tokenOf root with
  | error fault =>
      rw [htoken] at h
      exact Or.inl h
  | ok found =>
      rw [htoken] at h
      cases h
      exact Or.inr ⟨root, hbrings, (tokenOf_eq_ok_iff.mp htoken).1⟩

namespace Course

theorem head (h : Course p script n r token stage out) :
    ∃ events, out.events = .request r :: events := by
  cases h with
  | lost _ => exact ⟨_, rfl⟩
  | stopped _ _ => exact ⟨_, rfl⟩
  | faulty _ _ _ => exact ⟨_, rfl⟩
  | complete _ _ _ => exact ⟨_, rfl⟩
  | refused _ _ => exact ⟨_, rfl⟩
  | next _ _ _ => exact ⟨_, rfl⟩

theorem published_eq (h : Course p script n r token stage out) :
    published out.events = out.batches.map .batch := by
  induction h with
  | lost _ => rfl
  | stopped _ _ => rfl
  | faulty _ _ _ => rfl
  | complete _ _ _ => rfl
  | refused _ haccepted =>
      unfold offered at haccepted ⊢
      simp [acceptedItems_publish, haccepted]
  | next _ haccepted _ ih =>
      unfold offered at haccepted ⊢
      simp [Paging.after, acceptedItems_publish, haccepted, ih]

/-- A course sends one request more than it gets batches accepted. -/
theorem requests_length (h : Course p script n r token stage out) :
    (requests out.events).length = out.batches.length + 1 := by
  induction h with
  | lost _ => rfl
  | stopped _ _ => rfl
  | faulty _ _ _ => rfl
  | complete _ _ _ => rfl
  | refused _ _ => simp
  | next _ _ _ ih => simp [Paging.after, ih]

theorem answers_eq (h : Course p script n r token stage out) :
    out.answers = script.drop (n + out.batches.length + 1) := by
  induction h with
  | lost _ => rfl
  | stopped _ _ => rfl
  | faulty _ _ _ => rfl
  | complete _ _ _ => rfl
  | refused _ _ => rfl
  | next _ _ _ ih =>
      simp only [Paging.after, ih, List.length_append, List.length_singleton]
      congr 1
      omega

theorem method_eq (h : Course p script n r token stage out) (hr : r.method = .post) :
    ∀ q ∈ requests out.events, q.method = .post := by
  induction h with
  | lost _ => simpa using hr
  | stopped _ _ => simpa using hr
  | faulty _ _ _ => simpa using hr
  | complete _ _ _ => simpa using hr
  | refused _ _ => simpa using hr
  | next _ _ _ ih =>
      intro q hq
      simp only [Paging.after, List.cons_append, requests_request, requests_append, requests_puts,
        List.nil_append, List.mem_cons] at hq
      rcases hq with rfl | hq
      · exact hr
      · exact ih rfl q hq

theorem attempt_item (h : Course p script n r token stage out) :
    ∀ a ∈ attempts out.events, ∃ batch, a.item = .batch batch := by
  induction h with
  | lost _ => simp
  | stopped _ _ => simp
  | faulty _ _ _ => simp
  | complete _ _ _ => simp
  | refused _ _ =>
      intro a ha
      simp only [attempts_request, attempts_puts] at ha
      exact ⟨_, (attempt_of_publish ha).1⟩
  | next _ _ _ ih =>
      intro a ha
      simp only [Paging.after, List.cons_append, attempts_request, attempts_append, attempts_puts,
        List.mem_append] at ha
      rcases ha with ha | ha
      · exact ⟨_, (attempt_of_publish ha).1⟩
      · exact ih a ha

/-- What a course publishes are sets with something in them, and no blank id among it. -/
theorem batches_filled (h : Course p script n r token stage out) :
    ∀ batch ∈ out.batches,
      batch.toList ≠ [] ∧ ∀ id ∈ batch.toList, Text.isBlank id = false := by
  induction h with
  | lost _ => simp
  | stopped _ _ => simp
  | faulty _ _ _ => simp
  | complete _ _ _ => simp
  | refused _ _ => simp
  | next hoffer _ _ ih =>
      intro batch hbatch
      rcases List.mem_append.mp hbatch with hhere | hlater
      · rw [List.mem_singleton.mp hhere]
        obtain ⟨_, hits, -, hids⟩ := readPage_hits hoffer.ids_eq
        refine ⟨mt IdSet.toList_ofList_eq_nil.mp hoffer.filled, fun id hid => ?_⟩
        obtain ⟨hit, -, rfl, htakes⟩ := (hids id).mp (IdSet.mem_ofList.mp hid)
        exact htakes
      · exact ih batch hlater

/-- The token that a course leaves is the one from before it, or one of its requests brought it. -/
theorem token_seen (h : Course p script n r token stage out) {t : Text} (ht : out.token = some t) :
    token = some t ∨ ∃ m, m ≤ out.batches.length ∧ TokenAt script (n + m) t := by
  induction h with
  | lost _ => exact Or.inl ht
  | stopped _ _ => exact Or.inl ht
  | faulty hbrings _ _ =>
      rcases tokenAt_of_readPage hbrings ht with hbefore | hnow
      · exact Or.inl hbefore
      · exact Or.inr ⟨0, Nat.zero_le _, hnow⟩
  | complete hbrings _ _ =>
      rcases tokenAt_of_readPage hbrings ht with hbefore | hnow
      · exact Or.inl hbefore
      · exact Or.inr ⟨0, Nat.zero_le _, hnow⟩
  | refused hoffer _ =>
      cases ht
      exact Or.inr ⟨0, Nat.zero_le _, hoffer.tokenAt⟩
  | @next n _ _ _ _ _ _ rest hoffer _ _ ih =>
      rcases ih ht with hbefore | ⟨m, hm, hlater⟩
      · cases hbefore
        exact Or.inr ⟨0, Nat.zero_le _, hoffer.tokenAt⟩
      · refine Or.inr ⟨m + 1, ?_, ?_⟩
        · simp only [Paging.after, List.length_append, List.length_singleton]
          omega
        · rw [← Nat.add_right_comm] at hlater
          exact hlater

/-- A request that is not the first one continues after the one before it. -/
theorem continues (h : Course p script n r token stage out) {q : Http.Request}
    {before after : List Event} (hsplit : out.events = before ++ .request q :: after)
    (hne : before ≠ []) :
    ∃ m, (requests before).length = m + 1 ∧ Continues p script (n + m) before q := by
  induction h generalizing before with
  | lost _ => exact absurd (split_single hsplit) hne
  | stopped _ _ => exact absurd (split_single hsplit) hne
  | faulty _ _ _ => exact absurd (split_single hsplit) hne
  | complete _ _ _ => exact absurd (split_single hsplit) hne
  | refused _ _ =>
      obtain ⟨mid, rfl, hmid⟩ := split_first hsplit hne
      exact absurd hmid not_split_puts
  | @next n r _ stage root fresh ids rest hoffer haccepted hrest ih =>
      obtain ⟨_, rfl, hmid⟩ := split_first hsplit hne
      obtain ⟨mid, rfl, hevents⟩ := split_puts hmid
      cases mid with
      | nil =>
          -- the first request of the rest, right after the batch of this page
          obtain ⟨events, hhead⟩ := hrest.head
          rw [hhead] at hevents
          cases hevents
          refine ⟨0, by simp, ⟨fresh, hoffer.tokenAt, rfl⟩, ?_⟩
          obtain ⟨full, last, hattempts, hitem, hlast⟩ :
              ∃ full last, (offered p stage ids).attempts = full ++ [last] ∧
                last.item = .batch (IdSet.ofList ids) ∧ last.action.accepts = true :=
            attempts_of_accepted haccepted
          refine ⟨.request r :: full.map .put, last, _, ?_, hlast, hitem, hoffer.batchAt⟩
          simp [hattempts]
      | cons event mid =>
          obtain ⟨m, hm, hcontinues⟩ := ih hevents (List.cons_ne_nil event mid)
          refine ⟨m + 1, by simp [hm], ?_⟩
          have hnumber : n + 1 + m = n + (m + 1) := by omega
          rw [hnumber] at hcontinues
          exact hcontinues.prepend (.request r :: (offered p stage ids).attempts.map .put)

/-- A course depends on no answers but the ones that it uses. -/
theorem congr (h : Course p script n r token stage out) {script' : List Answer}
    (halike : ∀ m, n ≤ m → m ≤ n + out.batches.length → AnsweredAlike script script' m) :
    Course p script' n r token stage
      { out with answers := script'.drop (n + out.batches.length + 1) } := by
  induction h with
  | lost hfetch =>
      have hhere := halike _ (Nat.le_refl _) (Nat.le_add_right _ _)
      rw [hhere.1] at hfetch ⊢
      rw [hhere.passed]
      exact .lost hfetch
  | stopped hbrings hcancelled =>
      have hhere := halike _ (Nat.le_refl _) (Nat.le_add_right _ _)
      rw [hhere.1] at hbrings
      rw [hhere.passed] at hcancelled ⊢
      exact .stopped hbrings hcancelled
  | faulty hbrings hlive hids =>
      have hhere := halike _ (Nat.le_refl _) (Nat.le_add_right _ _)
      rw [hhere.1] at hbrings
      rw [hhere.passed] at hlive
      exact .faulty hbrings hlive hids
  | complete hbrings hlive hids =>
      have hhere := halike _ (Nat.le_refl _) (Nat.le_add_right _ _)
      rw [hhere.1] at hbrings
      rw [hhere.passed] at hlive
      exact .complete hbrings hlive hids
  | refused hoffer haccepted =>
      have hhere := halike _ (Nat.le_refl _) (Nat.le_add_right _ _)
      exact .refused (hhere.offer hoffer) haccepted
  | @next n _ _ _ _ _ ids rest hoffer haccepted _ ih =>
      rw [Paging.after_one_length] at halike ⊢
      have hhere := halike n (Nat.le_refl n) (Nat.le_add_right _ _)
      have hrest := ih fun m hfrom hto => halike m (by omega) (by omega)
      rw [Nat.add_right_comm n 1, Nat.add_assoc n] at hrest
      exact .next (hhere.offer hoffer) haccepted hrest

end Course

end

end Export

end SearchBridge
