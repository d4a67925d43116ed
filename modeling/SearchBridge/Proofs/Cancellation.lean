import SearchBridge.Proofs.Backpressure
/-!
What a run does once it is cancelled.

Cancellation is set before a run, while a request is under way or at an attempt to put an item. The
flag that it sets is followed along the events of a run. Nothing is offered to the queue any more
once it is set, and what the queue accepted until then is where the run would have begun anyway.
-/

namespace SearchBridge

namespace Export

/-- Whether a run is cancelled after some of its events. Request number `n` is the first one among
them, and `flag` says whether the run was cancelled before. -/
def flagAfter (script : List Answer) : Nat → Bool → List Event → Bool
  | _, flag, [] => flag
  | n, flag, .request _ :: events => flagAfter script (n + 1) (flag || cancelsAt script n) events
  | n, flag, .put a :: events => flagAfter script n (flag || a.action.cancels) events

@[simp] theorem flagAfter_true (script : List Answer) (n : Nat) (events : List Event) :
    flagAfter script n true events = true := by
  induction events generalizing n with
  | nil => rfl
  | cons e events ih =>
      cases e with
      | request r => exact ih (n + 1)
      | put a => exact ih n

theorem flagAfter_append (script : List Answer) (n : Nat) (flag : Bool) (e₁ e₂ : List Event) :
    flagAfter script n flag (e₁ ++ e₂) =
      flagAfter script (n + (requests e₁).length) (flagAfter script n flag e₁) e₂ := by
  induction e₁ generalizing n flag with
  | nil => rfl
  | cons e e₁ ih =>
      cases e with
      | request r =>
          have hlater := ih (n + 1) (flag || cancelsAt script n)
          rwa [Nat.add_right_comm, Nat.add_assoc] at hlater
      | put a => exact ih n (flag || a.action.cancels)

@[simp] theorem flagAfter_puts (script : List Answer) (n : Nat) (flag : Bool)
    (l : List (Attempt Item)) :
    flagAfter script n flag (l.map .put) = (flag || l.any (·.action.cancels)) := by
  induction l generalizing flag with
  | nil => simp [flagAfter]
  | cons a rest ih =>
      simp only [List.map_cons, flagAfter, ih, List.any_cons, Bool.or_assoc]

/-- The answer if nothing cancels the run while it is under way. -/
def Answer.uncancelled (a : Answer) : Answer := { a with cancels := false }

theorem outcomeAt_uncancelled (script : List Answer) (n : Nat) :
    outcomeAt (script.map Answer.uncancelled) n = outcomeAt script n := by
  simp only [outcomeAt, List.head?_drop, List.getElem?_map, Option.map_map]
  rfl

theorem cancelsAt_uncancelled (script : List Answer) (n : Nat) :
    cancelsAt (script.map Answer.uncancelled) n = false := by
  simp only [cancelsAt, List.head?_drop, List.getElem?_map, Option.map_map]
  cases script[n]? <;> rfl

section

variable {p : Plan} {script : List Answer} {n : Nat} {r : Http.Request} {token : Option Text}
  {stage : Stage} {root : Json} {fresh : Text} {ids : List Text} {out : Paging}

theorem Offer.live_eq (h : Offer p script n stage root fresh ids) :
    stage.cancelled = false ∧ cancelsAt script n = false :=
  Bool.or_eq_false_iff.mp h.live

/-- A page that is published sets the flag by the attempts to put its batch. -/
theorem Offer.flagAfter_eq (h : Offer p script n stage root fresh ids) (r : Http.Request)
    (events : List Event) :
    flagAfter script n stage.cancelled
        (.request r :: ((offered p stage ids).attempts.map .put ++ events)) =
      flagAfter script (n + 1) (stage.published p root ids).cancelled events := by
  have hpublished : (stage.published p root ids).cancelled =
      (offered p stage ids).attempts.any (·.action.cancels) := by
    rw [Stage.published, offered, publish_flag]
    rfl
  rw [hpublished, flagAfter, h.live_eq.1, h.live_eq.2, flagAfter_append, flagAfter_puts,
    requests_puts]
  rfl

/-- Once the flag is set the publication of the page is over. -/
theorem Offer.split_flagged (h : Offer p script n stage root fresh ids)
    {events before after : List Event}
    (hsplit : .request r :: ((offered p stage ids).attempts.map .put ++ events) = before ++ after)
    (hflag : flagAfter script n stage.cancelled before = true) :
    ∃ mid, before = .request r :: ((offered p stage ids).attempts.map .put ++ mid) ∧
      events = mid ++ after := by
  cases before with
  | nil =>
      rw [flagAfter, h.live_eq.1] at hflag
      cases hflag
  | cons first before =>
      obtain ⟨rfl, hrest⟩ := List.cons.inj hsplit
      rcases List.append_eq_append_iff.mp hrest with ⟨mid, rfl, hevents⟩ | ⟨mid, hputs, rfl⟩
      · exact ⟨mid, rfl, hevents⟩
      · -- the flag is set within the attempts, so none of them comes after
        obtain ⟨made, left, hattempts, rfl, rfl⟩ := List.map_eq_append_iff.mp hputs
        have hset : (false || made.any (·.action.cancels)) = true := by
          simpa [flagAfter, h.live_eq] using hflag
        have hleft : left = [] := publish_flagged hattempts (congrArg some hset)
        subst hleft
        rw [hattempts, List.append_nil]
        exact ⟨[], by rw [List.append_nil], rfl⟩

namespace Course

/-- The flag that a course leaves is the one that its events set. -/
theorem flag_eq (h : Course p script n r token stage out) :
    flagAfter script n stage.cancelled out.events = out.stage.cancelled := by
  induction h with
  | lost _ => rfl
  | stopped _ _ => rfl
  | faulty _ hlive _ => exact hlive
  | complete _ hlive _ => exact hlive
  | @refused _ r _ _ _ _ _ hoffer _ =>
      have hflag := hoffer.flagAfter_eq r []
      rwa [List.append_nil] at hflag
  | @next _ r _ _ _ _ _ rest hoffer _ _ ih =>
      exact (hoffer.flagAfter_eq r rest.events).trans ih

/-- Paging is stopped by the flag only. -/
theorem cancelled_of_stopped (h : Course p script n r token stage out)
    (hstopped : out.ending = .stopped) : out.stage.cancelled = true := by
  induction h with
  | lost _ => cases hstopped
  | stopped _ hcancelled => exact hcancelled
  | faulty _ _ _ => cases hstopped
  | complete _ _ _ => cases hstopped
  | @refused n r token stage root fresh ids _ hrefused =>
      rcases publish_ends (Item.batch (IdSet.ofList ids)) p.enqueueTimeout stage.puts (some false) with
        ⟨haccepted, -⟩ | ⟨-, hcancelled, -⟩
      · have hcontrary := hrefused.symm.trans haccepted
        cases hcontrary
      · exact congrArg (Option.getD · false) hcancelled
  | next _ _ _ ih => exact ih hstopped

/-- Once a course is cancelled it offers nothing, and it sends one more request at most. -/
theorem heeds_cancellation (h : Course p script n r token stage out) {before after : List Event}
    (hsplit : out.events = before ++ after)
    (hflag : flagAfter script n stage.cancelled before = true) :
    attempts after = [] ∧ (requests after).length ≤ 1 := by
  have hsingle {q : Http.Request} {before : List Event} (hq : [.request q] = before ++ after) :
      attempts after = [] ∧ (requests after).length ≤ 1 := by
    rcases List.singleton_eq_append_iff.mp hq with ⟨-, rfl⟩ | ⟨-, rfl⟩
    · exact ⟨rfl, Nat.le_refl 1⟩
    · exact ⟨rfl, Nat.zero_le 1⟩
  induction h generalizing before with
  | lost _ => exact hsingle hsplit
  | stopped _ _ => exact hsingle hsplit
  | faulty _ _ _ => exact hsingle hsplit
  | complete _ _ _ => exact hsingle hsplit
  | @refused _ r _ stage _ _ ids hoffer _ =>
      have hpage : .request r :: ((offered p stage ids).attempts.map .put ++ []) =
          before ++ after := by rwa [List.append_nil]
      obtain ⟨mid, -, hnil⟩ := hoffer.split_flagged hpage hflag
      obtain ⟨-, rfl⟩ := List.append_eq_nil_iff.mp hnil.symm
      exact ⟨rfl, Nat.zero_le 1⟩
  | next hoffer _ _ ih =>
      obtain ⟨mid, rfl, hevents⟩ := hoffer.split_flagged hsplit hflag
      rw [hoffer.flagAfter_eq] at hflag
      exact ih hevents hflag

/-- What is published before a course is cancelled is what it publishes first if nothing
cancels it. -/
theorem batches_begin (h : Course p script n r token stage out) {token' : Option Text}
    {puts : List PutAction} (hputs : NoneCancels puts) :
    out.batches <+: (send p r token' ⟨puts, stage.clock, false⟩
      ((script.map Answer.uncancelled).drop n)).batches := by
  induction h generalizing token' puts with
  | lost _ => exact List.nil_prefix
  | stopped _ _ => exact List.nil_prefix
  | faulty _ _ _ => exact List.nil_prefix
  | complete _ _ _ => exact List.nil_prefix
  | refused _ _ => exact List.nil_prefix
  | @next n r _ stage root fresh ids rest hoffer _ _ ih =>
      have hbrings : (outcomeAt (script.map Answer.uncancelled) n).Brings root := by
        rw [outcomeAt_uncancelled]
        exact hoffer.brings
      have hpassed : Stage.passed ⟨puts, stage.clock, false⟩ (script.map Answer.uncancelled) n =
          ⟨puts, stage.clock, false⟩ := by
        rw [Stage.passed, cancelsAt_uncancelled]
        rfl
      obtain ⟨haccepted, hflag, hleft, -⟩ :=
        offered_uncancelled p ⟨puts, stage.clock, false⟩ ids hputs
      have hlive : Stage.cancelled ⟨puts, stage.clock, false⟩ = false := rfl
      rw [send_brings hbrings, hpassed,
        pages_publish hlive hoffer.ids_eq hoffer.filled hoffer.token_read, haccepted, if_pos rfl,
        Stage.published, hflag]
      exact List.cons_prefix_cons.mpr ⟨rfl, ih hleft⟩

end Course

end

namespace Exporter

variable {x : Exporter} {supply : Supply}

theorem flagAfter_clearing :
    flagAfter supply.answers (x.clearNumber supply) (x.paging supply).stage.cancelled
      ((x.clearRequests supply).map .request) = (x.clearing supply).cancelled := by
  unfold clearRequests
  cases htoken : (x.paging supply).token with
  | none =>
      rw [clearing_none htoken]
      rfl
  | some token =>
      rw [clearing_eq htoken, (clear_drop _ _ _ _ _).2.1]
      rfl

theorem flagAfter_closing (n : Nat) :
    flagAfter supply.answers n (x.clearing supply).cancelled
      ((x.closingAttempts supply).map .put) = x.cancelledAfter supply := by
  rw [flagAfter_puts]
  unfold closingAttempts cancelledAfter
  cases (x.clearing supply).fault with
  | none =>
      simp only [Option.isNone_none, if_true, closing, publish_flag]
      rfl
  | some fault => simp

/-- The end is not marked any more once the flag is set. -/
theorem closing_flagged {before after : List (Attempt Item)}
    (h : x.closingAttempts supply = before ++ after)
    (hflag : ((x.clearing supply).cancelled || before.any (·.action.cancels)) = true) :
    after = [] := by
  unfold closingAttempts closing at h
  split at h
  · exact publish_flagged h (congrArg some hflag)
  · exact (List.append_eq_nil_iff.mp h.symm).2

/-- Behind the paging of a run nothing is offered once the flag is set. -/
theorem tail_flagged {before after : List Event}
    (h : (x.clearRequests supply).map .request ++ (x.closingAttempts supply).map .put =
      before ++ after)
    (hflag : flagAfter supply.answers (x.clearNumber supply) (x.paging supply).stage.cancelled
      before = true) : attempts after = [] := by
  rcases List.append_eq_append_iff.mp h with ⟨mid, rfl, hputs⟩ | ⟨mid, hrequests, rfl⟩
  · obtain ⟨made, left, hattempts, rfl, rfl⟩ := List.map_eq_append_iff.mp hputs
    rw [flagAfter_append, flagAfter_clearing, flagAfter_puts] at hflag
    rw [closing_flagged hattempts hflag]
    rfl
  · have hset : (x.clearing supply).cancelled = true := by
      rw [← flagAfter_clearing, hrequests, flagAfter_append, hflag, flagAfter_true]
    have hnone : attempts mid = [] := by
      have hall := attempts_map (x.clearRequests supply)
      rw [hrequests, attempts_append] at hall
      exact (List.append_eq_nil_iff.mp hall).2
    have hall : x.closingAttempts supply = [] ++ x.closingAttempts supply := rfl
    have hclosing : x.closingAttempts supply = [] := closing_flagged hall (by rw [hset]; rfl)
    rw [attempts_append, hnone, hclosing]
    rfl

/-- The flag that a run leaves is the one that its events set. -/
theorem flagAfter_run :
    flagAfter supply.answers 0 x.cancelled (x.run supply).events =
      (x.run supply).exporter.cancelled := by
  have hpaging : flagAfter supply.answers 0 x.cancelled (x.paging supply).events =
      (x.paging supply).stage.cancelled := (x.paging_course supply).flag_eq
  rw [x.run_events, flagAfter_append, hpaging, requests_paging_length, Nat.zero_add,
    flagAfter_append, flagAfter_clearing, flagAfter_closing, x.run_eq]

end Exporter

/-- Once a run is cancelled, be it before the run, while a request is under way or at an attempt, it
offers nothing to the queue any more, and it sends one more POST and one DELETE at most. The batches
that the queue accepted until then are the first ones of the run that nothing cancels. -/
theorem run_heeds_cancellation (x : Exporter) (supply : Supply) :
    flagAfter supply.answers 0 x.cancelled (x.run supply).events =
        (x.run supply).exporter.cancelled ∧
      (∀ before after, (x.run supply).events = before ++ after →
        flagAfter supply.answers 0 x.cancelled before = true →
        attempts after = [] ∧ (posts after).length ≤ 1 ∧ (deletes after).length ≤ 1) ∧
      ∀ puts, NoneCancels puts → ∃ m,
        publishedBatches (x.run supply).events =
          (publishedBatches (({ x with cancelled := false } : Exporter).run
            ⟨supply.answers.map Answer.uncancelled, puts, supply.clock⟩).events).take m := by
  refine ⟨Exporter.flagAfter_run, ?_, ?_⟩
  · intro before after hsplit hflag
    have hdeletes : (deletes after).length ≤ 1 := by
      have hall : deletes (x.run supply).events = x.clearRequests supply := Exporter.deletes_run
      rw [hsplit, deletes_append] at hall
      have hone : (x.clearRequests supply).length ≤ 1 := Exporter.clearRequests_length
      rw [← hall, List.length_append] at hone
      omega
    have hposts : posts ((x.clearRequests supply).map .request ++
        (x.closingAttempts supply).map .put) = [] := Exporter.posts_tail
    have hcourse := x.paging_course supply
    rw [x.run_events] at hsplit
    rcases List.append_eq_append_iff.mp hsplit with ⟨mid, rfl, htail⟩ | ⟨mid, hpaging, rfl⟩
    · -- the flag is set behind the paging, or at its end
      rw [flagAfter_append, hcourse.flag_eq, Exporter.requests_paging_length, Nat.zero_add] at hflag
      rw [htail, posts_append] at hposts
      have hnone := (List.append_eq_nil_iff.mp hposts).2
      exact ⟨Exporter.tail_flagged htail hflag, by rw [hnone]; exact Nat.zero_le 1, hdeletes⟩
    · -- the flag is set within the paging
      obtain ⟨hattempts, hrequests⟩ := hcourse.heeds_cancellation hpaging hflag
      have hset : (x.paging supply).stage.cancelled = true := by
        rw [← hcourse.flag_eq, hpaging, flagAfter_append, hflag, flagAfter_true]
      have hrest : attempts ((x.clearRequests supply).map .request ++
          (x.closingAttempts supply).map .put) = [] :=
        Exporter.tail_flagged (List.nil_append _).symm hset
      refine ⟨?_, ?_, hdeletes⟩
      · rw [attempts_append, hattempts]
        exact hrest
      · rw [posts_append, hposts, List.append_nil]
        exact Nat.le_trans (List.length_filter_le _ _) hrequests
  · intro puts hputs
    rw [Exporter.publishedBatches_run, Exporter.publishedBatches_run]
    exact ⟨_, (List.prefix_iff_eq_take.mp ((x.paging_course supply).batches_begin hputs))⟩

end Export

end SearchBridge
