import SearchBridge.Proofs.Run
/-!
A full queue makes a run try again, and that is all.

Two runs that are alike but for what their attempts meet do the same, in the same order, if no
attempt cancels: they differ in the attempts that met a full queue.
-/

namespace SearchBridge

namespace Export

/-- Whether an event is something else than an attempt on a full queue. -/
def Event.isSettled : Event → Bool
  | .request _ => true
  | .put a => a.action.accepts

theorem settled_puts (l : List (Attempt Item)) :
    (l.map Event.put).filter Event.isSettled = (l.filter (·.action.accepts)).map .put := by
  rw [List.filter_map]
  rfl

/-- Paging that differs in attempts on a full queue and in what is left for later attempts. -/
structure Paging.Alike (o o' : Paging) : Prop where
  events : o'.events.filter Event.isSettled = o.events.filter Event.isSettled
  batches : o'.batches = o.batches
  ending : o'.ending = o.ending
  log : o'.log = o.log
  token : o'.token = o.token
  clock : o'.stage.clock = o.stage.clock
  cancelled : o'.stage.cancelled = o.stage.cancelled
  answers : o'.answers = o.answers
  puts : NoneCancels o.stage.puts
  puts' : NoneCancels o'.stage.puts

theorem Paging.Alike.after {o o' : Paging} (h : o.Alike o') {events events' : List Event}
    (hevents : events'.filter Event.isSettled = events.filter Event.isSettled)
    (batches : List IdSet) : (o.after events batches).Alike (o'.after events' batches) where
  events := by simp only [Paging.after, List.filter_append, hevents, h.events]
  batches := by simp only [Paging.after, h.batches]
  ending := h.ending
  log := h.log
  token := h.token
  clock := h.clock
  cancelled := h.cancelled
  answers := h.answers
  puts := h.puts
  puts' := h.puts'

theorem offered_uncancelled (p : Plan) (stage : Stage) (ids : List Text)
    (h : NoneCancels stage.puts) :
    (offered p stage ids).accepted = true ∧ (offered p stage ids).cancelled = some false ∧
      NoneCancels (offered p stage ids).rest ∧
      (offered p stage ids).attempts.filter (·.action.accepts) =
        [⟨.batch (IdSet.ofList ids), p.enqueueTimeout, ⟨false, true⟩⟩] :=
  publish_uncancelled _ _ h

/-- What the attempts meet makes no difference to a course but in attempts on a full queue. -/
theorem Course.other_puts {p : Plan} {script : List Answer} {n : Nat} {r : Http.Request}
    {token : Option Text} {stage : Stage} {out : Paging}
    (h : Course p script n r token stage out) (hputs : NoneCancels stage.puts)
    {puts : List PutAction} (hputs' : NoneCancels puts) :
    ∃ out', Course p script n r token { stage with puts := puts } out' ∧ out.Alike out' := by
  induction h generalizing puts with
  | lost hfetch =>
      exact ⟨_, .lost hfetch, rfl, rfl, rfl, rfl, rfl, rfl, rfl, rfl, hputs, hputs'⟩
  | stopped hbrings hcancelled =>
      exact ⟨_, .stopped hbrings hcancelled, rfl, rfl, rfl, rfl, rfl, rfl, rfl, rfl, hputs, hputs'⟩
  | faulty hbrings hlive hids =>
      exact ⟨_, .faulty hbrings hlive hids, rfl, rfl, rfl, rfl, rfl, rfl, rfl, rfl, hputs, hputs'⟩
  | complete hbrings hlive hids =>
      exact ⟨_, .complete hbrings hlive hids, rfl, rfl, rfl, rfl, rfl, rfl, rfl, rfl, hputs, hputs'⟩
  | refused _ hrefused =>
      rw [(offered_uncancelled _ _ _ hputs).1] at hrefused
      cases hrefused
  | @next n r token stage root fresh ids rest hoffer haccepted _ ih =>
      obtain ⟨-, hflag, hleft, hsettled⟩ := offered_uncancelled p stage ids hputs
      obtain ⟨haccepted', hflag', hleft', hsettled'⟩ :=
        offered_uncancelled p { stage with puts := puts } ids hputs'
      have hoffer' : Offer p script n { stage with puts := puts } root fresh ids :=
        ⟨hoffer.brings, hoffer.live, hoffer.ids_eq, hoffer.filled, hoffer.token_eq⟩
      obtain ⟨rest', hrest', halike⟩ := ih hleft hleft'
      have hstage : Stage.published { stage with puts := puts } p root ids =
          { stage.published p root ids with
            puts := (offered p { stage with puts := puts } ids).rest } := by
        simp only [Stage.published, hflag, hflag']
      rw [← hstage] at hrest'
      refine ⟨_, .next hoffer' haccepted' hrest', halike.after ?_ _⟩
      simp only [List.filter_cons, settled_puts, hsettled, hsettled']

namespace Exporter

variable {x : Exporter} {supply : Supply}

theorem paging_other_puts (hputs : NoneCancels supply.puts) {puts : List PutAction}
    (hputs' : NoneCancels puts) :
    (x.paging supply).Alike (x.paging { supply with puts := puts }) := by
  obtain ⟨out, hcourse, halike⟩ := (x.paging_course supply).other_puts hputs hputs'
  have heq : out = x.paging { supply with puts := puts } := hcourse.eq_send
  rw [← heq]
  exact halike

theorem clearing_other_puts (hputs : NoneCancels supply.puts) {puts : List PutAction}
    (hputs' : NoneCancels puts) :
    x.clearing { supply with puts := puts } = x.clearing supply := by
  have halike := paging_other_puts (x := x) hputs hputs'
  rw [clearing, clearing, halike.token, halike.cancelled, halike.answers]

/-- The attempts to mark the end are alike too. -/
theorem closing_other_puts (hputs : NoneCancels supply.puts) {puts : List PutAction}
    (hputs' : NoneCancels puts) :
    (x.closing { supply with puts := puts }).cancelled = (x.closing supply).cancelled ∧
      (x.closingAttempts { supply with puts := puts }).filter (·.action.accepts) =
        (x.closingAttempts supply).filter (·.action.accepts) := by
  have halike := paging_other_puts (x := x) hputs hputs'
  unfold closingAttempts closing
  rw [clearing_other_puts hputs hputs']
  cases (x.clearing supply).cancelled with
  | true => simp
  | false =>
      have hclosing := publish_uncancelled Item.endOfStream x.plan.enqueueTimeout halike.puts
      have hclosing' := publish_uncancelled Item.endOfStream x.plan.enqueueTimeout halike.puts'
      refine ⟨by rw [hclosing.2.1, hclosing'.2.1], ?_⟩
      cases (x.clearing supply).fault with
      | none => simp only [Option.isNone_none, if_true, hclosing, hclosing']
      | some fault => rfl

end Exporter

/-- What the attempts meet changes nothing about a run but its attempts on a full queue. -/
theorem run_other_puts (x : Exporter) (supply : Supply) (hputs : NoneCancels supply.puts)
    (puts : List PutAction) (hputs' : NoneCancels puts) :
    (x.run { supply with puts := puts }).exporter = (x.run supply).exporter ∧
      (x.run { supply with puts := puts }).events.filter Event.isSettled =
        (x.run supply).events.filter Event.isSettled ∧
      (x.run { supply with puts := puts }).log = (x.run supply).log ∧
      (x.run { supply with puts := puts }).fault = (x.run supply).fault := by
  have hpaging := Exporter.paging_other_puts (x := x) hputs hputs'
  have hclearing := Exporter.clearing_other_puts (x := x) hputs hputs'
  obtain ⟨hcancelled, hsettled⟩ := Exporter.closing_other_puts (x := x) hputs hputs'
  have herror : x.errorAfter { supply with puts := puts } = x.errorAfter supply := by
    rw [Exporter.errorAfter, Exporter.errorAfter, hpaging.ending]
  have hpaged : x.paged { supply with puts := puts } = x.paged supply := by
    rw [Exporter.paged, Exporter.paged, hpaging.batches, hpaging.cancelled, herror]
  have hlog : x.pagedLog { supply with puts := puts } = x.pagedLog supply := by
    rw [Exporter.pagedLog, Exporter.pagedLog, hpaging.ending, hpaging.log, hpaged]
  have hafter : x.cancelledAfter { supply with puts := puts } = x.cancelledAfter supply := by
    rw [Exporter.cancelledAfter, Exporter.cancelledAfter, hclearing, hcancelled]
  have hrequests : x.clearRequests { supply with puts := puts } = x.clearRequests supply := by
    rw [Exporter.clearRequests, Exporter.clearRequests, hpaging.token]
  rw [x.run_eq supply, x.run_eq { supply with puts := puts }, hpaged, hclearing, hlog, hafter,
    hrequests]
  refine ⟨rfl, ?_, rfl, rfl⟩
  simp only [List.filter_append, settled_puts, hpaging.events, hsettled]

end Export

end SearchBridge
