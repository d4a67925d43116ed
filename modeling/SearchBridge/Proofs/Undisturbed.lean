import SearchBridge.Proofs.Backpressure
/-!
Runs that nothing cancels and nothing breaks off.

Such a run offers its batches and then the mark of the end, one item after the other, each until the
queue accepts it. Which attempt comes next is known from how many were accepted before.
-/

namespace SearchBridge

namespace Export

/-- The attempts to put items on the queue one after the other, each until it is accepted. -/
def offers (timeout : Number) : List Item → List PutAction → List (Attempt Item)
  | [], _ => []
  | i :: items, met =>
    (publish i timeout (some false) met).attempts ++
      offers timeout items (publish i timeout (some false) met).rest

def acceptedCount (met : List PutAction) : Nat := met.countP (·.accepts)

theorem acceptedCount_concat (met : List PutAction) (accepts : Bool) :
    acceptedCount (met ++ [⟨false, accepts⟩]) = acceptedCount met + accepts.toNat := by
  cases accepts <;> simp [acceptedCount]

theorem offers_cons (timeout : Number) (i : Item) (items : List Item) {a : PutAction}
    {met : List PutAction} (h : a.cancels = false) :
    offers timeout (i :: items) (a :: met) =
      ⟨i, timeout, a⟩ ::
        if a.accepts then offers timeout items met else offers timeout (i :: items) met := by
  rw [offers, publish_cons, h]
  cases a.accepts with
  | true => rfl
  | false => rfl

/-- After some attempts the first item that was not accepted yet is offered. -/
theorem offers_next (timeout : Number) (items : List Item) {met : List PutAction}
    (h : NoneCancels met) :
    (offers timeout items met)[met.length]? =
      items[acceptedCount met]?.map (⟨·, timeout, ⟨false, true⟩⟩) := by
  induction met generalizing items with
  | nil =>
      cases items with
      | nil => rfl
      | cons i items => simp [offers, acceptedCount]
  | cons a met ih =>
      obtain ⟨hfirst, hrest⟩ := h.of_cons
      cases items with
      | nil => simp [offers]
      | cons i items =>
          rw [offers_cons timeout i items hfirst, List.length_cons, List.getElem?_cons_succ]
          cases haccepts : a.accepts with
          | true =>
              have hcount : acceptedCount (a :: met) = acceptedCount met + 1 :=
                List.countP_cons_of_pos haccepts
              rw [if_pos rfl, hcount, List.getElem?_cons_succ]
              exact ih items hrest
          | false =>
              have hcount : acceptedCount (a :: met) = acceptedCount met :=
                List.countP_cons_of_neg (by simp [haccepts])
              rw [if_neg Bool.false_ne_true, hcount]
              exact ih (i :: items) hrest

/-- A course offers its batches, and what comes after it meets the actions that it leaves. -/
theorem Course.attempts_eq {p : Plan} {script : List Answer} {n : Nat} {r : Http.Request}
    {token : Option Text} {stage : Stage} {out : Paging}
    (h : Course p script n r token stage out) (hputs : NoneCancels stage.puts)
    (items : List Item) :
    attempts out.events ++ offers p.enqueueTimeout items out.stage.puts =
      offers p.enqueueTimeout (out.batches.map .batch ++ items) stage.puts := by
  induction h with
  | lost _ => rfl
  | stopped _ _ => rfl
  | faulty _ _ _ => rfl
  | complete _ _ _ => rfl
  | refused _ hrefused =>
      rw [(offered_uncancelled _ _ _ hputs).1] at hrefused
      cases hrefused
  | next _ _ _ ih =>
      have hlater := ih (offered_uncancelled _ _ _ hputs).2.2.1
      simp only [Paging.after, List.cons_append, attempts_request, attempts_append, attempts_puts,
        List.append_assoc, List.map_cons, List.nil_append, hlater]
      rfl

/-- Nothing cancels the run of an exporter, and giving the cursor up does not break it off. -/
structure Undisturbed (x : Exporter) (supply : Supply) : Prop where
  live : (x.clearing supply).cancelled = false
  puts : NoneCancels supply.puts
  fault : (x.clearing supply).fault = none

namespace Undisturbed

variable {x : Exporter} {supply : Supply}

/-- What an undisturbed run puts on the queue. -/
def items (x : Exporter) (supply : Supply) : List Item :=
  (x.paging supply).batches.map .batch ++ [.endOfStream]

theorem other_puts (h : Undisturbed x supply) {puts : List PutAction} (hputs : NoneCancels puts) :
    Undisturbed x { supply with puts := puts } := by
  have hclearing := Exporter.clearing_other_puts (x := x) h.puts hputs
  exact ⟨hclearing ▸ h.live, hputs, hclearing ▸ h.fault⟩

theorem items_other_puts (h : Undisturbed x supply) {puts : List PutAction}
    (hputs : NoneCancels puts) : items x { supply with puts := puts } = items x supply := by
  rw [items, items, (Exporter.paging_other_puts (x := x) h.puts hputs).batches]

theorem attempts_eq (h : Undisturbed x supply) :
    attempts (x.run supply).events =
      offers x.plan.enqueueTimeout (items x supply) supply.puts := by
  have hclosing : x.closingAttempts supply =
      offers x.plan.enqueueTimeout [.endOfStream] (x.paging supply).stage.puts := by
    rw [Exporter.closingAttempts, h.fault, Exporter.closing, h.live]
    simp [offers]
  rw [x.run_events, attempts_append, attempts_append, attempts_map, attempts_puts,
    List.nil_append, hclosing]
  exact (x.paging_course supply).attempts_eq h.puts [.endOfStream]

theorem published_eq (h : Undisturbed x supply) :
    published (x.run supply).events = items x supply := by
  have hleft := (Exporter.paging_other_puts (x := x) h.puts h.puts).puts
  have hclosing : acceptedItems (x.closingAttempts supply) = [.endOfStream] := by
    rw [Exporter.closingAttempts, h.fault, Exporter.closing, h.live, acceptedItems]
    simp only [Option.isNone_none, if_true, publish_uncancelled _ _ hleft, List.map_cons,
      List.map_nil]
  rw [x.run_published, (x.paging_course supply).published_eq, hclosing, items]

theorem cancelled_eq (h : Undisturbed x supply) : (x.run supply).exporter.cancelled = false := by
  have hleft := (Exporter.paging_other_puts (x := x) h.puts h.puts).puts
  rw [x.run_eq]
  simp [Exporter.cancelledAfter, h.fault, Exporter.closing, h.live, publish_uncancelled _ _ hleft]

/-- The attempt that comes next offers the first item that is not accepted yet. -/
theorem next_eq (h : Undisturbed x supply) {met : List PutAction} (hmet : NoneCancels met) :
    (attempts (x.run { supply with puts := met }).events)[met.length]? =
      (items x supply)[acceptedCount met]?.map
        (⟨·, x.plan.enqueueTimeout, ⟨false, true⟩⟩) := by
  rw [(h.other_puts hmet).attempts_eq, h.items_other_puts hmet]
  exact offers_next _ _ hmet

end Undisturbed

end Export

end SearchBridge
