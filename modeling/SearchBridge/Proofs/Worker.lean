import Mathlib.Logic.Relation
import SearchBridge.Proofs.Run
/-!
An exporter step by step.

A run sends requests, reads pages, looks at the cancellation flag, offers items to the queue and
counts what was accepted. Here each of these is a step of its own, so that others can act between
any two of them: they may take from the queue or set the flag. Steps that nothing comes between make
up a run.
-/

namespace SearchBridge

namespace Export

/-- What an exporter is about to do. -/
inductive Phase where
  /-- To send a request for a page. -/
  | ask (r : Http.Request)
  /-- To read a page that has come in, unless the flag is set. -/
  | read (root : Json)
  /-- To look at the flag before an item is offered. -/
  | look (i : Item)
  /-- To make an attempt to put an item on the queue. -/
  | offer (i : Item)
  /-- To count a batch that the queue has accepted. -/
  | count (ids : IdSet)
  /-- To give the cursor up, if there is one. -/
  | leave
  /-- To declare the export done. -/
  | finish
  | ended
  deriving DecidableEq, Repr

/-- What follows the acceptance of an item. -/
def Item.accepted : Item → Phase
  | .batch ids => .count ids
  | .endOfStream => .finish

/-- What follows if the flag is set before an item is accepted. -/
def Item.dropped : Item → Phase
  | .batch _ => .leave
  | .endOfStream => .finish

/-- An exporter between two steps of a run: what it is about to do, the last token it knows, what
its requests will meet, and what it did so far. -/
structure Worker where
  exporter : Exporter
  phase : Phase
  token : Option Text
  answers : List Answer
  clock : Clock
  events : List Event
  log : List Log.Line
  fault : Option Http.ExchangeFault

namespace Worker

def start (x : Exporter) (supply : Supply) : Worker :=
  ⟨x, .ask x.plan.openRequest, none, supply.answers, supply.clock, [], [], none⟩

def plan (w : Worker) : Plan := w.exporter.plan

def cancelled (w : Worker) : Bool := w.exporter.cancelled

def enter (w : Worker) (phase : Phase) : Worker := { w with phase := phase }

section

variable (x : Exporter) (phase : Phase) (token : Option Text) (answers : List Answer)
  (clock : Clock) (events : List Event) (log : List Log.Line) (fault : Option Http.ExchangeFault)

@[simp] theorem plan_mk : (mk x phase token answers clock events log fault).plan = x.plan := rfl

@[simp] theorem cancelled_mk :
    (mk x phase token answers clock events log fault).cancelled = x.cancelled := rfl

end

def stop (w : Worker) : Worker := { w with exporter := w.exporter.stop }

/-- A failure ends the paging. It is kept and logged with the ids counted so far. -/
def fail (w : Worker) (f : Failure) : Worker :=
  { w with
    exporter := { w.exporter with error := some f }
    phase := .leave
    log := w.log ++ [⟨.error, "Id export failed after " ++
      (Number.int w.exporter.idsExported).text ++ " ids: " ++ f.message⟩] }

def sent (w : Worker) (r : Http.Request) : Worker :=
  { w with
    exporter := { w.exporter with cancelled := w.cancelled || cancelsAt w.answers 0 }
    answers := w.answers.tail
    events := w.events ++ [.request r]
    log := w.log ++ r.log (outcomeAt w.answers 0) }

def ask (w : Worker) (r : Http.Request) : Worker :=
  match r.fetch (outcomeAt w.answers 0) with
  | .error f => (w.sent r).fail f
  | .ok root => (w.sent r).enter (.read root)

/-- The worker once a page is read. -/
def noted (w : Worker) (root : Json) : Worker :=
  let page := readPage w.plan root w.clock
  { w with token := page.token.or w.token, clock := page.clock }

/-- Reads a page. Without ids it is the last one. -/
def read (w : Worker) (root : Json) : Worker :=
  match (readPage w.plan root w.clock).ids with
  | .error f => (w.noted root).fail f
  | .ok ids =>
    (w.noted root).enter (if ids = [] then .leave else .look (.batch (IdSet.ofList ids)))

def offer (w : Worker) (i : Item) (met : PutAction) : Worker :=
  { w with
    exporter := { w.exporter with cancelled := w.cancelled || met.cancels }
    phase := if met.accepts then i.accepted else .look i
    events := w.events ++ [.put ⟨i, w.plan.enqueueTimeout, met⟩] }

def nextRequest (w : Worker) : Http.Request := w.plan.nextRequest (w.token.getD [])

def count (w : Worker) (batch : IdSet) : Worker :=
  { w with
    exporter := { w.exporter with
      idsExported := w.exporter.idsExported + batch.size
      batchesPublished := w.exporter.batchesPublished + 1 }
    phase := .ask w.nextRequest }

/-- The worker once a cursor is given up. A fault of this exchange breaks the run off. -/
def cleared (w : Worker) (token : Text) : Worker :=
  let clearing := clear w.plan token w.cancelled w.answers
  { w with
    exporter := { w.exporter with cancelled := clearing.cancelled }
    phase := if clearing.fault.isNone then .look .endOfStream else .ended
    answers := clearing.answers
    events := w.events ++ [.request (w.plan.clearRequest token)]
    log := w.log ++ clearing.log
    fault := clearing.fault }

/-- Gives the cursor up, if there is one. -/
def leave (w : Worker) : Worker :=
  match w.token with
  | none => w.enter (.look .endOfStream)
  | some token => w.cleared token

def finish (w : Worker) : Worker :=
  { w with exporter := { w.exporter with done := true }, phase := .ended }

/-- One step. An attempt to put an item meets the given action. -/
def step (w : Worker) (met : PutAction) : Worker :=
  match w.phase with
  | .ask r => w.ask r
  | .read root => if w.cancelled then w.enter .leave else w.read root
  | .look i => w.enter (if w.cancelled then i.dropped else .offer i)
  | .offer i => w.offer i met
  | .count batch => w.count batch
  | .leave => w.leave
  | .finish => w.finish
  | .ended => w

/-- What a step can do, in the order of a run. -/
inductive Steps (w : Worker) (met : PutAction) : Worker → Prop
  | lost {r : Http.Request} {f : Failure} :
      w.phase = .ask r → r.fetch (outcomeAt w.answers 0) = .error f →
      Steps w met ((w.sent r).fail f)
  | brought {r : Http.Request} {root : Json} :
      w.phase = .ask r → (outcomeAt w.answers 0).Brings root →
      Steps w met ((w.sent r).enter (.read root))
  | stopped {root : Json} :
      w.phase = .read root → w.cancelled = true → Steps w met (w.enter .leave)
  | faulty {root : Json} {f : Failure} :
      w.phase = .read root → w.cancelled = false → Steps w met ((w.noted root).fail f)
  | complete {root : Json} :
      w.phase = .read root → w.cancelled = false → Steps w met ((w.noted root).enter .leave)
  | filled {root : Json} {ids : IdSet} :
      w.phase = .read root → w.cancelled = false → 0 < ids.size →
      Steps w met ((w.noted root).enter (.look (.batch ids)))
  | dropped {i : Item} :
      w.phase = .look i → w.cancelled = true → Steps w met (w.enter i.dropped)
  | looked {i : Item} :
      w.phase = .look i → w.cancelled = false → Steps w met (w.enter (.offer i))
  | accepted {i : Item} :
      w.phase = .offer i → met.accepts = true → Steps w met (w.offer i met)
  | full {i : Item} : w.phase = .offer i → met.accepts = false → Steps w met (w.offer i met)
  | counted {ids : IdSet} : w.phase = .count ids → Steps w met (w.count ids)
  | unopened : w.phase = .leave → w.token = none → Steps w met (w.enter (.look .endOfStream))
  | cleared {token : Text} :
      w.phase = .leave → w.token = some token → Steps w met (w.cleared token)
  | finished : w.phase = .finish → Steps w met w.finish
  | ended : w.phase = .ended → Steps w met w

theorem steps (w : Worker) (met : PutAction) : w.Steps met (w.step met) := by
  cases hphase : w.phase with
  | ask r =>
      simp only [step, hphase, ask]
      split
      · exact .lost hphase ‹_›
      · exact .brought hphase (Http.Request.fetch_eq_ok_iff.mp ‹_›)
  | read root =>
      simp only [step, hphase]
      split
      · exact .stopped hphase ‹_›
      · rename_i hlive
        rw [Bool.not_eq_true] at hlive
        unfold read
        split
        · exact .faulty hphase hlive
        · rename_i ids _
          split
          · exact .complete hphase hlive
          · rename_i hfilled
            have hsize := List.length_pos_iff.mpr (mt IdSet.toList_ofList_eq_nil.mp hfilled)
            exact .filled hphase hlive hsize
  | look i =>
      simp only [step, hphase]
      split
      · exact .dropped hphase ‹_›
      · rename_i hlive
        rw [Bool.not_eq_true] at hlive
        exact .looked hphase hlive
  | offer i =>
      simp only [step, hphase]
      cases haccepts : met.accepts with
      | true => exact .accepted hphase haccepts
      | false => exact .full hphase haccepts
  | count ids =>
      simp only [step, hphase]
      exact .counted hphase
  | leave =>
      simp only [step, hphase, leave]
      split
      · exact .unopened hphase ‹_›
      · exact .cleared hphase ‹_›
  | finish =>
      simp only [step, hphase]
      exact .finished hphase
  | ended =>
      simp only [step, hphase]
      exact .ended hphase

/-- What an attempt meets that nobody hinders. -/
def unhindered : PutAction := ⟨false, true⟩

/-- A step of an exporter that is left alone, with the actions that its attempts will meet. -/
def alone : Worker × List PutAction → Worker × List PutAction
  | (w, puts) =>
    match w.phase with
    | .offer _ => (w.step (puts.headD unhindered), puts.tail)
    | _ => (w.step unhindered, puts)

/-- Steps of an exporter that is left alone. -/
def Leads : Worker × List PutAction → Worker × List PutAction → Prop :=
  Relation.ReflTransGen fun s t => alone s = t

theorem Leads.of_alone {s t u : Worker × List PutAction} (h : alone s = t) (hrest : Leads t u) :
    Leads s u :=
  Relation.ReflTransGen.head h hrest

theorem Leads.of_eq {s t : Worker × List PutAction} (h : s = t) : Leads s t :=
  h ▸ Relation.ReflTransGen.refl

theorem Leads.trans {s t u : Worker × List PutAction} (h : Leads s t) (hrest : Leads t u) :
    Leads s u :=
  Relation.ReflTransGen.trans h hrest

section

variable {w : Worker} {puts : List PutAction}

theorem alone_ask {r : Http.Request} (h : w.phase = .ask r) :
    alone (w, puts) = (w.ask r, puts) := by
  simp only [alone, step, h]

theorem alone_read {root : Json} (h : w.phase = .read root) :
    alone (w, puts) = (if w.cancelled then w.enter .leave else w.read root, puts) := by
  simp only [alone, step, h]

theorem alone_look {i : Item} (h : w.phase = .look i) :
    alone (w, puts) = (w.enter (if w.cancelled then i.dropped else .offer i), puts) := by
  simp only [alone, step, h]

theorem alone_offer {i : Item} (h : w.phase = .offer i) :
    alone (w, puts) = (w.offer i (puts.headD unhindered), puts.tail) := by
  simp only [alone, step, h]

theorem alone_count {batch : IdSet} (h : w.phase = .count batch) :
    alone (w, puts) = (w.count batch, puts) := by
  simp only [alone, step, h]

theorem alone_leave (h : w.phase = .leave) : alone (w, puts) = (w.leave, puts) := by
  simp only [alone, step, h]

theorem alone_finish (h : w.phase = .finish) : alone (w, puts) = (w.finish, puts) := by
  simp only [alone, step, h]

end

/-- The worker after the publication of an item. -/
def afterPublication (w : Worker) (i : Item) (p : Publication Item) : Worker :=
  { w with
    exporter := { w.exporter with cancelled := p.cancelled.getD false }
    phase := if p.accepted then i.accepted else i.dropped
    events := w.events ++ p.attempts.map .put }

theorem afterPublication_cancelled {w : Worker} (i : Item) (puts : List PutAction)
    (h : w.cancelled = true) :
    w.afterPublication i ⟨false, [], puts, some true⟩ = w.enter i.dropped := by
  have hexporter : { w.exporter with cancelled := true } = w.exporter := by
    rw [← h]
    rfl
  simp [afterPublication, enter, hexporter]

theorem afterPublication_accepted {w : Worker} (i : Item) {a : PutAction} (puts : List PutAction)
    (hlive : w.cancelled = false) (h : a.accepts = true) :
    w.afterPublication i ⟨true, [⟨i, w.plan.enqueueTimeout, a⟩], puts, some a.cancels⟩ =
      w.offer i a := by
  simp [afterPublication, offer, hlive, h]

theorem afterPublication_full {w : Worker} (i : Item) {a : PutAction} (p : Publication Item)
    (h : a.accepts = false) :
    w.afterPublication i { p with attempts := ⟨i, w.plan.enqueueTimeout, a⟩ :: p.attempts } =
      (w.offer i a).afterPublication i p := by
  simp [afterPublication, offer, h]

/-- Looks and attempts in turn make up the publication of an item. -/
theorem leads_publication (w : Worker) (i : Item) (puts : List PutAction) (h : w.phase = .look i) :
    Leads (w, puts) (w.afterPublication i (publish i w.plan.enqueueTimeout (some w.cancelled) puts),
      (publish i w.plan.enqueueTimeout (some w.cancelled) puts).rest) := by
  induction puts generalizing w with
  | nil =>
      refine Leads.of_alone (alone_look h) ?_
      cases hflag : w.cancelled with
      | true =>
          rw [publish_cancelled, afterPublication_cancelled i _ hflag]
          exact .refl
      | false =>
          refine Leads.of_alone (alone_offer rfl) ?_
          rw [publish_nil]
          have hlast : _ = w.offer i unhindered := afterPublication_accepted i [] hflag rfl
          exact hlast ▸ .refl
  | cons a rest ih =>
      refine Leads.of_alone (alone_look h) ?_
      cases hflag : w.cancelled with
      | true =>
          rw [publish_cancelled, afterPublication_cancelled i _ hflag]
          exact .refl
      | false =>
          refine Leads.of_alone (alone_offer rfl) ?_
          rw [publish_cons]
          cases haccepts : a.accepts with
          | true =>
              have hlast := afterPublication_accepted i rest hflag haccepts
              exact hlast ▸ .refl
          | false =>
              have hnext : (w.offer i a).cancelled = a.cancels := by
                simp [cancelled, offer, show w.exporter.cancelled = false from hflag]
              have hrest := ih (w.offer i a) (by simp [offer, haccepts])
              rw [hnext] at hrest
              simp only [Bool.false_eq_true, if_false, afterPublication_full i _ haccepts]
              exact hrest

def paged (w : Worker) (o : Paging) : Worker :=
  let ids := w.exporter.idsExported + idCount o.batches
  { w with
    exporter := { w.exporter with
      idsExported := ids
      batchesPublished := w.exporter.batchesPublished + o.batches.length
      cancelled := o.stage.cancelled
      error := match o.ending with
        | .failed f => some f
        | _ => w.exporter.error }
    phase := .leave
    token := o.token
    answers := o.answers
    clock := o.stage.clock
    events := w.events ++ o.events
    log := w.log ++ match o.ending with
      | .failed f => o.log ++ [⟨.error,
          "Id export failed after " ++ (Number.int ids).text ++ " ids: " ++ f.message⟩]
      | _ => o.log }

/-- A worker that is about to send request number `n`. -/
structure Asks (w : Worker) (p : Plan) (script : List Answer) (n : Nat) (r : Http.Request)
    (token : Option Text) (stage : Stage) : Prop where
  phase : w.phase = .ask r
  plan : w.plan = p
  answers : w.answers = script.drop n
  token : w.token = token
  clock : w.clock = stage.clock
  cancelled : w.cancelled = stage.cancelled

theorem outcomeAt_drop (script : List Answer) (n : Nat) :
    outcomeAt (script.drop n) 0 = outcomeAt script n := rfl

theorem cancelsAt_drop (script : List Answer) (n : Nat) :
    cancelsAt (script.drop n) 0 = cancelsAt script n := rfl

section

variable {w : Worker} {p : Plan} {script : List Answer} {n : Nat} {r : Http.Request}
  {token : Option Text} {stage : Stage}

/-- A request that is lost ends the paging. -/
theorem Asks.lost (hw : w.Asks p script n r token stage) {f : Failure}
    (h : r.fetch (outcomeAt script n) = .error f) :
    w.ask r = w.paged ⟨[.request r], [], .failed f, r.log (outcomeAt script n), token,
      stage.passed script n, script.drop (n + 1)⟩ := by
  have hfetch : r.fetch (outcomeAt w.answers 0) = .error f := by
    rw [hw.answers, outcomeAt_drop, h]
  unfold ask
  rw [hfetch]
  simp [fail, sent, paged, hw.answers, hw.token, hw.clock, hw.cancelled, outcomeAt_drop,
    cancelsAt_drop, idCount, Stage.passed]

/-- The worker once request number `n` has brought a page. -/
def brought (w : Worker) (script : List Answer) (n : Nat) (r : Http.Request) (root : Json) :
    Worker :=
  { w with
    exporter := { w.exporter with cancelled := w.cancelled || cancelsAt script n }
    phase := .read root
    answers := script.drop (n + 1)
    events := w.events ++ [.request r] }

theorem Asks.brings (hw : w.Asks p script n r token stage) {root : Json}
    (h : (outcomeAt script n).Brings root) : w.ask r = w.brought script n r root := by
  have hfetch : r.fetch (outcomeAt w.answers 0) = .ok root := by
    rw [hw.answers, outcomeAt_drop]
    exact Http.Request.fetch_eq_ok_iff.mpr h
  obtain ⟨response, -, hresponse, -⟩ := h
  have hlog : r.log (outcomeAt script n) = [] := by
    rw [hresponse]
    rfl
  unfold ask
  rw [hfetch]
  simp [sent, enter, brought, hlog, hw.answers, outcomeAt_drop, cancelsAt_drop]

theorem Asks.brought_cancelled (hw : w.Asks p script n r token stage) (root : Json) :
    (w.brought script n r root).cancelled = (stage.passed script n).cancelled := by
  rw [Stage.passed, ← hw.cancelled]
  rfl

/-- A page that was brought is read unless the flag is set. -/
theorem Asks.leads_brought (hw : w.Asks p script n r token stage) {root : Json}
    (h : (outcomeAt script n).Brings root) (puts : List PutAction) :
    Leads (w, puts)
      (if (stage.passed script n).cancelled then (w.brought script n r root).enter .leave
        else (w.brought script n r root).read root, puts) := by
  refine Leads.of_alone (alone_ask hw.phase) ?_
  rw [hw.brings h]
  refine Leads.of_alone (alone_read rfl) ?_
  rw [hw.brought_cancelled]
  exact .refl

/-- A page that is read without the flag being set. -/
theorem Asks.noted_eq (hw : w.Asks p script n r token stage) (root : Json)
    (hlive : (stage.passed script n).cancelled = false) :
    (w.brought script n r root).noted root = { w with
      exporter := { w.exporter with cancelled := false }
      phase := .read root
      token := (readPage p root stage.clock).token.or token
      answers := script.drop (n + 1)
      clock := (readPage p root stage.clock).clock
      events := w.events ++ [.request r] } := by
  have hflag : (w.cancelled || cancelsAt script n) = false := by
    rw [hw.cancelled]
    exact hlive
  unfold noted brought
  rw [hflag, ← hw.plan, ← hw.token, ← hw.clock]
  rfl

/-- What follows a page depends on its ids. -/
theorem Asks.leads_ids (hw : w.Asks p script n r token stage) {root : Json}
    (h : (outcomeAt script n).Brings root) (hlive : (stage.passed script n).cancelled = false)
    (puts : List PutAction) :
    Leads (w, puts)
      (match (readPage p root stage.clock).ids with
        | .error f => ((w.brought script n r root).noted root).fail f
        | .ok ids =>
          ((w.brought script n r root).noted root).enter
            (if ids = [] then .leave else .look (.batch (IdSet.ofList ids))), puts) := by
  have hread := hw.leads_brought h puts
  rw [if_neg (by simp [hlive]), read] at hread
  rw [← hw.plan, ← hw.clock]
  exact hread

/-- The worker once the ids of a page are published, or the flag was set before that. -/
def offeredIds (w : Worker) (p : Plan) (script : List Answer) (n : Nat) (r : Http.Request)
    (stage : Stage) (root : Json) (fresh : Text) (ids : List Text) : Worker :=
  { w with
    exporter := { w.exporter with cancelled := (stage.published p root ids).cancelled }
    phase := if (offered p stage ids).accepted then .count (IdSet.ofList ids) else .leave
    token := some fresh
    answers := script.drop (n + 1)
    clock := (stage.published p root ids).clock
    events := w.events ++ .request r :: (offered p stage ids).attempts.map .put }

theorem Asks.leads_offered (hw : w.Asks p script n r token stage) {root : Json} {fresh : Text}
    {ids : List Text} (h : Offer p script n stage root fresh ids) :
    Leads (w, stage.puts)
      (w.offeredIds p script n r stage root fresh ids, (stage.published p root ids).puts) := by
  have hread := hw.leads_ids h.brings h.live stage.puts
  rw [h.ids_eq, hw.noted_eq root h.live] at hread
  simp only [h.filled, if_false, h.token_read, Option.some_or] at hread
  refine hread.trans ((leads_publication _ _ _ rfl).trans (Leads.of_eq ?_))
  rw [← hw.plan]
  simp only [enter, afterPublication, offeredIds, Stage.published, offered, Item.accepted,
    Item.dropped, List.append_assoc, List.cons_append, List.nil_append]
  rfl

/-- Once the batch is counted, the next request is sent. -/
theorem Asks.next (hw : w.Asks p script n r token stage) (root : Json) (fresh : Text)
    (ids : List Text) :
    ((w.offeredIds p script n r stage root fresh ids).count (IdSet.ofList ids)).Asks p script
      (n + 1) (p.nextRequest fresh) (some fresh) (stage.published p root ids) where
  phase := by
    rw [← hw.plan]
    rfl
  plan := hw.plan
  answers := rfl
  token := rfl
  clock := rfl
  cancelled := rfl

end

/-- The steps of a worker make up a course. -/
theorem leads_course {p : Plan} {script : List Answer} {n : Nat} {r : Http.Request}
    {token : Option Text} {stage : Stage} {out : Paging}
    (h : Course p script n r token stage out) {w : Worker} (hw : w.Asks p script n r token stage) :
    Leads (w, stage.puts) (w.paged out, out.stage.puts) := by
  induction h generalizing w with
  | lost hfetch =>
      refine Leads.of_alone (alone_ask hw.phase) ?_
      rw [hw.lost hfetch]
      exact .refl
  | stopped hbrings hcancelled =>
      refine (hw.leads_brought hbrings _).trans (Leads.of_eq ?_)
      rw [if_pos hcancelled]
      simp [paged, enter, brought, idCount, hw.token, hw.clock, hw.cancelled, Stage.passed]
  | @faulty n r token stage root f hbrings hlive hids =>
      have hread := hw.leads_ids hbrings hlive stage.puts
      rw [hids] at hread
      refine hread.trans (Leads.of_eq ?_)
      simp [hw.noted_eq root hlive, fail, paged, idCount]
  | @complete n r token stage root hbrings hlive hids =>
      have hread := hw.leads_ids hbrings hlive stage.puts
      rw [hids] at hread
      refine hread.trans (Leads.of_eq ?_)
      simp [hw.noted_eq root hlive, enter, paged, idCount]
  | refused hoffer hrefused =>
      refine (hw.leads_offered hoffer).trans (Leads.of_eq ?_)
      simp [offeredIds, hrefused, paged, idCount]
  | next hoffer haccepted _ ih =>
      refine (hw.leads_offered hoffer).trans ?_
      refine Leads.of_alone (alone_count (if_pos haccepted)) ?_
      refine (ih (hw.next _ _ _)).trans (Leads.of_eq ?_)
      simp [count, offeredIds, paged, idCount, Paging.after, Nat.add_assoc, Nat.add_comm 1]

section

variable (x : Exporter) (supply : Supply)

theorem leads_paging :
    Leads (start x supply, supply.puts)
      ((start x supply).paged (x.paging supply), (x.paging supply).stage.puts) :=
  leads_course (x.paging_course supply) ⟨rfl, rfl, rfl, rfl, rfl, rfl⟩

theorem start_paged :
    (start x supply).paged (x.paging supply) =
      ⟨x.paged supply, .leave, (x.paging supply).token, (x.paging supply).answers,
        (x.paging supply).stage.clock, (x.paging supply).events, x.pagedLog supply, none⟩ := by
  unfold paged Exporter.paged Exporter.pagedLog Exporter.errorAfter start
  cases (x.paging supply).ending <;> rfl

def left : Worker :=
  ⟨{ x.paged supply with cancelled := (x.clearing supply).cancelled },
    if (x.clearing supply).fault.isNone then .look .endOfStream else .ended,
    (x.paging supply).token, (x.clearing supply).answers, (x.paging supply).stage.clock,
    (x.paging supply).events ++ (x.clearRequests supply).map .request,
    x.pagedLog supply ++ (x.clearing supply).log, (x.clearing supply).fault⟩

theorem leave_paged : ((start x supply).paged (x.paging supply)).leave = left x supply := by
  rw [start_paged, left, leave]
  cases htoken : (x.paging supply).token with
  | none =>
      rw [Exporter.clearing_none htoken]
      simp [enter, Exporter.clearRequests, htoken, Exporter.paged]
  | some token =>
      have hclearing : x.clearing supply =
          clear x.plan token (x.paging supply).stage.cancelled (x.paging supply).answers := by
        rw [Exporter.clearing, htoken]
      simp [cleared, Exporter.clearRequests, htoken, hclearing, Exporter.paged]

/-- The steps of an exporter that is left alone make up its run. -/
theorem leads_run :
    Leads (start x supply, supply.puts)
      (⟨(x.run supply).exporter, .ended, (x.paging supply).token, (x.run supply).supply.answers,
        (x.run supply).supply.clock, (x.run supply).events, (x.run supply).log,
        (x.run supply).fault⟩, (x.run supply).supply.puts) := by
  refine (leads_paging x supply).trans ?_
  refine Leads.of_alone (alone_leave rfl) ?_
  rw [leave_paged, x.run_eq]
  unfold left Exporter.cancelledAfter Exporter.putsAfter Exporter.closingAttempts
  cases hfault : (x.clearing supply).fault with
  | some fault =>
      refine Leads.of_eq ?_
      simp [Exporter.paged]
  | none =>
      refine (leads_publication _ .endOfStream _ rfl).trans ?_
      refine Leads.of_alone (alone_finish ?_) (Leads.of_eq ?_)
      · simp [afterPublication, Item.accepted, Item.dropped]
      · simp [afterPublication, finish, Exporter.closing, Exporter.paged]

end

end Worker

end Export

end SearchBridge
