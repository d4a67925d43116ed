import SearchBridge.Proofs.Interleaving
/-!
What others can do to an exporter as long as nobody stops it.

A full queue makes it try again and that is all: but for these attempts it is always as far as it
would be at some time if it were left alone. So once it has ended, it has done what its run does,
and before that a first part of it.
-/

namespace SearchBridge

namespace Export

/-- Attempts on a full queue put nothing there. -/
theorem published_settled (events : List Event) :
    published (events.filter Event.isSettled) = published events := by
  induction events with
  | nil => rfl
  | cons event rest ih =>
      rw [← List.singleton_append, List.filter_append, published_append, published_append, ih]
      cases event with
      | request r => rfl
      | put a =>
          cases haccepts : a.action.accepts with
          | true => simp [Event.isSettled, haccepts]
          | false =>
              simp [Event.isSettled, haccepts, published_eq, acceptedItems]

theorem published_mono {e₁ e₂ : List Event} (h : e₁ <+: e₂) : published e₁ <+: published e₂ := by
  obtain ⟨rest, rfl⟩ := h
  rw [published_append]
  exact List.prefix_append _ _

namespace Worker

/-- The steps of an exporter that is left alone are determined. -/
theorem Leads.total {s t u : Worker × List PutAction} (ht : Leads s t) (hu : Leads s u) :
    Leads t u ∨ Leads u t :=
  Relation.ReflTransGen.total_of_right_unique (fun _ _ _ hb hc => hb.symm.trans hc) ht hu

/-- An exporter that has ended does nothing any more. -/
theorem Leads.eq_of_ended {s t : Worker × List PutAction} (h : Leads s t)
    (hended : s.1.phase = .ended) : t = s := by
  have hstays : alone s = s := by
    obtain ⟨w, puts⟩ := s
    have hphase : w.phase = .ended := hended
    simp only [alone, step, hphase]
  induction h with
  | refl => rfl
  | tail _ hstep ih => rw [← hstep, ih, hstays]

theorem alone_events (s : Worker × List PutAction) : s.1.events <+: (alone s).1.events := by
  obtain ⟨w, puts⟩ := s
  unfold alone
  dsimp only
  split <;> exact (w.extends_step _).events

/-- An exporter that is left alone takes no event back. -/
theorem Leads.events_kept {s t : Worker × List PutAction} (h : Leads s t) :
    s.1.events <+: t.1.events := by
  induction h with
  | refl => exact List.prefix_rfl
  | tail _ hstep ih =>
      rw [← hstep]
      exact ih.trans (alone_events _)

/-- The worker without its attempts on a full queue. -/
def settled (w : Worker) : Worker := { w with events := w.events.filter Event.isSettled }

section

variable (w : Worker)

@[simp] theorem settled_phase : w.settled.phase = w.phase := rfl

theorem settled_sent (r : Http.Request) : (w.sent r).settled = w.settled.sent r := by
  simp [settled, sent, Event.isSettled, cancelled]

theorem settled_cleared (token : Text) : (w.cleared token).settled = w.settled.cleared token := by
  simp [settled, cleared, Event.isSettled, cancelled, plan]

theorem settled_accepted (i : Item) :
    (w.offer i ⟨false, true⟩).settled = w.settled.offer i unhindered := by
  simp [settled, offer, Event.isSettled, cancelled, plan, unhindered]

theorem settled_full (i : Item) :
    (w.offer i ⟨false, false⟩).settled = w.settled.enter (.look i) := by
  simp [settled, offer, Event.isSettled, cancelled, enter]

/-- Attempts on a full queue make no difference to any other step. -/
theorem settled_step (met : PutAction) (h : ∀ i, w.phase ≠ .offer i) :
    (w.step met).settled = w.settled.step unhindered := by
  simp only [step, settled_phase]
  cases hphase : w.phase with
  | ask r =>
      simp only [ask]
      have hanswers : w.settled.answers = w.answers := rfl
      rw [hanswers]
      split
      · rw [← settled_sent]
        rfl
      · rw [← settled_sent]
        rfl
  | read root =>
      have hcancelled : w.settled.cancelled = w.cancelled := rfl
      have hpage : readPage w.settled.plan root w.settled.clock = readPage w.plan root w.clock :=
        rfl
      simp only [hcancelled, read, hpage]
      split
      · rfl
      · split <;> rfl
  | look i => rfl
  | offer i => exact absurd hphase (h i)
  | count ids => rfl
  | leave =>
      have htoken : w.settled.token = w.token := rfl
      simp only [leave, htoken]
      split
      · rfl
      · rw [settled_cleared]
  | finish => rfl
  | ended => rfl

/-- Alone, a step differs only if it is an attempt. -/
theorem alone_step (h : ∀ i, w.phase ≠ .offer i) : alone (w, []) = (w.step unhindered, []) := by
  cases hphase : w.phase with
  | offer i => exact absurd hphase (h i)
  | _ => simp only [alone, hphase]

end

/-- An attempt comes right after a look at the flag. -/
theorem Steps.look_before {w w' : Worker} {met : PutAction} (h : w.Steps met w') {i : Item}
    (hphase : w'.phase = .offer i) : w.phase = .look i ∧ w' = w.enter (.offer i) := by
  cases h with
  | @dropped j _ _ => cases j <;> cases hphase
  | @looked j hlook _ =>
      cases hphase
      exact ⟨hlook, rfl⟩
  | @accepted j _ haccepts =>
      simp only [offer, haccepts, if_true] at hphase
      cases j <;> cases hphase
  | full _ haccepts => simp [offer, haccepts] at hphase
  | cleared _ _ =>
      simp only [Worker.cleared] at hphase
      split at hphase <;> cases hphase
  | ended hended =>
      rw [hended] at hphase
      cases hphase
  | _ => cases hphase

/-- A worker that is as far as the exporter would be at some time if it were left alone. From an
attempt it may go back to the look before it. -/
structure Follows (x : Exporter) (supply : Supply) (w : Worker) : Prop where
  led : Leads (start x supply, []) (w.settled, [])
  back : ∀ i, w.phase = .offer i → Leads (start x supply, []) (w.settled.enter (.look i), [])

section

variable {x : Exporter} {supply : Supply} {w : Worker}

theorem follows_start : (start x supply).Follows x supply where
  led := .refl
  back := by
    intro i hphase
    cases hphase

/-- Whether the queue is full or not, a step of the exporter keeps to its run. -/
theorem Follows.step (h : w.Follows x supply) (accepts : Bool) :
    (w.step ⟨false, accepts⟩).Follows x supply := by
  by_cases hoffer : ∃ i, w.phase = .offer i
  · obtain ⟨i, hphase⟩ := hoffer
    have heq : w.step ⟨false, accepts⟩ = w.offer i ⟨false, accepts⟩ := by
      simp only [Worker.step, hphase]
    rw [heq]
    cases accepts with
    | true =>
        constructor
        · rw [settled_accepted]
          exact h.led.trans (Leads.of_alone (alone_offer hphase) .refl)
        · intro j hnext
          cases i <;> cases hnext
    | false =>
        constructor
        · rw [settled_full]
          exact h.back i hphase
        · intro j hnext
          cases hnext
  · have hother : ∀ i, w.phase ≠ .offer i := fun i hphase => hoffer ⟨i, hphase⟩
    have hled : Leads (start x supply, []) ((w.step ⟨false, accepts⟩).settled, []) := by
      rw [settled_step _ _ hother]
      exact h.led.trans (Leads.of_alone (alone_step _ hother) .refl)
    refine ⟨hled, fun i hnext => ?_⟩
    obtain ⟨hlook, heq⟩ := (w.steps _).look_before hnext
    have hback : (w.step ⟨false, accepts⟩).settled.enter (.look i) = w.settled := by
      rw [heq, ← hlook]
      rfl
    rw [hback]
    exact h.led

/-- What a worker that has ended has done is the run of its exporter. -/
theorem Follows.eq_run (h : w.Follows x supply) (hputs : supply.puts = [])
    (hended : w.phase = .ended) :
    w.settled = ⟨(x.run supply).exporter, .ended, (x.paging supply).token,
      (x.run supply).supply.answers, (x.run supply).supply.clock, (x.run supply).events,
      (x.run supply).log, (x.run supply).fault⟩ := by
  have hrun := leads_run x supply
  rw [hputs] at hrun
  rcases h.led.total hrun with hlater | hearlier
  · exact (congrArg Prod.fst (hlater.eq_of_ended hended)).symm
  · exact congrArg Prod.fst (hearlier.eq_of_ended rfl)

/-- What a worker has put on the queue is a first part of what the run of its exporter puts
there. -/
theorem Follows.published_begins (h : w.Follows x supply) (hputs : supply.puts = []) :
    published w.events <+: published (x.run supply).events := by
  have hrun := leads_run x supply
  rw [hputs] at hrun
  have hevents : w.settled.events <+: (x.run supply).events := by
    rcases h.led.total hrun with hlater | hearlier
    · exact hlater.events_kept
    · have hsame : w.settled.events = (x.run supply).events :=
        congrArg (·.1.events) (hearlier.eq_of_ended rfl)
      exact ⟨[], by rw [List.append_nil, hsame]⟩
  rw [← published_settled]
  exact published_mono hevents

/-- Nobody has asked the exporter to stop, and no answer to come will. -/
structure Calm (w : Worker) : Prop where
  live : w.cancelled = false
  answers : ∀ a ∈ w.answers, a.cancels = false

theorem Calm.cancelsAt (h : w.Calm) : cancelsAt w.answers 0 = false := by
  unfold Export.cancelsAt
  cases hanswers : w.answers with
  | nil => rfl
  | cons a rest => exact h.answers a (by rw [hanswers]; exact List.mem_cons_self)

/-- No step of an exporter cancels it. -/
theorem Calm.steps (h : w.Calm) {met : PutAction} (hmet : met.cancels = false) {w' : Worker}
    (hstep : w.Steps met w') : w'.Calm := by
  have htail : ∀ a ∈ w.answers.tail, a.cancels = false :=
    fun a ha => h.answers a (List.mem_of_mem_tail ha)
  have hsent : (w.cancelled || Export.cancelsAt w.answers 0) = false := by
    rw [h.live, h.cancelsAt]
    rfl
  have hmet' : (w.cancelled || met.cancels) = false := by
    rw [h.live, hmet]
    rfl
  cases hstep with
  | lost _ _ => exact ⟨hsent, htail⟩
  | brought _ _ => exact ⟨hsent, htail⟩
  | stopped _ _ => exact ⟨h.live, h.answers⟩
  | faulty _ _ => exact ⟨h.live, h.answers⟩
  | complete _ _ => exact ⟨h.live, h.answers⟩
  | filled _ _ _ => exact ⟨h.live, h.answers⟩
  | dropped _ _ => exact ⟨h.live, h.answers⟩
  | looked _ _ => exact ⟨h.live, h.answers⟩
  | accepted _ _ => exact ⟨hmet', h.answers⟩
  | full _ _ => exact ⟨hmet', h.answers⟩
  | counted _ => exact ⟨h.live, h.answers⟩
  | unopened _ _ => exact ⟨h.live, h.answers⟩
  | @cleared token _ _ =>
      obtain ⟨-, hcancelled, hanswers⟩ := clear_drop w.plan token w.cancelled w.answers 0
      rw [List.drop_zero] at hcancelled hanswers
      refine ⟨hcancelled.trans hsent, fun a ha => ?_⟩
      have hmem : a ∈ w.answers.tail := by
        rw [← List.drop_one]
        exact hanswers ▸ ha
      exact htail a hmem
  | finished _ => exact ⟨h.live, h.answers⟩
  | ended _ => exact h

end

end Worker

end Export

end SearchBridge
