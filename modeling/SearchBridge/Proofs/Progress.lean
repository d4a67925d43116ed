import SearchBridge.Proofs.Following
/-!
Why exporter and drain come to an end side by side.

Each step does some work or waits for the other side: the exporter for room on the queue, the drain
for an item or for the exporter. At every time one of the sides can do some of the work, and what
the other one does meanwhile does not change that. Under a schedule that always gives both sides
another turn all the work gets done.
-/

namespace SearchBridge

namespace Export

section

variable {σ : Type} {turn : σ → Side → σ} {schedule : Nat → Side} {state : Nat → σ}
  {good goal : σ → Prop} {rank : σ → Nat} {helper : σ → Side}

/-- As long as the goal is not reached, the rank is smaller later, or nothing has changed for the
side that can make it smaller. -/
theorem rank_lt_or_waits (hturn : ∀ n, state (n + 1) = turn (state n) (schedule n))
    (hwaits : ∀ n side, rank (turn (state n) side) < rank (state n) ∨
      rank (turn (state n) side) = rank (state n) ∧ helper (turn (state n) side) = helper (state n))
    {n m : Nat} (h : n ≤ m) :
    rank (state m) < rank (state n) ∨
      rank (state m) = rank (state n) ∧ helper (state m) = helper (state n) := by
  induction h with
  | refl => exact Or.inr ⟨rfl, rfl⟩
  | @step m _ ih =>
      have hlast := hwaits m (schedule m)
      rw [← hturn] at hlast
      show rank (state (m + 1)) < rank (state n) ∨ _
      rcases ih with hless | ⟨hrank, hhelper⟩
      · exact Or.inl (by omega)
      · rcases hlast with hless | ⟨hrank', hhelper'⟩
        · exact Or.inl (by omega)
        · exact Or.inr ⟨hrank'.trans hrank, hhelper'.trans hhelper⟩

variable (turn rank helper) in
/-- If at every time one of the sides can make a rank smaller, and the other one either does so too
or leaves it to that side, then a fair schedule reaches its goal. -/
theorem exists_goal (hturn : ∀ n, state (n + 1) = turn (state n) (schedule n))
    (hfair : Fair schedule) (hgood : ∀ n, good (state n))
    (hhelps : ∀ s, good s → ¬goal s → rank (turn s (helper s)) < rank s)
    (hwaits : ∀ s side, good s → ¬goal s → rank (turn s side) < rank s ∨
      rank (turn s side) = rank s ∧ helper (turn s side) = helper s) :
    ∃ n, goal (state n) := by
  refine Classical.byContradiction fun hnever => ?_
  have hopen : ∀ n, ¬goal (state n) := fun n hgoal => hnever ⟨n, hgoal⟩
  -- the rank would get smaller for ever
  have hless : ∀ n, ∃ m, rank (state m) < rank (state n) := by
    intro n
    obtain ⟨m, hm, hside⟩ := hfair (helper (state n)) n
    rcases rank_lt_or_waits hturn (fun k side => hwaits _ side (hgood k) (hopen k)) hm with
      hbefore | ⟨hrank, hhelper⟩
    · exact ⟨m, hbefore⟩
    · have hstep := hhelps (state m) (hgood m) (hopen m)
      rw [hhelper, ← hside, ← hturn, hrank] at hstep
      exact ⟨m + 1, hstep⟩
  have hnone : ∀ k n, rank (state n) = k → False := by
    intro k
    induction k using Nat.strongRecOn with
    | ind k ih =>
        intro n hn
        obtain ⟨m, hm⟩ := hless n
        exact ih _ (hn ▸ hm) m rfl
  exact hnone _ 0 rfl

end

/-- How much an exporter has to do before it ends, apart from the answers to come. -/
def Phase.effort : Phase → Nat
  | .ask _ => 6
  | .read _ => 9
  | .look (.batch _) | .offer (.batch _) => 8
  | .count _ => 7
  | .leave => 5
  | .look .endOfStream | .offer .endOfStream => 4
  | .finish => 1
  | .ended => 0

/-- How much an exporter has to do before it ends. Going back from an attempt to the look before it
makes no difference. -/
def Worker.effort (w : Worker) : Nat := 4 * w.answers.length + w.phase.effort

/-- An answer is used up by a request. -/
theorem Worker.answers_length {w : Worker} {root : Json} (h : (outcomeAt w.answers 0).Brings root) :
    w.answers.tail.length + 1 = w.answers.length := by
  have hpos := lt_length_of_brings h
  rw [List.length_tail]
  omega

/-- A step is done with some of the work, or it is an attempt on a full queue, the look before an
attempt, or no step at all. -/
theorem Worker.Steps.effort {w w' : Worker} {met : PutAction} (h : w.Steps met w') :
    w'.effort < w.effort ∨ w'.effort = w.effort ∧
      ((∃ i, w.phase = .look i ∧ w.cancelled = false ∧ w' = w.enter (.offer i)) ∨
        (∃ i, w.phase = .offer i ∧ met.accepts = false ∧ w' = w.offer i met) ∨
        w.phase = .ended ∧ w' = w) := by
  cases h with
  | lost hphase _ =>
      refine Or.inl ?_
      simp only [Worker.effort, hphase, Worker.fail, Worker.sent, Phase.effort, List.length_tail]
      omega
  | brought hphase hbrings =>
      refine Or.inl ?_
      have hlength := Worker.answers_length hbrings
      simp only [Worker.effort, hphase, Worker.enter, Worker.sent, Phase.effort]
      omega
  | stopped hphase _ =>
      exact Or.inl (by simp [Worker.effort, hphase, Worker.enter, Phase.effort])
  | faulty hphase _ =>
      exact Or.inl (by simp [Worker.effort, hphase, Worker.fail, Worker.noted, Phase.effort])
  | complete hphase _ =>
      exact Or.inl (by simp [Worker.effort, hphase, Worker.enter, Worker.noted, Phase.effort])
  | filled hphase _ _ =>
      exact Or.inl (by simp [Worker.effort, hphase, Worker.enter, Worker.noted, Phase.effort])
  | @dropped i hphase _ =>
      refine Or.inl ?_
      cases i <;> simp [Worker.effort, hphase, Worker.enter, Item.dropped, Phase.effort]
  | @looked i hphase hlive =>
      refine Or.inr ⟨?_, Or.inl ⟨i, hphase, hlive, rfl⟩⟩
      cases i <;> simp [Worker.effort, hphase, Worker.enter, Phase.effort]
  | @accepted i hphase haccepts =>
      refine Or.inl ?_
      cases i <;> simp [Worker.effort, hphase, Worker.offer, haccepts, Item.accepted, Phase.effort]
  | @full i hphase haccepts =>
      refine Or.inr ⟨?_, Or.inr (Or.inl ⟨i, hphase, haccepts, rfl⟩)⟩
      cases i <;> simp [Worker.effort, hphase, Worker.offer, haccepts, Phase.effort]
  | counted hphase =>
      exact Or.inl (by simp [Worker.effort, hphase, Worker.count, Phase.effort])
  | unopened hphase _ =>
      exact Or.inl (by simp [Worker.effort, hphase, Worker.enter, Phase.effort])
  | @cleared token hphase _ =>
      refine Or.inl ?_
      have hanswers := (clear_drop w.plan token w.cancelled w.answers 0).2.2
      rw [List.drop_zero, Nat.zero_add] at hanswers
      have hlength : (clear w.plan token w.cancelled w.answers).answers.length =
          w.answers.length - 1 := by
        rw [hanswers, List.length_drop]
      simp only [Worker.effort, hphase, Worker.cleared, hlength]
      split <;> simp only [Phase.effort] <;> omega
  | finished hphase =>
      exact Or.inl (by simp [Worker.effort, hphase, Worker.finish, Phase.effort])
  | ended hphase => exact Or.inr ⟨rfl, Or.inr (Or.inr ⟨hphase, rfl⟩)⟩

def Place.hasFailed : Place → Bool
  | .joins failed | .closed failed => failed
  | _ => false

/-- Whether the drain is neither over nor about to fail. -/
def Place.isDraining : Place → Bool
  | .looks | .tests | .writes _ _ => true
  | _ => false

theorem Place.of_isDraining {place : Place} (h : place.isDraining = true) :
    place.hasReturned = false ∧ place.hasFailed = false ∧ place ≠ .raises ∧
      ∀ failed, place ≠ .closed failed := by
  cases place with
  | looks => exact ⟨rfl, rfl, by simp, by simp⟩
  | tests => exact ⟨rfl, rfl, by simp, by simp⟩
  | writes batch rest => exact ⟨rfl, rfl, by simp, by simp⟩
  | _ => cases h

namespace Tandem

/-- What holds between the steps of an export that nothing stops but the failure of a write. -/
structure Running (x : Exporter) (supply : Supply) (writable : Option Nat) (s : Tandem) : Prop where
  sound : s.Sound
  calm : s.place.hasFailed = false → s.worker.Calm
  follows : s.place.hasFailed = false → s.worker.Follows x supply
  failed : s.place.hasFailed = true → s.worker.cancelled = true
  taken : takenItems s.taken <+: published (x.run supply).events
  emptied : s.place.hasReturned = true → s.queue = []
  closed : ∀ failed, s.place = .closed failed → s.worker.phase = .ended
  unmarked : s.place.hasReturned = false → s.place.hasFailed = false →
    .endOfStream ∉ takenItems s.taken
  limit : ∀ n, writable = some n → s.lines.length ≤ n
  /-- A write fails only behind as many lines as the output takes. -/
  broken : s.place = .raises ∨ s.place.hasFailed = true → writable = some s.lines.length

variable {x : Exporter} {supply : Supply} {writable : Option Nat} {s : Tandem}

theorem running_fresh {plan : Plan} (hx : Exporter.create plan = .ok x)
    (hanswers : ∀ a ∈ supply.answers, a.cancels = false) :
    (fresh x supply).Running x supply writable where
  sound := sound_fresh hx supply
  calm := fun _ => by
    refine ⟨?_, hanswers⟩
    rw [Exporter.eq_of_create hx]
    rfl
  follows := fun _ => Worker.follows_start
  failed := fun himpossible => by cases himpossible
  taken := List.nil_prefix
  emptied := fun _ => rfl
  closed := fun failed hplace => by cases hplace
  unmarked := fun _ _ => List.not_mem_nil
  limit := fun n _ => Nat.zero_le n
  broken := fun himpossible => by rcases himpossible with h | h <;> cases h

theorem Running.advance (h : s.Running x supply writable) (capacity : Nat) :
    (s.advance capacity).Running x supply writable where
  sound := h.sound.advance capacity
  calm := fun hgoes => (h.calm hgoes).steps rfl (s.worker.steps _)
  follows := fun hgoes => (h.follows hgoes).step _
  failed := fun hfailed => (s.worker.extends_step _).cancelled (h.failed hfailed)
  taken := h.taken
  emptied := fun hreturned => by
    have hover := h.sound.finished hreturned
    have hnone : s.worker.puts (s.room capacity) = [] := by
      unfold Worker.puts
      split
      · rename_i hphase
        rw [hphase] at hover
        cases hover
      · rfl
    rw [Tandem.advance, hnone, h.emptied hreturned]
    rfl
  closed := fun failed hplace => by
    have hphase := h.closed failed hplace
    have hstays : s.worker.step (s.room capacity) = s.worker := by
      simp only [Worker.step, hphase]
    rw [Tandem.advance, hstays, hphase]
  unmarked := h.unmarked
  limit := h.limit
  broken := h.broken

/-- A step with which the drain goes on. -/
theorem Running.goes (h : s.Running x supply writable) {s' : Tandem} (hsound : s'.Sound)
    (hworker : s'.worker = s.worker) (hbefore : s.place.isDraining = true)
    (hafter : s'.place.isDraining = true)
    (htaken : takenItems s'.taken <+: published (x.run supply).events)
    (hunmarked : .endOfStream ∉ takenItems s'.taken)
    (hlimit : ∀ n, writable = some n → s'.lines.length ≤ n) : s'.Running x supply writable := by
  obtain ⟨-, hgoes, -, -⟩ := Place.of_isDraining hbefore
  obtain ⟨hreturned, hgoes', hraises, hopen⟩ := Place.of_isDraining hafter
  refine ⟨hsound, fun _ => ?_, fun _ => ?_, fun hfailed => ?_, htaken, fun hset => ?_,
    fun failed hclosed => absurd hclosed (hopen failed), fun _ _ => hunmarked, hlimit, ?_⟩
  · rw [hworker]
    exact h.calm hgoes
  · rw [hworker]
    exact h.follows hgoes
  · rw [hgoes'] at hfailed
    cases hfailed
  · rw [hreturned] at hset
    cases hset
  · rintro (himpossible | hfailed)
    · exact absurd himpossible hraises
    · rw [hgoes'] at hfailed
      cases hfailed

/-- What the drain takes next is put on the queue by the run, too. -/
theorem Running.taken_next (h : s.Running x supply writable) (hputs : supply.puts = [])
    (hgoes : s.place.hasFailed = false) {i : Item} {queue : List Item}
    (hqueue : s.queue = i :: queue) :
    takenItems (s.taken ++ takes [i]) <+: published (x.run supply).events := by
  have hworker := (h.follows hgoes).published_begins hputs
  rw [← h.sound.fifo, hqueue] at hworker
  rw [takenItems_append, takenItems_takes]
  refine List.IsPrefix.trans ?_ hworker
  exact ⟨queue, by rw [List.append_assoc]; rfl⟩

theorem Running.unmarked_draining (h : s.Running x supply writable)
    (hplace : s.place.isDraining = true) : .endOfStream ∉ takenItems s.taken := by
  obtain ⟨hreturned, hgoes, -, -⟩ := Place.of_isDraining hplace
  exact h.unmarked hreturned hgoes

theorem Running.consumes (h : s.Running x supply writable) (hputs : supply.puts = []) {s' : Tandem}
    (hstep : s.Consumes writable s') : s'.Running x supply writable := by
  have hsound := h.sound.consumes hstep
  cases hstep with
  | empty hplace hqueue =>
      exact h.goes hsound rfl (by rw [hplace]; rfl) rfl h.taken
        (h.unmarked_draining (by rw [hplace]; rfl)) h.limit
  | batch hplace hqueue =>
      refine h.goes hsound rfl (by rw [hplace]; rfl) rfl
        (h.taken_next hputs (by rw [hplace]; rfl) hqueue) ?_ h.limit
      rw [takenItems_append, takenItems_takes, List.mem_append]
      rintro (hbefore | hhere)
      · exact h.unmarked_draining (by rw [hplace]; rfl) hbefore
      · cases List.mem_singleton.mp hhere
  | mark hplace hqueue =>
      refine ⟨hsound, fun _ => ?_, fun _ => ?_, fun hfailed => ?_, ?_, fun _ => ?_,
        fun _ hclosed => ?_, fun hopen => ?_, h.limit, fun himpossible => ?_⟩
      · exact h.calm (by rw [hplace]; rfl)
      · exact h.follows (by rw [hplace]; rfl)
      · cases hfailed
      · exact h.taken_next hputs (by rw [hplace]; rfl) hqueue
      · exact (h.sound.last_mark hqueue).2
      · cases hclosed
      · cases hopen
      · rcases himpossible with hraises | hfailed
        · cases hraises
        · cases hfailed
  | returns hplace _ hcancelled =>
      have hlive := (h.calm (by rw [hplace]; rfl)).live
      rw [hlive] at hcancelled
      cases hcancelled
  | again hplace _ =>
      refine h.goes hsound rfl (by rw [hplace]; rfl) rfl ?_ ?_ h.limit
      · rw [takenItems_flags]
        exact h.taken
      · rw [takenItems_flags]
        exact h.unmarked_draining (by rw [hplace]; rfl)
  | written hplace =>
      exact h.goes hsound rfl (by rw [hplace]; rfl) rfl h.taken
        (h.unmarked_draining (by rw [hplace]; rfl)) h.limit
  | line hplace hroom =>
      refine h.goes hsound rfl (by rw [hplace]; rfl) rfl h.taken
        (h.unmarked_draining (by rw [hplace]; rfl)) fun n hn => ?_
      rw [hn] at hroom
      have hlt : s.lines.length < n := by simpa using hroom
      rw [List.length_append]
      exact hlt
  | breaks hplace hfull =>
      refine ⟨hsound, fun _ => ?_, fun _ => ?_, fun hfailed => ?_, h.taken, fun hset => ?_,
        fun _ hclosed => ?_, fun _ _ => ?_, h.limit, fun _ => ?_⟩
      · exact h.calm (by rw [hplace]; rfl)
      · exact h.follows (by rw [hplace]; rfl)
      · cases hfailed
      · cases hset
      · cases hclosed
      · exact h.unmarked_draining (by rw [hplace]; rfl)
      · cases hwritable : writable with
        | none =>
            rw [hwritable] at hfull
            cases hfull
        | some n =>
            have hle := h.limit n hwritable
            rw [hwritable] at hfull
            have hge : n ≤ s.lines.length := by simpa using hfull
            rw [Nat.le_antisymm hge hle]
  | stops hplace =>
      refine ⟨hsound, fun hgoes => ?_, fun hgoes => ?_, fun _ => rfl, h.taken, fun hset => ?_,
        fun _ hclosed => ?_, fun _ hgoes => ?_, h.limit, fun _ => h.broken (Or.inl hplace)⟩
      · cases hgoes
      · cases hgoes
      · cases hset
      · cases hclosed
      · cases hgoes
  | waits _ _ => exact h
  | @closes failed hplace hphase =>
      have hfailed : s.place.hasFailed = failed := by
        rw [hplace]
        rfl
      have hreturned : s.place.hasReturned = !failed := by
        rw [hplace]
        rfl
      refine ⟨hsound, fun hgoes => h.calm (hfailed.trans hgoes),
        fun hgoes => h.follows (hfailed.trans hgoes), fun hset => h.failed (hfailed.trans hset),
        h.taken, fun hset => h.emptied (hreturned.trans hset), fun _ _ => hphase,
        fun hopen hgoes => h.unmarked (hreturned.trans hopen) (hfailed.trans hgoes), h.limit, ?_⟩
      rintro (hraises | hset)
      · cases hraises
      · exact h.broken (Or.inr (hfailed.trans hset))
  | closed _ => exact h

theorem Running.turn (h : s.Running x supply writable) (hputs : supply.puts = []) (capacity : Nat)
    (side : Side) : (s.move capacity writable (.turn side)).Running x supply writable := by
  cases side with
  | exporter => exact h.advance capacity
  | drain => exact h.consumes hputs (s.consumes writable)

end Tandem

/-- How much there is to do with an item on the queue: it is taken, and its lines are written. -/
def Item.weight : Item → Nat
  | .batch ids => ids.size + 2
  | .endOfStream => 0

def weight : List Item → Nat
  | [] => 0
  | i :: rest => i.weight + weight rest

theorem weight_append (i₁ i₂ : List Item) : weight (i₁ ++ i₂) = weight i₁ + weight i₂ := by
  induction i₁ with
  | nil => simp [weight]
  | cons i rest ih =>
      simp only [List.cons_append, weight, ih]
      omega

theorem weight_le {i₁ i₂ : List Item} (h : i₁ <+: i₂) : weight i₁ ≤ weight i₂ := by
  obtain ⟨rest, rfl⟩ := h
  rw [weight_append]
  omega

/-- How much is left to do with what was taken, and after it. -/
def Place.effort : Place → Nat
  | .looks | .tests => 4
  | .writes _ rest => rest.length + 5
  | .raises => 3
  | .joins _ => 2
  | .closed _ => 0

namespace Tandem

section

variable (x : Exporter) (supply : Supply) (capacity : Nat) (s : Tandem)

/-- The work that is left: what the exporter has to do, what has to be taken and what has to be
written. -/
def work : Nat :=
  s.worker.effort + (weight (published (x.run supply).events) - weight (takenItems s.taken)) +
    s.place.effort

/-- Whether a look or an attempt of the exporter comes before the step that does some work. On a
full queue an exporter that is not stopped does none. -/
def hesitates : Bool :=
  match s.worker.phase with
  | .look _ => !s.worker.cancelled && s.queue.length < capacity
  | .offer _ => s.worker.cancelled
  | _ => false

/-- Whether the drain has to look again before it takes what is on the queue. -/
def retries : Bool := s.place = .tests && !s.queue.isEmpty

def rank : Nat := 3 * s.work x supply + (s.hesitates capacity).toNat + s.retries.toNat

/-- The side that can do some of the work. -/
def helper : Side :=
  match s.place with
  | .looks | .tests => if s.queue = [] then .exporter else .drain
  | .joins _ => if s.worker.phase = .ended then .drain else .exporter
  | _ => .drain

/-- Nothing will change any more: the export is closed, or its drain waits for the end that an
exporter that was broken off has not marked. -/
def AtEnd : Prop :=
  (∃ failed, s.place = .closed failed) ∨
    s.worker.phase = .ended ∧ s.queue = [] ∧ (s.place = .looks ∨ s.place = .tests)

end

variable {x : Exporter} {supply : Supply} {writable : Option Nat} {s s' : Tandem} {capacity : Nat}

/-- Less work makes the rank smaller, whatever is to come before the next work. -/
theorem rank_lt_of_work (h : s'.work x supply < s.work x supply) :
    s'.rank x supply capacity < s.rank x supply capacity := by
  have hbool : ∀ b : Bool, b.toNat ≤ 1 := fun b => by cases b <;> decide
  have hhesitates := hbool (s'.hesitates capacity)
  have hretries := hbool s'.retries
  unfold rank
  omega

/-- A step of the exporter does some work, or it is a look or an attempt on a full queue, or it is
no step at all. -/
theorem advance_cases (x : Exporter) (supply : Supply) (capacity : Nat) (s : Tandem) :
    (s.advance capacity).work x supply < s.work x supply ∨
      (∃ i, s.worker.phase = .look i ∧ s.worker.cancelled = false ∧
        s.advance capacity = { s with worker := s.worker.enter (.offer i) }) ∨
      (∃ i, s.worker.phase = .offer i ∧ capacity ≤ s.queue.length ∧
        s.advance capacity = { s with worker := s.worker.offer i ⟨false, false⟩ }) ∨
      s.worker.phase = .ended ∧ s.advance capacity = s := by
  have hputs : ∀ {phase : Phase}, s.worker.phase = phase → (∀ i, phase ≠ .offer i) →
      s.queue ++ s.worker.puts (s.room capacity) = s.queue := by
    intro phase hphase hother
    subst hphase
    unfold Worker.puts
    split
    · exact absurd ‹_› (hother _)
    · exact List.append_nil _
  rcases (s.worker.steps (s.room capacity)).effort with hless | ⟨-, hlook | hfull | hended⟩
  · refine Or.inl ?_
    simp only [work, advance]
    omega
  · obtain ⟨i, hphase, hlive, heq⟩ := hlook
    refine Or.inr (Or.inl ⟨i, hphase, hlive, ?_⟩)
    rw [advance, heq, hputs hphase (by simp)]
  · obtain ⟨i, hphase, haccepts, heq⟩ := hfull
    have hfull : decide (s.queue.length < capacity) = false := haccepts
    have hroom : s.room capacity = ⟨false, false⟩ := by rw [room, hfull]
    refine Or.inr (Or.inr (Or.inl ⟨i, hphase, ?_, ?_⟩))
    · simpa using hfull
    · rw [advance, heq, hroom]
      simp [Worker.puts, hphase]
  · obtain ⟨hphase, heq⟩ := hended
    refine Or.inr (Or.inr (Or.inr ⟨hphase, ?_⟩))
    rw [advance, heq, hputs hphase (by simp)]

theorem effort_look {w : Worker} {i : Item} (hphase : w.phase = .look i) :
    (w.enter (.offer i)).effort = w.effort := by
  cases i <;> simp [Worker.effort, Worker.enter, hphase, Phase.effort]

theorem effort_full {w : Worker} {i : Item} (hphase : w.phase = .offer i) :
    (w.offer i ⟨false, false⟩).effort = w.effort := by
  cases i <;> simp [Worker.effort, Worker.offer, hphase, Phase.effort]

/-- A look makes the rank smaller if the queue has room. -/
theorem rank_look {i : Item} (hphase : s.worker.phase = .look i)
    (hlive : s.worker.cancelled = false) :
    rank x supply capacity { s with worker := s.worker.enter (.offer i) } +
      (decide (s.queue.length < capacity)).toNat = s.rank x supply capacity := by
  have hbefore : s.hesitates capacity = decide (s.queue.length < capacity) := by
    simp [hesitates, hphase, hlive]
  have hnext : hesitates capacity { s with worker := s.worker.enter (.offer i) } = false := hlive
  simp only [rank, work, effort_look hphase, hnext, hbefore, retries, Bool.toNat_false]
  omega

/-- An attempt on a full queue makes the rank smaller if the exporter is stopped. -/
theorem rank_full {i : Item} (hphase : s.worker.phase = .offer i)
    (hfull : capacity ≤ s.queue.length) :
    rank x supply capacity { s with worker := s.worker.offer i ⟨false, false⟩ } +
      s.worker.cancelled.toNat = s.rank x supply capacity := by
  have hbefore : s.hesitates capacity = s.worker.cancelled := by simp [hesitates, hphase]
  have hnext : hesitates capacity { s with worker := s.worker.offer i ⟨false, false⟩ } = false := by
    simp [hesitates, Worker.offer, Nat.not_lt.mpr hfull]
  simp only [rank, work, effort_full hphase, hnext, hbefore, retries, Bool.toNat_false]
  omega

/-- A step of the exporter makes the rank smaller, or it leaves everything to the side that can do
so. -/
theorem advance_rank (x : Exporter) (supply : Supply) (capacity : Nat) (s : Tandem) :
    (s.advance capacity).rank x supply capacity < s.rank x supply capacity ∨
      (s.advance capacity).rank x supply capacity = s.rank x supply capacity ∧
        (s.advance capacity).helper = s.helper := by
  rcases advance_cases x supply capacity s with hless | hlook | hfull | ⟨-, heq⟩
  · exact Or.inl (rank_lt_of_work hless)
  · obtain ⟨i, hphase, hlive, heq⟩ := hlook
    have hrank : _ = s.rank x supply capacity := rank_look hphase hlive
    rw [← heq] at hrank
    cases hroom : decide (s.queue.length < capacity) with
    | true =>
        rw [hroom, Bool.toNat_true] at hrank
        exact Or.inl (by omega)
    | false =>
        rw [hroom, Bool.toNat_false] at hrank
        refine Or.inr ⟨by omega, ?_⟩
        rw [heq]
        simp [helper, Worker.enter, hphase]
  · obtain ⟨i, hphase, hroom, heq⟩ := hfull
    have hrank : _ = s.rank x supply capacity := rank_full hphase hroom
    rw [← heq] at hrank
    cases hcancelled : s.worker.cancelled with
    | true =>
        rw [hcancelled, Bool.toNat_true] at hrank
        exact Or.inl (by omega)
    | false =>
        rw [hcancelled, Bool.toNat_false] at hrank
        refine Or.inr ⟨by omega, ?_⟩
        rw [heq]
        simp [helper, Worker.offer, hphase]
  · rw [heq]
    exact Or.inr ⟨rfl, rfl⟩

/-- When the drain waits for the exporter, there is room on the queue, or the exporter is stopped or
about to end. -/
theorem Running.waits_for_exporter (h : s.Running x supply writable) (hopen : ¬s.AtEnd)
    (hhelper : s.helper = .exporter) :
    s.worker.phase ≠ .ended ∧
      (s.queue = [] ∨ s.worker.cancelled = true ∨ s.worker.phase.isOver = true) := by
  have hlooks : s.place = .looks ∨ s.place = .tests →
      (if s.queue = [] then Side.exporter else .drain) = .exporter →
        s.worker.phase ≠ .ended ∧ s.queue = [] := by
    intro hplace hside
    split at hside
    · rename_i hempty
      exact ⟨fun hended => hopen (Or.inr ⟨hended, hempty, hplace⟩), hempty⟩
    · cases hside
  unfold helper at hhelper
  cases hplace : s.place with
  | looks =>
      rw [hplace] at hhelper
      obtain ⟨hgoes, hempty⟩ := hlooks (Or.inl hplace) hhelper
      exact ⟨hgoes, Or.inl hempty⟩
  | tests =>
      rw [hplace] at hhelper
      obtain ⟨hgoes, hempty⟩ := hlooks (Or.inr hplace) hhelper
      exact ⟨hgoes, Or.inl hempty⟩
  | writes batch rest =>
      rw [hplace] at hhelper
      cases hhelper
  | raises =>
      rw [hplace] at hhelper
      cases hhelper
  | joins failed =>
      rw [hplace] at hhelper
      refine ⟨fun hended => ?_, Or.inr ?_⟩
      · rw [if_pos hended] at hhelper
        cases hhelper
      · cases failed with
        | true => exact Or.inl (h.failed (by rw [hplace]; rfl))
        | false => exact Or.inr (h.sound.finished (by rw [hplace]; rfl))
  | closed failed => exact absurd (Or.inl ⟨failed, hplace⟩) hopen

/-- The exporter makes the rank smaller if the drain waits for it. -/
theorem Running.advance_rank (h : s.Running x supply writable) (hcapacity : 0 < capacity)
    (hopen : ¬s.AtEnd) (hhelper : s.helper = .exporter) :
    (s.advance capacity).rank x supply capacity < s.rank x supply capacity := by
  obtain ⟨hgoes, hwaits⟩ := h.waits_for_exporter hopen hhelper
  rcases advance_cases x supply capacity s with hless | hlook | hfull | ⟨hended, -⟩
  · exact rank_lt_of_work hless
  · obtain ⟨i, hphase, hlive, heq⟩ := hlook
    have hrank : _ = s.rank x supply capacity := rank_look hphase hlive
    rw [← heq] at hrank
    rcases hwaits with hempty | hstopped | hover
    · rw [hempty, List.length_nil, decide_eq_true hcapacity, Bool.toNat_true] at hrank
      omega
    · rw [hlive] at hstopped
      cases hstopped
    · rw [hphase] at hover
      cases hover
  · obtain ⟨i, hphase, hroom, heq⟩ := hfull
    have hrank : _ = s.rank x supply capacity := rank_full hphase hroom
    rw [← heq] at hrank
    rcases hwaits with hempty | hstopped | hover
    · rw [hempty, List.length_nil] at hroom
      omega
    · rw [hstopped, Bool.toNat_true] at hrank
      omega
    · rw [hphase] at hover
      cases hover
  · exact absurd hended hgoes

/-- What a step of the drain does to the rank. -/
theorem Running.consumes_rank (h : s.Running x supply writable) (hputs : supply.puts = [])
    (capacity : Nat) (hopen : ¬s.AtEnd) (hstep : s.Consumes writable s') :
    s'.rank x supply capacity < s.rank x supply capacity ∨
      s'.rank x supply capacity = s.rank x supply capacity ∧ s'.helper = s.helper ∧
        s.helper = .exporter := by
  have hflags : takenItems (s.taken ++ [s.flags]) = takenItems s.taken := takenItems_flags s
  have hnext : ∀ {i : Item} {queue : List Item}, s.place = .looks → s.queue = i :: queue →
      weight (takenItems (s.taken ++ takes [i])) ≤ weight (published (x.run supply).events) ∧
        weight (takenItems (s.taken ++ takes [i])) = weight (takenItems s.taken) + i.weight := by
    intro i queue hplace hqueue
    refine ⟨weight_le (h.taken_next hputs (by rw [hplace]; rfl) hqueue), ?_⟩
    rw [takenItems_append, takenItems_takes, weight_append]
    rfl
  cases hstep with
  | empty hplace hqueue =>
      refine Or.inr ⟨?_, ?_, ?_⟩
      · simp [rank, work, hesitates, retries, hplace, hqueue, Place.effort]
      · simp [helper, hplace]
      · simp [helper, hplace, hqueue]
  | @batch ids queue hplace hqueue =>
      obtain ⟨hle, heq⟩ := hnext hplace hqueue
      refine Or.inl (rank_lt_of_work ?_)
      simp only [work, hplace, Place.effort, Item.weight, heq, IdSet.size] at hle ⊢
      omega
  | mark hplace hqueue =>
      obtain ⟨hle, heq⟩ := hnext hplace hqueue
      refine Or.inl (rank_lt_of_work ?_)
      simp only [work, hplace, Place.effort, Item.weight, heq] at hle ⊢
      omega
  | returns hplace _ _ =>
      refine Or.inl (rank_lt_of_work ?_)
      simp only [work, hplace, Place.effort, hflags]
      omega
  | again hplace _ =>
      cases hqueue : s.queue with
      | nil =>
          refine Or.inr ⟨?_, ?_, ?_⟩
          · simp [rank, work, hesitates, retries, hplace, hqueue, Place.effort, hflags]
          · simp [helper, hplace, hqueue]
          · simp [helper, hplace, hqueue]
      | cons i queue =>
          refine Or.inl ?_
          simp [rank, work, hesitates, retries, hplace, hqueue, Place.effort, hflags]
  | written hplace =>
      refine Or.inl (rank_lt_of_work ?_)
      simp only [work, hplace, Place.effort, List.length_nil]
      omega
  | line hplace _ =>
      refine Or.inl (rank_lt_of_work ?_)
      simp only [work, hplace, Place.effort, List.length_cons]
      omega
  | breaks hplace _ =>
      refine Or.inl (rank_lt_of_work ?_)
      simp only [work, hplace, Place.effort, List.length_cons]
      omega
  | stops hplace =>
      refine Or.inl (rank_lt_of_work ?_)
      have heffort : s.worker.stop.effort = s.worker.effort := rfl
      simp only [work, stop, hplace, Place.effort, heffort]
      omega
  | waits hplace hphase =>
      refine Or.inr ⟨rfl, rfl, ?_⟩
      simp [helper, hplace, hphase]
  | closes hplace _ =>
      refine Or.inl (rank_lt_of_work ?_)
      simp only [work, hplace, Place.effort]
      omega
  | closed hplace => exact absurd (Or.inl ⟨_, hplace⟩) hopen

/-- The export after the first turns of a schedule. -/
def during (x : Exporter) (supply : Supply) (capacity : Nat) (writable : Option Nat)
    (schedule : Nat → Side) : Nat → Tandem
  | 0 => fresh x supply
  | n + 1 => (during x supply capacity writable schedule n).move capacity writable
      (.turn (schedule n))

theorem running_during {plan : Plan} (hx : Exporter.create plan = .ok x)
    (hanswers : ∀ a ∈ supply.answers, a.cancels = false) (hputs : supply.puts = [])
    (capacity : Nat) (writable : Option Nat) (schedule : Nat → Side) (n : Nat) :
    (during x supply capacity writable schedule n).Running x supply writable := by
  induction n with
  | zero => exact running_fresh hx hanswers
  | succ n ih => exact ih.turn hputs capacity (schedule n)

/-- Under a fair schedule an export comes to its end, or its drain waits for ever. -/
theorem exists_atEnd {plan : Plan} (hx : Exporter.create plan = .ok x)
    (hanswers : ∀ a ∈ supply.answers, a.cancels = false) (hputs : supply.puts = [])
    (hcapacity : 0 < capacity) (writable : Option Nat) {schedule : Nat → Side}
    (hfair : Fair schedule) : ∃ n, (during x supply capacity writable schedule n).AtEnd := by
  have hrunning := running_during hx hanswers hputs capacity writable schedule
  refine exists_goal (fun s side => s.move capacity writable (.turn side))
    (rank x supply capacity) helper (fun _ => rfl) hfair hrunning ?_ ?_
  · intro s h hopen
    cases hside : s.helper with
    | exporter => exact h.advance_rank hcapacity hopen hside
    | drain =>
        rcases h.consumes_rank hputs capacity hopen (s.consumes writable) with
          hless | ⟨-, -, hother⟩
        · exact hless
        · rw [hside] at hother
          cases hother
  · intro s side h hopen
    cases side with
    | exporter => exact Tandem.advance_rank x supply capacity s
    | drain =>
        rcases h.consumes_rank hputs capacity hopen (s.consumes writable) with
          hless | ⟨hrank, hhelper, -⟩
        · exact Or.inl hless
        · exact Or.inr ⟨hrank, hhelper⟩

end Tandem

end Export

end SearchBridge
