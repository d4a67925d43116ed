import SearchBridge.Proofs.Bookkeeping
import SearchBridge.Proofs.Turns
import SearchBridge.Proofs.Worker
/-!
An export step by step.

The exporter and the drain of a job act one after the other in any order, and somebody may ask the
export to stop between any two of their steps. That the drain finds the queue empty and that it
tests the flags of the export are two steps, and so are the failure of a write and what is done
about it. Whatever the order is, the drain takes from the queue what the exporter put on it, first
in and first out, and makes of it what a drain makes of a list of takes.
-/

namespace SearchBridge

namespace Export

/-- Whether nothing will be put on the queue any more. -/
def Phase.isOver : Phase → Bool
  | .finish | .ended => true
  | _ => false

def Phase.batch? : Phase → Option IdSet
  | .look (.batch ids) | .offer (.batch ids) => some ids
  | _ => none

/-- The batches that the queue has accepted and that are not counted yet. -/
def Phase.uncounted : Phase → List IdSet
  | .count ids => [ids]
  | _ => []

theorem Phase.uncounted_of_isOver {phase : Phase} (h : phase.isOver = true) :
    phase.uncounted = [] := by
  cases phase <;> first | rfl | cases h

theorem Exporter.eq_of_create {plan : Plan} {x : Exporter} (h : create plan = .ok x) :
    x = ⟨plan, false, false, false, 0, 0, none⟩ := by
  unfold create at h
  split at h
  · cases h
  · cases h
    rfl

namespace Worker

/-- What a step puts on the queue. -/
def puts (w : Worker) (met : PutAction) : List Item :=
  match w.phase with
  | .offer i => if met.accepts then [i] else []
  | _ => []

/-- The exporter keeps its books in the course of a run: it has counted what it put on the queue,
the mark of the end comes last, and it is not done before it has ended. -/
structure Kept (w : Worker) : Prop where
  filled : ∀ ids, ids ∈ publishedBatches w.events ∨ w.phase.batch? = some ids → 0 < ids.size
  items : published w.events = (publishedBatches w.events).map .batch ∨
    published w.events = (publishedBatches w.events).map .batch ++ [.endOfStream] ∧
      w.phase.isOver = true
  counted : idCount (publishedBatches w.events) =
    w.exporter.idsExported + idCount w.phase.uncounted
  done : w.exporter.done = true → w.phase = .ended

variable {w w' : Worker}

theorem Kept.unmarked (h : w.Kept) (hgoes : w.phase.isOver = false) :
    published w.events = (publishedBatches w.events).map .batch := by
  rcases h.items with hitems | ⟨-, hover⟩
  · exact hitems
  · rw [hgoes] at hover
    cases hover

/-- A step that puts nothing on the queue and counts nothing. -/
theorem Kept.quiet (h : w.Kept) {phase : Phase} (hphase : w.phase = phase)
    (hgoes : phase.isOver = false) (hcounted : phase.uncounted = [])
    (hpublished : published w'.events = published w.events)
    (hids : w'.exporter.idsExported = w.exporter.idsExported)
    (hdone : w'.exporter.done = w.exporter.done) (huncounted : w'.phase.uncounted = [])
    (hfilled : ∀ ids, w'.phase.batch? = some ids → 0 < ids.size) : w'.Kept := by
  subst hphase
  have hbatches : publishedBatches w'.events = publishedBatches w.events := by
    rw [publishedBatches, hpublished, publishedBatches]
  refine ⟨?_, Or.inl ?_, ?_, ?_⟩
  · rintro ids (hids | hids)
    · exact h.filled ids (Or.inl (hbatches ▸ hids))
    · exact hfilled ids hids
  · rw [hbatches, hpublished, h.unmarked hgoes]
  · rw [hbatches, h.counted, hids, hcounted, huncounted]
  · intro hset
    have hended := h.done (hdone ▸ hset)
    rw [hended] at hgoes
    cases hgoes

theorem kept_start {plan : Plan} {x : Exporter} (hx : Exporter.create plan = .ok x)
    (supply : Supply) : (start x supply).Kept := by
  rw [Exporter.eq_of_create hx]
  refine ⟨?_, Or.inl rfl, rfl, ?_⟩
  · rintro ids (hids | hids) <;> cases hids
  · intro hset
    cases hset

theorem Kept.stop (h : w.Kept) : w.stop.Kept := ⟨h.filled, h.items, h.counted, h.done⟩

theorem Kept.offer {i : Item} (h : w.Kept) (hphase : w.phase = .offer i) (met : PutAction) :
    (w.offer i met).Kept := by
  have hgoes : w.phase.isOver = false := by rw [hphase]; rfl
  have hcounted : w.phase.uncounted = [] := by rw [hphase]; rfl
  have hfilled : ∀ ids, (Phase.offer i).batch? = some ids → 0 < ids.size :=
    fun ids hids => h.filled ids (Or.inr (hphase ▸ hids))
  have hlive : ¬w.exporter.done = true := by
    intro hset
    rw [h.done hset] at hgoes
    cases hgoes
  cases haccepts : met.accepts with
  | false =>
      refine h.quiet rfl hgoes hcounted ?_ rfl rfl ?_ ?_
      · simp [Worker.offer, published_eq, acceptedItems, haccepts]
      · simp [Worker.offer, haccepts, Phase.uncounted]
      · intro ids hids
        simp only [Worker.offer, haccepts, Bool.false_eq_true, if_false] at hids
        cases i with
        | batch _ => exact hfilled ids hids
        | endOfStream => cases hids
  | true =>
      have hpublished : published (w.offer i met).events = published w.events ++ [i] := by
        simp [Worker.offer, published_eq, acceptedItems, haccepts]
      have hbatches : publishedBatches (w.offer i met).events =
          publishedBatches w.events ++ i.batch?.toList := by
        rw [publishedBatches, hpublished, List.filterMap_append]
        cases i <;> rfl
      have hphase' : (w.offer i met).phase = i.accepted := by
        simp [Worker.offer, haccepts]
      have hunmarked := h.unmarked hgoes
      cases i with
      | batch ids =>
          refine ⟨?_, Or.inl ?_, ?_, fun hset => absurd hset hlive⟩
          · rintro other (hother | hother)
            · rw [hbatches] at hother
              rcases List.mem_append.mp hother with hbefore | hhere
              · exact h.filled other (Or.inl hbefore)
              · rw [List.mem_singleton.mp hhere]
                exact hfilled ids rfl
            · rw [hphase'] at hother
              cases hother
          · rw [hpublished, hbatches, hunmarked]
            simp [Item.batch?]
          · rw [hbatches, hphase', idCount_append, h.counted, hcounted]
            rfl
      | endOfStream =>
          refine ⟨?_, Or.inr ⟨?_, ?_⟩, ?_, fun hset => absurd hset hlive⟩
          · rintro other (hother | hother)
            · rw [hbatches] at hother
              exact h.filled other (Or.inl (by simpa [Item.batch?] using hother))
            · rw [hphase'] at hother
              cases hother
          · rw [hpublished, hbatches, hunmarked]
            simp [Item.batch?]
          · rw [hphase']
            rfl
          · rw [hbatches, hphase', Item.batch?, Option.toList_none, List.append_nil, h.counted,
              hcounted]
            rfl

theorem Kept.steps (h : w.Kept) {met : PutAction} (hstep : w.Steps met w') : w'.Kept := by
  have hnone : ∀ ids : IdSet, none = some ids → 0 < ids.size := fun ids hids => by cases hids
  cases hstep with
  | lost hphase _ => exact h.quiet hphase rfl rfl (published_concat _ _) rfl rfl rfl hnone
  | brought hphase _ => exact h.quiet hphase rfl rfl (published_concat _ _) rfl rfl rfl hnone
  | stopped hphase _ => exact h.quiet hphase rfl rfl rfl rfl rfl rfl hnone
  | faulty hphase _ => exact h.quiet hphase rfl rfl rfl rfl rfl rfl hnone
  | complete hphase _ => exact h.quiet hphase rfl rfl rfl rfl rfl rfl hnone
  | filled hphase _ hfilled =>
      refine h.quiet hphase rfl rfl rfl rfl rfl rfl fun ids hids => ?_
      cases hids
      exact hfilled
  | @dropped i hphase _ => cases i <;> exact h.quiet hphase rfl rfl rfl rfl rfl rfl hnone
  | @looked i hphase _ =>
      refine h.quiet hphase rfl rfl rfl rfl rfl rfl fun ids hids => ?_
      refine h.filled ids (Or.inr ?_)
      rw [hphase]
      cases i <;> exact hids
  | accepted hphase _ => exact h.offer hphase met
  | full hphase _ => exact h.offer hphase met
  | counted hphase =>
      refine ⟨?_, Or.inl (h.unmarked (by rw [hphase]; rfl)), ?_, ?_⟩
      · rintro ids (hids | hids)
        · exact h.filled ids (Or.inl hids)
        · cases hids
      · have hcounted := h.counted
        rw [hphase] at hcounted
        exact hcounted
      · intro hset
        rw [h.done hset] at hphase
        cases hphase
  | unopened hphase _ => exact h.quiet hphase rfl rfl rfl rfl rfl rfl hnone
  | cleared hphase _ =>
      refine h.quiet hphase rfl rfl (published_concat _ _) rfl rfl ?_ ?_
      · simp only [cleared]
        split <;> rfl
      · simp only [cleared]
        split <;> exact hnone
  | finished hphase =>
      have hcounted := h.counted
      have hitems := h.items
      rw [hphase] at hcounted hitems
      refine ⟨?_, ?_, hcounted, fun _ => rfl⟩
      · rintro ids (hids | hids)
        · exact h.filled ids (Or.inl hids)
        · cases hids
      · exact hitems
  | ended hphase => exact h

theorem published_step (w : Worker) (met : PutAction) :
    published (w.step met).events = published w.events ++ w.puts met := by
  have hstep := w.steps met
  generalize w.step met = w' at hstep
  have hquiet : ∀ {phase : Phase}, w.phase = phase → (∀ i, phase ≠ .offer i) →
      published w'.events = published w.events →
        published w'.events = published w.events ++ w.puts met := by
    intro phase hphase hother heq
    have hnone : w.puts met = [] := by
      unfold puts
      rw [hphase]
      split
      · exact absurd rfl (hother _)
      · rfl
    rw [hnone, List.append_nil, heq]
  cases hstep with
  | lost hphase _ => exact hquiet hphase (by simp) (published_concat _ _)
  | brought hphase _ => exact hquiet hphase (by simp) (published_concat _ _)
  | stopped hphase _ => exact hquiet hphase (by simp) rfl
  | faulty hphase _ => exact hquiet hphase (by simp) rfl
  | complete hphase _ => exact hquiet hphase (by simp) rfl
  | filled hphase _ _ => exact hquiet hphase (by simp) rfl
  | dropped hphase _ => exact hquiet hphase (by simp) rfl
  | looked hphase _ => exact hquiet hphase (by simp) rfl
  | accepted hphase haccepts =>
      simp [puts, hphase, haccepts, offer, published_eq, acceptedItems]
  | full hphase haccepts =>
      simp [puts, hphase, haccepts, offer, published_eq, acceptedItems]
  | counted hphase => exact hquiet hphase (by simp) rfl
  | unopened hphase _ => exact hquiet hphase (by simp) rfl
  | cleared hphase _ => exact hquiet hphase (by simp) (published_concat _ _)
  | finished hphase => exact hquiet hphase (by simp) rfl
  | ended hphase => exact hquiet hphase (by simp) rfl

/-- What a step does not take back. -/
structure Extends (w w' : Worker) : Prop where
  done : w.exporter.done = true → w'.exporter.done = true
  cancelled : w.cancelled = true → w'.cancelled = true
  finished : w.phase.isOver = true → w'.phase.isOver = true
  events : w.events <+: w'.events

theorem extends_step (w : Worker) (met : PutAction) : w.Extends (w.step met) := by
  have hstep := w.steps met
  generalize w.step met = w' at hstep
  have hphases : ∀ {phase : Phase}, w.phase = phase → phase.isOver = false →
      w.phase.isOver = true → w'.phase.isOver = true := by
    intro phase hphase hgoes hover
    rw [hphase, hgoes] at hover
    cases hover
  have hor : ∀ b : Bool, w.cancelled = true → (w.cancelled || b) = true := by
    intro b hset
    rw [hset, Bool.true_or]
  have hrefl : w.events <+: w.events := List.prefix_rfl
  cases hstep with
  | lost hphase _ => exact ⟨id, hor _, hphases hphase rfl, List.prefix_append _ _⟩
  | brought hphase _ => exact ⟨id, hor _, hphases hphase rfl, List.prefix_append _ _⟩
  | stopped hphase _ => exact ⟨id, id, hphases hphase rfl, hrefl⟩
  | faulty hphase _ => exact ⟨id, id, hphases hphase rfl, hrefl⟩
  | complete hphase _ => exact ⟨id, id, hphases hphase rfl, hrefl⟩
  | filled hphase _ _ => exact ⟨id, id, hphases hphase rfl, hrefl⟩
  | dropped hphase _ => exact ⟨id, id, hphases hphase rfl, hrefl⟩
  | looked hphase _ => exact ⟨id, id, hphases hphase rfl, hrefl⟩
  | accepted hphase _ => exact ⟨id, hor _, hphases hphase rfl, List.prefix_append _ _⟩
  | full hphase _ => exact ⟨id, hor _, hphases hphase rfl, List.prefix_append _ _⟩
  | counted hphase => exact ⟨id, id, hphases hphase rfl, hrefl⟩
  | unopened hphase _ => exact ⟨id, id, hphases hphase rfl, hrefl⟩
  | @cleared token hphase _ =>
      refine ⟨id, fun hset => ?_, hphases hphase rfl, List.prefix_append _ _⟩
      have hflag := (clear_drop w.plan token w.cancelled w.answers 0).2.1
      rw [List.drop_zero] at hflag
      exact hflag.trans (hor _ hset)
  | finished hphase => exact ⟨fun _ => rfl, id, fun _ => rfl, hrefl⟩
  | ended hphase => exact ⟨id, id, id, hrefl⟩

theorem extends_stop (w : Worker) : w.Extends w.stop :=
  ⟨id, fun _ => rfl, id, List.prefix_rfl⟩

end Worker

/-- Where the drain, and what comes after it, stands. -/
inductive Place where
  /-- It is about to take from the queue. -/
  | looks
  /-- It found the queue empty and is about to test the flags of the export. -/
  | tests
  /-- It is about to write what is left of the lines of a batch. -/
  | writes (batch : IdSet) (rest : List Text)
  /-- A write has failed, and it is about to stop the export. -/
  | raises
  /-- The drain is over, and what comes after it waits for the exporter. -/
  | joins (failed : Bool)
  | closed (failed : Bool)
  deriving DecidableEq, Repr

/-- Whether the drain is over and has not failed. -/
def Place.hasReturned : Place → Bool
  | .joins failed | .closed failed => !failed
  | _ => false

def Item.place : Item → Place
  | .batch ids => .writes ids ids.toList
  | .endOfStream => .joins false

/-- An export between two steps: its exporter, what is on the queue, where the drain stands, the
lines written, how many ids it has counted and what was taken. -/
structure Tandem where
  worker : Worker
  queue : List Item
  place : Place
  lines : List Text
  written : Nat
  taken : List (Take Unit)

namespace Tandem

variable (capacity : Nat) (writable : Option Nat) (s : Tandem)

def fresh (x : Exporter) (supply : Supply) : Tandem :=
  ⟨.start x supply, [], .looks, [], 0, []⟩

/-- What an attempt to put an item meets. The queue has room for as many items as its capacity
says. -/
def room : PutAction := ⟨false, s.queue.length < capacity⟩

def advance : Tandem :=
  { s with
    worker := s.worker.step (s.room capacity)
    queue := s.queue ++ s.worker.puts (s.room capacity) }

def take : Tandem :=
  match s.queue with
  | [] => { s with place := .tests }
  | i :: rest => { s with queue := rest, place := i.place, taken := s.taken ++ takes [i] }

/-- What the drain sees when it tests the flags of the export. -/
def flags : Take Unit := ⟨s.worker.exporter.done, s.worker.cancelled, .empty⟩

/-- Tests the flags of the export after the queue was found empty. -/
def test : Tandem :=
  { s with
    place := if s.worker.exporter.done && s.worker.cancelled then .joins false else .looks
    taken := s.taken ++ [s.flags] }

/-- Writes a line of a batch. The output takes `writable` lines at most, any number if that is
absent. -/
def write (batch : IdSet) (l : Text) (rest : List Text) : Tandem :=
  if writable.all (s.lines.length < ·) then
    { s with place := .writes batch rest, lines := s.lines ++ [l] }
  else { s with place := .raises }

def stop : Tandem := { s with worker := s.worker.stop }

def consume : Tandem :=
  match s.place with
  | .looks => s.take
  | .tests => s.test
  | .writes batch [] => { s with place := .looks, written := s.written + batch.size }
  | .writes batch (l :: rest) => s.write writable batch l rest
  | .raises => { s.stop with place := .joins true }
  | .joins failed => if s.worker.phase = .ended then { s with place := .closed failed } else s
  | .closed _ => s

/-- What a step of the drain can do, in the order of an export. -/
inductive Consumes : Tandem → Prop
  | empty : s.place = .looks → s.queue = [] → Consumes { s with place := .tests }
  | batch {ids : IdSet} {queue : List Item} :
      s.place = .looks → s.queue = .batch ids :: queue →
      Consumes { s with
        queue := queue, place := .writes ids ids.toList, taken := s.taken ++ takes [.batch ids] }
  | mark {queue : List Item} :
      s.place = .looks → s.queue = .endOfStream :: queue →
      Consumes { s with
        queue := queue, place := .joins false, taken := s.taken ++ takes [.endOfStream] }
  | returns :
      s.place = .tests → s.worker.exporter.done = true → s.worker.cancelled = true →
      Consumes { s with place := .joins false, taken := s.taken ++ [s.flags] }
  | again :
      s.place = .tests → (s.worker.exporter.done && s.worker.cancelled) = false →
      Consumes { s with place := .looks, taken := s.taken ++ [s.flags] }
  | written {batch : IdSet} :
      s.place = .writes batch [] →
      Consumes { s with place := .looks, written := s.written + batch.size }
  | line {batch : IdSet} {l : Text} {rest : List Text} :
      s.place = .writes batch (l :: rest) → writable.all (s.lines.length < ·) = true →
      Consumes { s with place := .writes batch rest, lines := s.lines ++ [l] }
  | breaks {batch : IdSet} {l : Text} {rest : List Text} :
      s.place = .writes batch (l :: rest) → writable.all (s.lines.length < ·) = false →
      Consumes { s with place := .raises }
  | stops : s.place = .raises → Consumes { s.stop with place := .joins true }
  | waits {failed : Bool} : s.place = .joins failed → s.worker.phase ≠ .ended → Consumes s
  | closes {failed : Bool} :
      s.place = .joins failed → s.worker.phase = .ended →
      Consumes { s with place := .closed failed }
  | closed {failed : Bool} : s.place = .closed failed → Consumes s

theorem consumes : Consumes writable s (s.consume writable) := by
  cases hplace : s.place with
  | looks =>
      simp only [consume, hplace, take]
      split
      · exact .empty hplace ‹_›
      · rename_i i queue hqueue
        cases i with
        | batch ids => exact .batch hplace hqueue
        | endOfStream => exact .mark hplace hqueue
  | tests =>
      simp only [consume, hplace, test]
      split
      · rename_i hflags
        obtain ⟨hdone, hcancelled⟩ := Bool.and_eq_true_iff.mp hflags
        exact .returns hplace hdone hcancelled
      · rename_i hflags
        exact .again hplace (Bool.not_eq_true _ ▸ hflags)
  | writes batch rest =>
      cases rest with
      | nil =>
          simp only [consume, hplace]
          exact .written hplace
      | cons l rest =>
          simp only [consume, hplace, write]
          split
          · exact .line hplace ‹_›
          · rename_i hfull
            exact .breaks hplace (Bool.not_eq_true _ ▸ hfull)
  | raises =>
      simp only [consume, hplace]
      exact .stops hplace
  | joins failed =>
      simp only [consume, hplace]
      split
      · exact .closes hplace ‹_›
      · exact .waits hplace ‹_›
  | closed failed =>
      simp only [consume, hplace]
      exact .closed hplace

end Tandem

/-- What may happen next to an export: a side takes a step, or somebody asks it to stop. -/
inductive Move where
  | turn (side : Side)
  | stop
  deriving DecidableEq, Repr

namespace Tandem

variable (capacity : Nat) (writable : Option Nat)

def move (s : Tandem) : Move → Tandem
  | .turn .exporter => s.advance capacity
  | .turn .drain => s.consume writable
  | .stop => s.stop

def after (s : Tandem) (moves : List Move) : Tandem := moves.foldl (move capacity writable) s

end Tandem

/-- The lines of the batches that takes yielded. -/
def takenLines (taken : List (Take Unit)) : List Text := (batches taken).flatMap (·.toList)

/-- What may be left of the batches that were taken, seen from where the drain stands: lines that
are not written yet, and ids that are not counted yet. -/
def Place.Leaves : Place → List Text → Nat → Prop
  | .looks, rest, due | .tests, rest, due | .joins false, rest, due | .closed false, rest, due =>
      rest = [] ∧ due = 0
  | .writes batch left, rest, due => rest = left ∧ due = batch.size
  | .raises, _, _ | .joins true, _, _ | .closed true, _, _ => True

theorem Place.Leaves.nothing {place : Place} {rest : List Text} {due : Nat}
    (h : place.Leaves rest due) (hreturned : place.hasReturned = true) : rest = [] ∧ due = 0 := by
  match place, hreturned with
  | .joins false, _ => exact h
  | .closed false, _ => exact h

namespace Tandem

/-- A drain of what was taken goes on behind it with the given flags. -/
def Continues (s : Tandem) (done cancelled : Bool) : Prop :=
  ∀ more, drain () false false (s.taken ++ more) =
    (drain () done cancelled more).after (batches s.taken)

/-- A drain of what was taken ends with it. -/
def Ends (s : Tandem) : Prop :=
  ∀ more, drain () false false (s.taken ++ more) =
    Drained.after ⟨[], 0, more.length, none⟩ (batches s.taken)

/-- What holds between the steps of an export. -/
structure Sound (s : Tandem) : Prop where
  kept : s.worker.Kept
  /-- The queue hands out what was put on it, in order. -/
  fifo : takenItems s.taken ++ s.queue = published s.worker.events
  written : ∃ rest due, takenLines s.taken = s.lines ++ rest ∧
    idCount (batches s.taken) = s.written + due ∧ s.place.Leaves rest due
  /-- The takes make a drain go on, and it has seen no flag that is not set. -/
  continues : s.place.hasReturned = false → ∃ done cancelled,
    (done = true → s.worker.exporter.done = true) ∧
      (cancelled = true → s.worker.cancelled = true) ∧ s.Continues done cancelled
  ends : s.place.hasReturned = true → s.Ends
  finished : s.place.hasReturned = true → s.worker.phase.isOver = true

variable {s : Tandem}

theorem sound_fresh {plan : Plan} {x : Exporter} (hx : Exporter.create plan = .ok x)
    (supply : Supply) : (fresh x supply).Sound where
  kept := Worker.kept_start hx supply
  fifo := rfl
  written := ⟨[], 0, rfl, rfl, rfl, rfl⟩
  continues := fun _ => ⟨false, false, by simp, by simp, fun _ => Drained.after_nil.symm⟩
  ends := fun hreturned => by cases hreturned
  finished := fun hreturned => by cases hreturned

/-- What the exporter does and what others ask of it leaves the takes as they are. -/
theorem Sound.extend (h : s.Sound) {w : Worker} (items : List Item) (hkept : w.Kept)
    (hpublished : published w.events = published s.worker.events ++ items)
    (hextends : s.worker.Extends w) :
    Sound { s with worker := w, queue := s.queue ++ items } where
  kept := hkept
  fifo := by rw [hpublished, ← h.fifo, List.append_assoc]
  written := h.written
  continues := fun hgoes => by
    obtain ⟨done, cancelled, hdone, hcancelled, hcontinues⟩ := h.continues hgoes
    exact ⟨done, cancelled, fun hset => hextends.done (hdone hset),
      fun hset => hextends.cancelled (hcancelled hset), hcontinues⟩
  ends := h.ends
  finished := fun hreturned => hextends.finished (h.finished hreturned)

theorem Sound.advance (h : s.Sound) (capacity : Nat) : (s.advance capacity).Sound :=
  h.extend _ (h.kept.steps (s.worker.steps _)) (s.worker.published_step _) (s.worker.extends_step _)

theorem Sound.stop (h : s.Sound) : s.stop.Sound := by
  have hstop := h.extend [] h.kept.stop (List.append_nil _).symm s.worker.extends_stop
  rw [List.append_nil] at hstop
  exact hstop

/-- A step that takes nothing and does not end the drain. -/
theorem Sound.step (h : s.Sound) {place : Place} {lines : List Text} {written : Nat}
    {rest : List Text} {due : Nat} (hreturned : place.hasReturned = s.place.hasReturned)
    (hlines : takenLines s.taken = lines ++ rest)
    (hcount : idCount (batches s.taken) = written + due) (hleaves : place.Leaves rest due) :
    Sound { s with place := place, lines := lines, written := written } where
  kept := h.kept
  fifo := h.fifo
  written := ⟨rest, due, hlines, hcount, hleaves⟩
  continues := fun hgoes => h.continues (hreturned ▸ hgoes)
  ends := fun hends => h.ends (hreturned ▸ hends)
  finished := fun hends => h.finished (hreturned ▸ hends)

/-- Nothing is left of what was taken, unless the drain is writing or has failed. -/
theorem Sound.all_written (h : s.Sound)
    (hplace : ∀ rest due, s.place.Leaves rest due → rest = [] ∧ due = 0) :
    takenLines s.taken = s.lines ∧ idCount (batches s.taken) = s.written := by
  obtain ⟨rest, due, hlines, hcount, hleaves⟩ := h.written
  obtain ⟨rfl, rfl⟩ := hplace rest due hleaves
  exact ⟨hlines.trans (List.append_nil _), hcount⟩

theorem Continues.concat {done cancelled : Bool} (h : s.Continues done cancelled)
    (more : List (Take Unit)) (t : Take Unit) :
    drain () false false ((s.taken ++ [t]) ++ more) =
      (drain () done cancelled (t :: more)).after (batches s.taken) := by
  rw [List.append_assoc]
  exact h ([t] ++ more)

/-- Nothing follows the mark of the end on the queue. -/
theorem Sound.last_mark (h : s.Sound) {queue : List Item}
    (hqueue : s.queue = .endOfStream :: queue) :
    takenItems s.taken = (publishedBatches s.worker.events).map .batch ∧ queue = [] := by
  have hbatch : ∀ batches : List IdSet, Item.endOfStream ∉ batches.map Item.batch := by
    intro batches hmem
    obtain ⟨_, -, himpossible⟩ := List.mem_map.mp hmem
    cases himpossible
  have hfifo := h.fifo
  rw [hqueue] at hfifo
  rcases h.kept.items with hitems | ⟨hitems, -⟩
  · rw [hitems] at hfifo
    refine absurd ?_ (hbatch (publishedBatches s.worker.events))
    rw [← hfifo]
    exact List.mem_append_right _ List.mem_cons_self
  · rw [hitems] at hfifo
    rcases List.eq_nil_or_concat queue with rfl | ⟨init, last, rfl⟩
    · exact ⟨(List.append_inj' hfifo rfl).1, rfl⟩
    · rw [List.concat_eq_append, ← List.cons_append, ← List.append_assoc] at hfifo
      refine absurd ?_ (hbatch (publishedBatches s.worker.events))
      rw [← (List.append_inj' hfifo rfl).1]
      exact List.mem_append_right _ List.mem_cons_self

theorem takenItems_flags (s : Tandem) : takenItems (s.taken ++ [s.flags]) = takenItems s.taken := by
  rw [takenItems_append]
  exact List.append_nil _

theorem batches_flags (s : Tandem) : batches (s.taken ++ [s.flags]) = batches s.taken := by
  rw [batches, takenItems_flags]
  rfl

theorem batches_mark (taken : List (Take Unit)) :
    batches (taken ++ takes [.endOfStream]) = batches taken := by
  rw [batches_append]
  exact List.append_nil _

theorem batches_batch (taken : List (Take Unit)) (ids : IdSet) :
    batches (taken ++ takes [.batch ids]) = batches taken ++ [ids] := by
  rw [batches_append]
  rfl

/-- A take that yields no batch leaves nothing to write if nothing was left before. -/
theorem Sound.nothing_left (h : s.Sound)
    (hplace : ∀ rest due, s.place.Leaves rest due → rest = [] ∧ due = 0) {place : Place}
    {taken : List (Take Unit)} (htaken : batches taken = batches s.taken)
    (hleaves : place.Leaves [] 0) :
    ∃ rest due, takenLines taken = s.lines ++ rest ∧ idCount (batches taken) = s.written + due ∧
      place.Leaves rest due := by
  obtain ⟨hlines, hcount⟩ := h.all_written hplace
  refine ⟨[], 0, ?_, ?_, hleaves⟩
  · rw [takenLines, htaken, List.append_nil]
    exact hlines
  · rw [htaken, Nat.add_zero]
    exact hcount

theorem Sound.consumes_batch (h : s.Sound) (hplace : s.place = .looks) {ids : IdSet}
    {queue : List Item} (hqueue : s.queue = .batch ids :: queue) :
    Sound { s with
      queue := queue, place := .writes ids ids.toList, taken := s.taken ++ takes [.batch ids] } where
  kept := h.kept
  fifo := by
    rw [← h.fifo, hqueue, takenItems_append, takenItems_takes, List.append_assoc]
    rfl
  written := by
    obtain ⟨hlines, hcount⟩ := h.all_written (by rw [hplace]; exact fun _ _ => id)
    refine ⟨ids.toList, ids.size, ?_, ?_, rfl, rfl⟩
    · rw [takenLines, batches_batch, List.flatMap_append, ← hlines]
      exact congrArg (takenLines s.taken ++ ·) (List.append_nil _)
    · rw [batches_batch, idCount_append, hcount]
      rfl
  continues := fun _ => by
    obtain ⟨done, cancelled, hdone, hcancelled, hcontinues⟩ := h.continues (by rw [hplace]; rfl)
    refine ⟨done, cancelled, hdone, hcancelled, fun more => ?_⟩
    have hwrites : drain () done cancelled (⟨false, false, .batch ids⟩ :: more) =
        (drain () done cancelled more).after [ids] := drain_batches [ids] more
    rw [batches_batch, Drained.after_append, ← hwrites]
    exact hcontinues.concat more ⟨false, false, .batch ids⟩
  ends := fun hreturned => by cases hreturned
  finished := fun hreturned => by cases hreturned

theorem Sound.consumes_mark (h : s.Sound) (hplace : s.place = .looks) {queue : List Item}
    (hqueue : s.queue = .endOfStream :: queue) :
    Sound { s with
      queue := queue, place := .joins false, taken := s.taken ++ takes [.endOfStream] } where
  kept := h.kept
  fifo := by
    rw [← h.fifo, hqueue, takenItems_append, takenItems_takes, List.append_assoc]
    rfl
  written := h.nothing_left (by rw [hplace]; exact fun _ _ => id) (batches_mark _) ⟨rfl, rfl⟩
  continues := fun hgoes => by cases hgoes
  ends := fun _ more => by
    obtain ⟨done, cancelled, -, -, hcontinues⟩ := h.continues (by rw [hplace]; rfl)
    rw [batches_mark]
    exact hcontinues.concat more ⟨false, false, .endOfStream⟩
  finished := fun _ => by
    have hmem : Item.endOfStream ∈ published s.worker.events := by
      rw [← h.fifo, hqueue]
      exact List.mem_append_right _ List.mem_cons_self
    rcases h.kept.items with hitems | ⟨-, hover⟩
    · rw [hitems] at hmem
      obtain ⟨_, -, himpossible⟩ := List.mem_map.mp hmem
      cases himpossible
    · exact hover

theorem Sound.consumes_returns (h : s.Sound) (hplace : s.place = .tests)
    (hdone : s.worker.exporter.done = true) (hcancelled : s.worker.cancelled = true) :
    Sound { s with place := .joins false, taken := s.taken ++ [s.flags] } where
  kept := h.kept
  fifo := by rw [takenItems_flags, h.fifo]
  written := h.nothing_left (by rw [hplace]; exact fun _ _ => id) (batches_flags s) ⟨rfl, rfl⟩
  continues := fun hgoes => by cases hgoes
  ends := fun _ more => by
    obtain ⟨done, cancelled, -, -, hcontinues⟩ := h.continues (by rw [hplace]; rfl)
    have hconcat := hcontinues.concat more s.flags
    rw [batches_flags]
    simpa [drain, flags, hdone, hcancelled] using hconcat
  finished := fun _ => by
    show s.worker.phase.isOver = true
    rw [h.kept.done hdone]
    rfl

theorem Sound.consumes_again (h : s.Sound) (hplace : s.place = .tests)
    (hflags : (s.worker.exporter.done && s.worker.cancelled) = false) :
    Sound { s with place := .looks, taken := s.taken ++ [s.flags] } where
  kept := h.kept
  fifo := by rw [takenItems_flags, h.fifo]
  written := h.nothing_left (by rw [hplace]; exact fun _ _ => id) (batches_flags s) ⟨rfl, rfl⟩
  continues := fun _ => by
    obtain ⟨done, cancelled, hdone, hcancelled, hcontinues⟩ := h.continues (by rw [hplace]; rfl)
    -- a flag that was seen before is still set
    have hseen : ∀ {seen flag : Bool}, (seen = true → flag = true) → (seen || flag) = flag := by
      intro seen flag himp
      cases seen with
      | false => rfl
      | true => rw [himp rfl, Bool.true_or]
    refine ⟨s.worker.exporter.done, s.worker.cancelled, id, id, fun more => ?_⟩
    have hconcat := hcontinues.concat more s.flags
    rw [batches_flags]
    simp only [drain, flags, hseen hdone, hseen hcancelled, hflags, Bool.false_eq_true,
      if_false] at hconcat
    exact hconcat
  ends := fun hreturned => by cases hreturned
  finished := fun hreturned => by cases hreturned

theorem Sound.consumes (h : s.Sound) {writable : Option Nat} {s' : Tandem}
    (hstep : s.Consumes writable s') : s'.Sound := by
  obtain ⟨rest, due, hlines, hcount, hleaves⟩ := h.written
  cases hstep with
  | empty hplace _ =>
      rw [hplace] at hleaves
      exact h.step (by rw [hplace]; rfl) hlines hcount hleaves
  | batch hplace hqueue => exact h.consumes_batch hplace hqueue
  | mark hplace hqueue => exact h.consumes_mark hplace hqueue
  | returns hplace hdone hcancelled => exact h.consumes_returns hplace hdone hcancelled
  | again hplace hflags => exact h.consumes_again hplace hflags
  | written hplace =>
      rw [hplace] at hleaves
      obtain ⟨rfl, rfl⟩ := hleaves
      exact h.step (by rw [hplace]; rfl) hlines hcount ⟨rfl, rfl⟩
  | line hplace _ =>
      rw [hplace] at hleaves
      obtain ⟨rfl, rfl⟩ := hleaves
      refine h.step (by rw [hplace]; rfl) ?_ hcount ⟨rfl, rfl⟩
      rw [hlines, List.append_assoc]
      rfl
  | breaks hplace _ => exact h.step (by rw [hplace]; rfl) hlines hcount trivial
  | stops hplace => exact h.stop.step (by rw [Tandem.stop, hplace]; rfl) hlines hcount trivial
  | waits _ _ => exact h
  | @closes failed hplace _ =>
      rw [hplace] at hleaves
      refine h.step (by rw [hplace]; rfl) hlines hcount ?_
      cases failed <;> exact hleaves
  | closed _ => exact h

section

variable (capacity : Nat) (writable : Option Nat)

theorem Sound.move (h : s.Sound) (m : Move) : (s.move capacity writable m).Sound := by
  cases m with
  | stop => exact h.stop
  | turn side =>
      cases side with
      | exporter => exact h.advance capacity
      | drain => exact h.consumes (s.consumes writable)

theorem Sound.after (h : s.Sound) (moves : List Move) :
    (s.after capacity writable moves).Sound := by
  induction moves generalizing s with
  | nil => exact h
  | cons m rest ih => exact ih (h.move capacity writable m)

end

end Tandem

end Export

end SearchBridge
