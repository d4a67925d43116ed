import SearchBridge.Export.Usage
import SearchBridge.Proofs.Cancellation
import SearchBridge.Proofs.Delivery
/-!
The books that an exporter keeps while it is in use.

An operation makes one more run or none at all. A run adds to the counters what it puts on the
queue, however it ends, and takes back none of the flags. So the counters agree with the queue after
whatever was asked of the exporter, and of all starts the first one alone makes a run.
-/

namespace SearchBridge

namespace Export

namespace Exporter

variable {x : Exporter} {supply : Supply}

theorem run_batchesPublished :
    (x.run supply).exporter.batchesPublished =
      x.batchesPublished + (publishedBatches (x.run supply).events).length := by
  rw [publishedBatches_run, x.run_eq]
  rfl

theorem run_idsExported :
    (x.run supply).exporter.idsExported =
      x.idsExported + ((publishedBatches (x.run supply).events).flatMap (·.toList)).length := by
  rw [publishedBatches_run, ← idCount_eq_length, x.run_eq]
  rfl

theorem run_started : (x.run supply).exporter.started = x.started := by
  rw [x.run_eq]
  rfl

theorem run_done (h : x.done = true) : (x.run supply).exporter.done = true := by
  rw [x.run_eq, h]
  rfl

theorem run_cancelled (h : x.cancelled = true) : (x.run supply).exporter.cancelled = true := by
  rw [← flagAfter_run, h, flagAfter_true]

/-- A run gets the mark of the end on the queue once at most. -/
theorem count_endOfStream_run : (published (x.run supply).events).count .endOfStream ≤ 1 := by
  have hnone : ((x.paging supply).batches.map Item.batch).count .endOfStream = 0 := by
    rw [List.count_eq_zero]
    intro hmem
    obtain ⟨batch, -, hbatch⟩ := List.mem_map.mp hmem
    cases hbatch
  rw [x.run_published, (x.paging_course supply).published_eq, List.count_append, hnone,
    Nat.zero_add]
  exact Nat.le_trans List.count_le_length closing_accepted_length

end Exporter

namespace Usage

variable {u : Usage}

@[simp] theorem after_nil : u.after [] = u := rfl

@[simp] theorem after_cons (o : Operation) (operations : List Operation) :
    u.after (o :: operations) = (u.perform o).2.after operations := rfl

@[simp] theorem events_add (r : Run) : (u.add r).events = u.events ++ r.events := by
  simp [events, add]

/-- What an operation does: it makes a run, or it sets the cancellation flag at most. The first
start makes a run. -/
theorem perform_cases (u : Usage) (o : Operation) :
    (∃ started, started = (u.exporter.started || o = .start) ∧
      (u.perform o).2 = u.add (({ u.exporter with started := started } : Exporter).run u.supply)) ∨
    (∃ cancelled, (u.exporter.cancelled = true → cancelled = true) ∧
      (o = .start → u.exporter.started = true) ∧
      (u.perform o).2 = { u with exporter := { u.exporter with cancelled := cancelled } }) := by
  cases o with
  | run => exact Or.inl ⟨u.exporter.started, by simp, rfl⟩
  | start =>
      by_cases hstarted : u.exporter.started = true
      · have hsame : (u.perform .start).2 = u := by simp [perform, Exporter.start, hstarted]
        exact Or.inr ⟨u.exporter.cancelled, id, fun _ => hstarted, hsame⟩
      · exact Or.inl ⟨true, by simp, by simp [perform, Exporter.start, hstarted]⟩
  | stop => exact Or.inr ⟨true, fun _ => rfl, by simp, rfl⟩
  | wait => exact Or.inr ⟨u.exporter.cancelled, id, by simp, rfl⟩
  | poll => exact Or.inr ⟨u.exporter.cancelled, id, by simp, rfl⟩

/-- What an exporter says of itself agrees with what its runs put on the queue. -/
structure Balanced (u : Usage) : Prop where
  /-- The batches that the queue accepted so far are counted. -/
  batches : u.exporter.batchesPublished = (publishedBatches u.events).length
  /-- So are the ids in them, those of one batch after those of the other. -/
  ids : u.exporter.idsExported = ((publishedBatches u.events).flatMap (·.toList)).length
  /-- Each batch has ids, and none of them is blank. -/
  filled : ∀ batch ∈ publishedBatches u.events,
    batch.toList ≠ [] ∧ ∀ id ∈ batch.toList, Text.isBlank id = false
  /-- No run marks its end twice. -/
  marks : ∀ r ∈ u.runs, (published r.events).count .endOfStream ≤ 1

theorem Balanced.add (h : u.Balanced) (started : Bool) :
    (u.add (({ u.exporter with started := started } : Exporter).run u.supply)).Balanced where
  batches := by
    rw [events_add, publishedBatches_append, List.length_append, ← h.batches]
    exact Exporter.run_batchesPublished
  ids := by
    rw [events_add, publishedBatches_append, List.flatMap_append, List.length_append, ← h.ids]
    exact Exporter.run_idsExported
  filled := by
    intro batch hbatch
    rw [events_add, publishedBatches_append] at hbatch
    rcases List.mem_append.mp hbatch with hbefore | hnow
    · exact h.filled batch hbefore
    · rw [Exporter.publishedBatches_run] at hnow
      exact (Exporter.paging_course _ u.supply).batches_filled batch hnow
  marks := by
    intro r hr
    rcases List.mem_append.mp hr with hbefore | hnow
    · exact h.marks r hbefore
    · rw [List.mem_singleton.mp hnow]
      exact Exporter.count_endOfStream_run

theorem Balanced.perform (h : u.Balanced) (o : Operation) : (u.perform o).2.Balanced := by
  rcases u.perform_cases o with ⟨started, -, hrun⟩ | ⟨cancelled, -, -, hflag⟩
  · rw [hrun]
    exact h.add started
  · rw [hflag]
    exact ⟨h.batches, h.ids, h.filled, h.marks⟩

theorem Balanced.after (h : u.Balanced) (operations : List Operation) :
    (u.after operations).Balanced := by
  induction operations generalizing u with
  | nil => exact h
  | cons o operations ih => exact ih (h.perform o)

/-- No operation takes a flag back. -/
theorem perform_flags (u : Usage) (o : Operation) :
    (u.exporter.done = true → (u.perform o).2.exporter.done = true) ∧
      (u.exporter.cancelled = true → (u.perform o).2.exporter.cancelled = true) := by
  rcases u.perform_cases o with ⟨started, -, hrun⟩ | ⟨cancelled, hkept, -, hflag⟩
  · rw [hrun]
    exact ⟨fun hdone => Exporter.run_done hdone, fun hset => Exporter.run_cancelled hset⟩
  · rw [hflag]
    exact ⟨id, hkept⟩

theorem after_flags (u : Usage) (operations : List Operation) :
    (u.exporter.done = true → (u.after operations).exporter.done = true) ∧
      (u.exporter.cancelled = true → (u.after operations).exporter.cancelled = true) := by
  induction operations generalizing u with
  | nil => exact ⟨id, id⟩
  | cons o operations ih =>
      obtain ⟨hdone, hcancelled⟩ := u.perform_flags o
      obtain ⟨hdone', hcancelled'⟩ := ih (u.perform o).2
      exact ⟨hdone' ∘ hdone, hcancelled' ∘ hcancelled⟩

/-- A start is remembered, and nothing else counts as one. -/
theorem perform_started (u : Usage) (o : Operation) :
    (u.perform o).2.exporter.started = (u.exporter.started || o = .start) := by
  rcases u.perform_cases o with ⟨started, hstarted, hrun⟩ | ⟨cancelled, -, hstart, hflag⟩
  · rw [hrun, ← hstarted]
    exact Exporter.run_started
  · rw [hflag]
    by_cases ho : o = .start
    · simp [hstart ho]
    · simp [ho]

theorem after_started (u : Usage) (operations : List Operation) :
    (u.after operations).exporter.started = true ↔
      u.exporter.started = true ∨ .start ∈ operations := by
  induction operations generalizing u with
  | nil => simp
  | cons o operations ih =>
      rw [after_cons, ih, perform_started, List.mem_cons, Bool.or_eq_true, decide_eq_true_iff,
        or_assoc, eq_comm (a := o)]

end Usage

/-- Whatever is asked of a new exporter, its counters agree with what the queue accepted so far, its
flags stay set once they are, and it starts once: any later start is refused and changes nothing. -/
theorem usage_keeps_books (plan : Plan) (x : Exporter) (hx : Exporter.create plan = .ok x)
    (supply : Supply) (operations : List Operation) :
    let u := (Usage.fresh x supply).after operations
    u.Balanced ∧
      (∀ later, (u.exporter.done = true → (u.after later).exporter.done = true) ∧
        (u.exporter.cancelled = true → (u.after later).exporter.cancelled = true)) ∧
      (.start ∉ operations → (u.perform .start).1 = .nothing) ∧
      (.start ∈ operations → u.perform .start = (.failed .alreadyStarted, u)) := by
  intro u
  obtain ⟨hbatches, hids, hstarted⟩ :
      x.batchesPublished = 0 ∧ x.idsExported = 0 ∧ x.started = false := by
    unfold Exporter.create at hx
    split at hx
    · cases hx
    · cases hx
      exact ⟨rfl, rfl, rfl⟩
  have hfresh : (Usage.fresh x supply).Balanced :=
    ⟨hbatches, hids, fun _ h => (List.not_mem_nil h).elim, fun _ h => (List.not_mem_nil h).elim⟩
  have hstart : u.exporter.started = true ↔ .start ∈ operations := by
    simp only [u, Usage.after_started, Usage.fresh, hstarted, Bool.false_eq_true, false_or]
  refine ⟨hfresh.after operations, u.after_flags, ?_, ?_⟩
  · intro hnone
    have hlive : u.exporter.started = false := Bool.eq_false_iff.mpr (mt hstart.mp hnone)
    simp [Usage.perform, Exporter.start, hlive]
  · intro hsome
    simp [Usage.perform, Exporter.start, hstart.mpr hsome]

/-- An exporter that is started, stopped and run once more. -/
theorem sampleExporter_books :
    Exporter.create sampleExporter.plan = .ok sampleExporter ∧
      ((Usage.fresh sampleExporter sampleSupply).after [.start, .stop, .run]).Balanced ∧
      (((Usage.fresh sampleExporter sampleSupply).after [.start, .stop, .run]).perform .start).1 =
        .failed .alreadyStarted := by
  obtain ⟨hbalanced, -, -, hstarted⟩ := usage_keeps_books sampleExporter.plan sampleExporter rfl
    sampleSupply [.start, .stop, .run]
  exact ⟨rfl, hbalanced, congrArg Prod.fst (hstarted (by decide))⟩

end Export

end SearchBridge
