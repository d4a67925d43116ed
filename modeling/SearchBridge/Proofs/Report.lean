import SearchBridge.Proofs.Backpressure
import SearchBridge.Proofs.Drain
/-!
What is reported of a job.

The drain writes what the run put on the queue. It comes to its end if the run has marked it there,
and then the exit code tells whether the run kept an error.
-/

namespace SearchBridge

namespace Export

theorem JobReport.closed_iff {r : JobReport} : r.closed = true ↔ r.ending ≠ .stalled :=
  decide_eq_true_iff

variable {x : Exporter} {supply : Supply}

/-- The lines that a drain makes of everything that a run puts on the queue. -/
def runLines (x : Exporter) (supply : Supply) : List Text :=
  (publishedBatches (x.run supply).events).flatMap (·.toList)

/-- The drain of a run comes to its end exactly if the run has marked it. -/
theorem drained_run (x : Exporter) (supply : Supply) :
    drain () false false (takes (published (x.run supply).events)) =
      ⟨runLines x supply, idCount (publishedBatches (x.run supply).events), 0,
        if .endOfStream ∈ published (x.run supply).events then none else some ()⟩ := by
  have hpublished : published (x.run supply).events =
      (x.paging supply).batches.map .batch ++ acceptedItems (x.closingAttempts supply) := by
    rw [x.run_published, (x.paging_course supply).published_eq]
  have hbatches : Item.endOfStream ∉ (x.paging supply).batches.map Item.batch := by
    intro hmem
    obtain ⟨_, -, himpossible⟩ := List.mem_map.mp hmem
    cases himpossible
  have hlength : (acceptedItems (x.closingAttempts supply)).length ≤ 1 :=
    Exporter.closing_accepted_length
  rw [runLines, Exporter.publishedBatches_run, hpublished]
  cases hclosing : acceptedItems (x.closingAttempts supply) with
  | nil => rw [List.append_nil, drain_unmarked, if_neg hbatches]
  | cons i rest =>
      have hi : i = .endOfStream :=
        Exporter.closing_accepted (by rw [hclosing]; exact List.mem_cons_self)
      rw [hclosing, List.length_cons] at hlength
      have hrest : rest = [] := List.length_eq_zero_iff.mp (by omega)
      rw [hi, hrest, drain_marked, if_pos (List.mem_append_right _ List.mem_cons_self)]

theorem conclude_lines (run : Run) (drained : Drained Unit) :
    (conclude run drained none).lines = drained.lines := by
  unfold conclude
  simp only [Option.filter_none]
  split <;> rfl

theorem conclude_events (run : Run) (drained : Drained Unit) :
    (conclude run drained none).activity.map (·.events) = some run.events := by
  unfold conclude
  simp only [Option.filter_none]
  split <;> rfl

/-- How a job ends whose output takes everything: an exit code that tells of the error of the run
is returned once the drain has come to its end. -/
theorem conclude_ending (run : Run) (drained : Drained Unit) :
    (conclude run drained none).ending =
      if drained.failure.isSome then .stalled
      else .exit (if run.exporter.error.isSome then 1 else 0) := by
  unfold conclude
  simp only [Option.filter_none]
  cases drained.failure with
  | some u => rfl
  | none => cases run.exporter.error <;> rfl

theorem job_lines (x : Exporter) (supply : Supply) :
    (job x supply none).lines = runLines x supply := by
  rw [job, conclude_lines, drained_run]

theorem job_events (x : Exporter) (supply : Supply) :
    (job x supply none).activity.map (·.events) = some (x.run supply).events :=
  conclude_events _ _

theorem job_ending (x : Exporter) (supply : Supply) :
    (job x supply none).ending =
      if .endOfStream ∈ published (x.run supply).events then
        .exit (if (x.run supply).exporter.error.isSome then 1 else 0)
      else .stalled := by
  rw [job, conclude_ending, drained_run]
  split <;> rfl

theorem job_ends_iff :
    (job x supply none).ending ≠ .stalled ↔ .endOfStream ∈ published (x.run supply).events := by
  rw [job_ending]
  split <;> simp [*]

/-- An output that takes fewer lines fails behind the first of them. -/
theorem job_broken {n : Nat} (h : n < (runLines x supply).length) :
    job x supply (some n) = ⟨(runLines x supply).take n, .outputClosed, none⟩ := by
  rw [job, drained_run, conclude]
  simp [Option.filter, h]

/-- An output that takes all lines does not fail. -/
theorem job_unbroken {n : Nat} (h : (runLines x supply).length ≤ n) :
    job x supply (some n) = job x supply none := by
  rw [job, job, drained_run, conclude, conclude]
  simp [Option.filter, Nat.not_lt.mpr h]

/-- Reports that say the same of an export. They may differ in attempts on a full queue. -/
structure JobReport.Alike (r r' : JobReport) : Prop where
  lines : r'.lines = r.lines
  ending : r'.ending = r.ending
  events : r'.activity.map (·.events.filter Event.isSettled) =
    r.activity.map (·.events.filter Event.isSettled)
  log : r'.activity.map (·.log) = r.activity.map (·.log)
  closed : r'.closed = r.closed

theorem conclude_alike {run run' : Run} {drained drained' : Drained Unit}
    (herror : run'.exporter.error = run.exporter.error)
    (hevents : run'.events.filter Event.isSettled = run.events.filter Event.isSettled)
    (hlog : run'.log = run.log) (hdrained : drained'.Agrees drained) :
    (conclude run drained none).Alike (conclude run' drained' none) := by
  unfold conclude
  rw [herror, hdrained.lines, hdrained.written, hdrained.failure, hlog]
  simp only [Option.filter_none]
  split <;> exact ⟨rfl, rfl, congrArg some hevents, rfl, rfl⟩

end Export

end SearchBridge
