import SearchBridge.Proofs.Completeness
import SearchBridge.Proofs.EndToEnd
import SearchBridge.Proofs.Progress
/-!
What an export leaves whose output fails.

A failing write stops the exporter, waits for it and closes the export. What was written by then is
a first part of what the export would have written, however exporter and drain take turns. If the
output takes all of the lines, it makes no difference that it would fail behind them.
-/

namespace SearchBridge

namespace Export

variable {x : Exporter} {supply : Supply}

namespace Tandem

variable {writable : Option Nat} {s : Tandem}

theorem takenLines_begin (h : takenItems s.taken <+: published (x.run supply).events) :
    takenLines s.taken <+: runLines x supply := by
  obtain ⟨rest, heq⟩ := h
  rw [runLines, publishedBatches, ← heq, List.filterMap_append, List.flatMap_append]
  exact List.prefix_append _ _

/-- What is written is a first part of what the run puts on the queue. -/
theorem Running.lines_begin (h : s.Running x supply writable) : s.lines <+: runLines x supply := by
  obtain ⟨rest, -, hlines, -⟩ := h.sound.written
  exact List.IsPrefix.trans ⟨rest, hlines.symm⟩ (takenLines_begin h.taken)

/-- An export that has come to its end keeps it. -/
theorem Running.atEnd_turn (h : s.Running x supply writable) (hend : s.AtEnd) (capacity : Nat)
    (side : Side) : (s.move capacity writable (.turn side)).AtEnd := by
  cases side with
  | exporter =>
      have hended : s.worker.phase = .ended := by
        rcases hend with ⟨failed, hplace⟩ | ⟨hphase, -⟩
        · exact h.closed failed hplace
        · exact hphase
      have hstays : s.worker.step (s.room capacity) = s.worker := by
        simp only [Worker.step, hended]
      have hputs : s.worker.puts (s.room capacity) = [] := by
        simp only [Worker.puts, hended]
      have hsame : s.advance capacity = s := by
        rw [Tandem.advance, hstays, hputs, List.append_nil]
      rw [move, hsame]
      exact hend
  | drain =>
      rw [move]
      rcases hend with ⟨failed, hplace⟩ | ⟨hphase, hqueue, hplace | hplace⟩
      · have hsame : s.consume writable = s := by simp only [Tandem.consume, hplace]
        rw [hsame]
        exact Or.inl ⟨failed, hplace⟩
      · have hlook : s.consume writable = { s with place := .tests } := by
          simp only [Tandem.consume, hplace, Tandem.take, hqueue]
        rw [hlook]
        exact Or.inr ⟨hphase, hqueue, Or.inr rfl⟩
      · have hlive := (h.calm (by rw [hplace]; rfl)).live
        have htest : s.consume writable =
            { s with place := .looks, taken := s.taken ++ [s.flags] } := by
          simp only [Tandem.consume, hplace, Tandem.test, hlive, Bool.and_false,
            Bool.false_eq_true, if_false]
        rw [htest]
        exact Or.inr ⟨hphase, hqueue, Or.inl rfl⟩

/-- At the end of an export whose output did not fail everything was taken and written. -/
theorem Running.all_taken (h : s.Running x supply writable) (hputs : supply.puts = [])
    (hend : s.AtEnd) (hgoes : s.place.hasFailed = false) :
    s.worker.phase = .ended ∧ takenItems s.taken = published (x.run supply).events ∧
      s.lines = runLines x supply ∧
      s.written = idCount (publishedBatches (x.run supply).events) := by
  have hplaced : s.worker.phase = .ended ∧ s.queue = [] ∧
      ∀ rest due, s.place.Leaves rest due → rest = [] ∧ due = 0 := by
    rcases hend with ⟨failed, hplace⟩ | ⟨hphase, hqueue, hplace⟩
    · rw [hplace] at hgoes
      have hreturned : s.place.hasReturned = true := by
        rw [hplace, Place.hasReturned]
        rw [Place.hasFailed] at hgoes
        rw [hgoes]
        rfl
      exact ⟨h.closed failed hplace, h.emptied hreturned,
        fun rest due hleaves => hleaves.nothing hreturned⟩
    · refine ⟨hphase, hqueue, fun rest due hleaves => ?_⟩
      rcases hplace with hlooks | htests
      · rw [hlooks] at hleaves
        exact hleaves
      · rw [htests] at hleaves
        exact hleaves
  obtain ⟨hphase, hqueue, hleaves⟩ := hplaced
  have hrun := (h.follows hgoes).eq_run hputs hphase
  have htaken : takenItems s.taken = published (x.run supply).events := by
    have hfifo := h.sound.fifo
    rw [hqueue, List.append_nil] at hfifo
    rw [hfifo, ← published_settled s.worker.events]
    exact congrArg (fun w => published w.events) hrun
  obtain ⟨hlines, hwritten⟩ := h.sound.all_written hleaves
  refine ⟨hphase, htaken, ?_, ?_⟩
  · rw [← hlines, takenLines, batches, htaken]
    rfl
  · rw [← hwritten, batches, htaken]
    rfl

/-- The end of an export whose output takes fewer lines than there are. -/
theorem Running.broken_end {n : Nat} (h : s.Running x supply (some n)) (hputs : supply.puts = [])
    (hend : s.AtEnd) (hn : n < (runLines x supply).length) :
    s.place = .closed true ∧ s.lines = (runLines x supply).take n ∧ s.worker.cancelled = true ∧
      s.worker.phase = .ended := by
  cases hfailed : s.place.hasFailed with
  | false =>
      have hlines := (h.all_taken hputs hend hfailed).2.2.1
      have hle := h.limit n rfl
      rw [hlines] at hle
      omega
  | true =>
      have hplace : s.place = .closed true := by
        rcases hend with ⟨failed, hplace⟩ | ⟨-, -, hplace | hplace⟩
        · rw [hplace] at hfailed ⊢
          rw [← hfailed]
          rfl
        · rw [hplace] at hfailed
          cases hfailed
        · rw [hplace] at hfailed
          cases hfailed
      have hlength : n = s.lines.length := Option.some.inj (h.broken (Or.inr hfailed))
      refine ⟨hplace, ?_, h.failed hfailed, h.closed true hplace⟩
      rw [hlength]
      exact List.prefix_iff_eq_take.mp h.lines_begin

/-- An output that takes all lines makes no difference. -/
theorem during_unbroken {plan : Plan} (hx : Exporter.create plan = .ok x)
    (hanswers : ∀ a ∈ supply.answers, a.cancels = false) (hputs : supply.puts = []) {n : Nat}
    (hn : (runLines x supply).length ≤ n) (capacity : Nat) (schedule : Nat → Side) (m : Nat) :
    during x supply capacity (some n) schedule m = during x supply capacity none schedule m := by
  induction m with
  | zero => rfl
  | succ m ih =>
      have hrunning := running_during hx hanswers hputs capacity none schedule m
      rw [during, during, ih]
      generalize during x supply capacity none schedule m = s at hrunning
      cases schedule m with
      | exporter => rfl
      | drain =>
          simp only [move, consume]
          split
          · rfl
          · rfl
          · rfl
          · rename_i batch l rest hplace
            have hroom : s.lines.length < n := by
              obtain ⟨left, due, hlines, -, hleaves⟩ := hrunning.sound.written
              rw [hplace] at hleaves
              have hle := (takenLines_begin hrunning.taken).length_le
              rw [hlines, hleaves.1, List.length_append, List.length_cons] at hle
              omega
            simp [write, hroom]
          · rfl
          · rfl
          · rfl

/-- The run of an exporter as far as it is known. -/
def run (s : Tandem) : Run :=
  ⟨s.worker.exporter, s.worker.events, s.worker.log, ⟨s.worker.answers, [], s.worker.clock⟩,
    s.worker.fault⟩

/-- The report of an export that is closed. -/
def report? (s : Tandem) : Option JobReport :=
  match s.place with
  | .closed true => some ⟨s.lines, .outputClosed, none⟩
  | .closed false => some (conclude s.run ⟨s.lines, s.written, s.queue.length, none⟩ none)
  | _ => none

/-- The report of an export whose output takes everything is that of the run followed by the
drain. -/
theorem Running.report (h : s.Running x supply none) (hputs : supply.puts = []) (hend : s.AtEnd)
    (hmarked : .endOfStream ∈ published (x.run supply).events) :
    ∃ report, s.report? = some report ∧ (job x supply none).Alike report := by
  have hgoes : s.place.hasFailed = false := by
    cases hfailed : s.place.hasFailed with
    | false => rfl
    | true => cases h.broken (Or.inr hfailed)
  obtain ⟨hphase, htaken, hlines, hwritten⟩ := h.all_taken hputs hend hgoes
  have hplace : s.place = .closed false := by
    rcases hend with ⟨failed, hplace⟩ | ⟨-, -, hplace⟩
    · rw [hplace] at hgoes ⊢
      rw [← hgoes]
      rfl
    · have hdraining : s.place.isDraining = true := by
        rcases hplace with hlooks | htests
        · rw [hlooks]
          rfl
        · rw [htests]
          rfl
      exact absurd (htaken ▸ hmarked) (h.unmarked_draining hdraining)
  have hrun := (h.follows hgoes).eq_run hputs hphase
  have hevents : s.worker.events.filter Event.isSettled = (x.run supply).events :=
    congrArg Worker.events hrun
  refine ⟨conclude s.run ⟨s.lines, s.written, s.queue.length, none⟩ none,
    by rw [report?, hplace], ?_⟩
  rw [job, drained_run, if_pos hmarked]
  refine conclude_alike ?_ ?_ ?_ ⟨hlines, hwritten, rfl⟩
  · exact congrArg (·.exporter.error) hrun
  · rw [← hevents, List.filter_filter]
    simp [run]
  · exact congrArg Worker.log hrun

end Tandem

end Export

namespace Settings

open Export

theorem exporter_created {s : Settings} {x : Exporter} (h : s.exporter = .ok x) :
    ∃ plan, Exporter.create plan = .ok x := by
  unfold exporter at h
  cases hclient : s.client with
  | error f =>
      rw [hclient] at h
      cases h
  | ok k =>
      rw [hclient] at h
      exact ⟨_, h⟩

end Settings

namespace Export

/-- An output that fails behind `n` lines is left with the first `n` of the lines that are written
if no write fails, the exporter is stopped and waited for, and the export is closed. If there are
not more than `n` lines, it makes no difference that the output would fail. -/
theorem broken_output_leaves_prefix {given : List (String × Json)}
    {environment : List (String × String)} {s : Settings}
    (hread : Settings.read given environment = .ok s) (outcomes : List Http.Outcome)
    (clock : Clock) :
    ∃ x whole, s.exporter = .ok x ∧ 0 < s.queueSize.toNat ∧
      s.exportIds (.meeting outcomes clock) none = .ok whole ∧
      (∀ n, n < whole.lines.length →
        (∃ report, s.exportIds (.meeting outcomes clock) (some n) = .ok report ∧
          report.lines = whole.lines.take n ∧ report.ending = .outputClosed ∧
          report.closed = true) ∧
        ∀ capacity schedule, 0 < capacity → Fair schedule → ∃ last, ∀ m, last ≤ m →
          let t := Tandem.during x (.meeting outcomes clock) capacity (some n) schedule m
          t.place = .closed true ∧ t.lines = whole.lines.take n ∧ t.worker.cancelled = true ∧
            t.worker.phase = .ended) ∧
      (∀ n, whole.lines.length ≤ n →
        s.exportIds (.meeting outcomes clock) (some n) = .ok whole ∧
        ∀ capacity schedule m,
          Tandem.during x (.meeting outcomes clock) capacity (some n) schedule m =
            Tandem.during x (.meeting outcomes clock) capacity none schedule m) ∧
      (whole.ending ≠ .stalled →
        ∀ capacity schedule, 0 < capacity → Fair schedule → ∃ last, ∀ m, last ≤ m →
          ∃ report, (Tandem.during x (.meeting outcomes clock) capacity none schedule m).report? =
            some report ∧ whole.Alike report) := by
  obtain ⟨x, hx, -⟩ := Settings.exporter_of_read hread
  obtain ⟨plan, hcreate⟩ := Settings.exporter_created hx
  have hqueue := (Settings.read_ok hread).2.2
  generalize hsupply : Supply.meeting outcomes clock = supply
  have hputs : supply.puts = [] := by
    rw [← hsupply]
    rfl
  have hanswers : ∀ a ∈ supply.answers, a.cancels = false := by
    rw [← hsupply]
    intro a ha
    obtain ⟨o, -, rfl⟩ := List.mem_map.mp ha
    rfl
  have hends : ∀ capacity writable schedule, 0 < capacity → Fair schedule → ∃ last, ∀ m, last ≤ m →
      (Tandem.during x supply capacity writable schedule m).AtEnd := by
    intro capacity writable schedule hcapacity hfair
    obtain ⟨last, hlast⟩ := Tandem.exists_atEnd hcreate hanswers hputs hcapacity writable hfair
    refine ⟨last, fun m hm => ?_⟩
    induction hm with
    | refl => exact hlast
    | @step m _ ih =>
        exact (Tandem.running_during hcreate hanswers hputs capacity writable schedule m).atEnd_turn
          ih capacity (schedule m)
  refine ⟨x, job x supply none, hx, by omega, Settings.exportIds_eq hx supply, ?_, ?_, ?_⟩
  · rw [job_lines]
    intro n hn
    refine ⟨⟨job x supply (some n), ?_, ?_⟩, ?_⟩
    · rw [Settings.exportIds, hx]
      rfl
    · rw [job_broken hn]
      exact ⟨rfl, rfl, rfl⟩
    · intro capacity schedule hcapacity hfair
      obtain ⟨last, hlast⟩ := hends capacity (some n) schedule hcapacity hfair
      refine ⟨last, fun m hm => ?_⟩
      exact (Tandem.running_during hcreate hanswers hputs capacity (some n) schedule m).broken_end
        hputs (hlast m hm) hn
  · rw [job_lines]
    intro n hn
    constructor
    · rw [Settings.exportIds, hx, ← job_unbroken hn]
      rfl
    · intro capacity schedule m
      exact Tandem.during_unbroken hcreate hanswers hputs hn capacity schedule m
  · intro hending capacity schedule hcapacity hfair
    obtain ⟨last, hlast⟩ := hends capacity none schedule hcapacity hfair
    refine ⟨last, fun m hm => ?_⟩
    exact (Tandem.running_during hcreate hanswers hputs capacity none schedule m).report hputs
      (hlast m hm) (job_ends_iff.mp hending)

/-- Two pages with one id each, a page without ids, and a response to giving the cursor up. -/
def twoPages : List Http.Outcome :=
  [hitPage "s" "a", hitPage "t" "b", emptyPage, sampleAnswer ""].map (·.outcome)

/-- The settings that an address alone gives, with an output that takes one line of two. -/
theorem sampleSettings_broken_output :
    ∃ whole report, sampleSettings.exportIds (.meeting twoPages .start) none = .ok whole ∧
      1 < whole.lines.length ∧
      sampleSettings.exportIds (.meeting twoPages .start) (some 1) = .ok report ∧
      report.lines = whole.lines.take 1 ∧ report.ending = .outputClosed := by
  have hcount : (sampleSettings.exportIds (.meeting twoPages .start) none).toOption.map
      (·.lines.length) = some 2 := by decide +kernel
  obtain ⟨x, whole, -, -, hwhole, hbroken, -⟩ :=
    broken_output_leaves_prefix read_sampleSettings twoPages .start
  rw [hwhole] at hcount
  have hlength : whole.lines.length = 2 := Option.some.inj hcount
  obtain ⟨⟨report, hreport, hlines, hending, -⟩, -⟩ := hbroken 1 (by omega)
  exact ⟨whole, report, hwhole, by omega, hreport, hlines, hending⟩

end Export

end SearchBridge
