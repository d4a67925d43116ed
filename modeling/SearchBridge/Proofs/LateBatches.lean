import Mathlib.Data.List.Induction
import SearchBridge.Proofs.Completeness
import SearchBridge.Proofs.Interleaving
/-!
Which batches a drain that returns has missed.

The drain finds the queue empty and tests the flags of the export afterwards. Whatever the exporter
gets on the queue between the last look and the test stays there if the test finds both flags set,
and nothing else is missed.
-/

namespace SearchBridge

namespace Export

/-- Whether the drain has made its last look, unless the flags make it look again. -/
def Place.hasLooked (place : Place) : Bool := place = .tests || place.hasReturned

namespace Tandem

variable {capacity : Nat} {writable : Option Nat} {s : Tandem}

theorem after_concat (moves : List Move) (m : Move) :
    s.after capacity writable (moves ++ [m]) =
      (s.after capacity writable moves).move capacity writable m := by
  simp [after]

variable (capacity writable s) in
/-- The drain looks at the queue after some of the moves and does not look again. -/
structure LastLook (moves before later : List Move) : Prop where
  split : moves = before ++ .turn .drain :: later
  looks : (s.after capacity writable before).place = .looks
  last : ∀ mid rest, later = mid ++ .turn .drain :: rest →
    (s.after capacity writable (before ++ .turn .drain :: mid)).place ≠ .looks

/-- A move with which the drain does not look at the queue. -/
theorem LastLook.concat {moves before later : List Move} {m : Move}
    (h : LastLook capacity writable s moves before later)
    (hm : m = .turn .drain → (s.after capacity writable moves).place ≠ .looks) :
    LastLook capacity writable s (moves ++ [m]) before (later ++ [m]) where
  split := by rw [h.split, List.append_assoc, List.cons_append]
  looks := h.looks
  last := by
    intro mid rest hsplit
    rcases List.eq_nil_or_concat rest with rfl | ⟨init, last, rfl⟩
    · obtain ⟨rfl, hlast⟩ := List.append_inj' hsplit rfl
      rw [← h.split]
      exact hm (List.singleton_inj.mp hlast)
    · rw [List.concat_eq_append, ← List.cons_append, ← List.append_assoc] at hsplit
      exact h.last mid init (List.append_inj' hsplit rfl).1

variable (capacity writable s) in
/-- The drain has taken every batch that was on the queue by the time of its last look. -/
def Looked (moves : List Move) : Prop :=
  ∃ before later, LastLook capacity writable s moves before later ∧
    batches (s.after capacity writable moves).taken =
      publishedBatches (s.after capacity writable before).worker.events

theorem Looked.concat {moves : List Move} {m : Move} (h : Looked capacity writable s moves)
    (hm : m = .turn .drain → (s.after capacity writable moves).place ≠ .looks)
    (htaken : batches (s.after capacity writable (moves ++ [m])).taken =
      batches (s.after capacity writable moves).taken) :
    Looked capacity writable s (moves ++ [m]) := by
  obtain ⟨before, later, hlook, hbatches⟩ := h
  exact ⟨before, later ++ [m], hlook.concat hm, htaken.trans hbatches⟩

/-- A look after which the drain tests the flags, or has returned. -/
theorem Sound.looked (h : s.Sound) (hlooked : s.take.place.hasLooked = true) :
    batches s.take.taken = publishedBatches s.worker.events := by
  unfold Tandem.take at hlooked ⊢
  split
  · rename_i hqueue
    rw [publishedBatches, ← h.fifo, hqueue, List.append_nil]
    rfl
  · rename_i i queue hqueue
    rw [hqueue] at hlooked
    cases i with
    | batch ids => cases hlooked
    | endOfStream =>
        have hbatches : batches (s.taken ++ takes [.endOfStream]) =
            publishedBatches s.worker.events := by
          rw [batches_mark, batches, (h.last_mark hqueue).1, List.filterMap_map]
          exact List.filterMap_some
        exact hbatches

/-- A move after which the drain has looked is a look itself, or the drain has looked before and
takes nothing now. -/
theorem move_looked {m : Move} (hlooked : (s.move capacity writable m).place.hasLooked = true) :
    (m = .turn .drain ∧ s.place = .looks) ∨
      s.place.hasLooked = true ∧ (m = .turn .drain → s.place ≠ .looks) ∧
        batches (s.move capacity writable m).taken = batches s.taken := by
  cases m with
  | stop => exact Or.inr ⟨hlooked, by simp, rfl⟩
  | turn side =>
      cases side with
      | exporter => exact Or.inr ⟨hlooked, by simp, rfl⟩
      | drain =>
          have hstep := s.consumes writable
          simp only [move] at hlooked ⊢
          generalize s.consume writable = s' at hlooked hstep ⊢
          have hflags := batches_flags s
          cases hstep with
          | empty hplace _ => exact Or.inl ⟨trivial, hplace⟩
          | batch hplace _ => exact Or.inl ⟨trivial, hplace⟩
          | mark hplace _ => exact Or.inl ⟨trivial, hplace⟩
          | returns hplace _ _ => exact Or.inr ⟨by rw [hplace]; rfl, by simp [hplace], hflags⟩
          | again hplace _ => cases hlooked
          | written hplace => cases hlooked
          | line hplace _ => cases hlooked
          | breaks hplace _ => cases hlooked
          | stops hplace => cases hlooked
          | waits hplace _ => exact Or.inr ⟨hlooked, by simp [hplace], rfl⟩
          | closes hplace _ => exact Or.inr ⟨by rw [hplace]; exact hlooked, by simp [hplace], rfl⟩
          | closed hplace => exact Or.inr ⟨hlooked, by simp [hplace], rfl⟩

/-- Once the drain has looked, it has what was on the queue by then. -/
theorem Sound.looked_after (h : s.Sound) (hfresh : s.place = .looks) (moves : List Move)
    (hlooked : (s.after capacity writable moves).place.hasLooked = true) :
    Looked capacity writable s moves := by
  -- by induction on the moves, the last one first
  induction moves using List.reverseRecOn with
  | nil =>
      have hplace : (s.after capacity writable []).place = .looks := hfresh
      rw [hplace] at hlooked
      cases hlooked
  | append_singleton moves m ih =>
      rw [after_concat] at hlooked
      rcases move_looked hlooked with ⟨rfl, hplace⟩ | ⟨hbefore, hm, htaken⟩
      · refine ⟨moves, [], ⟨rfl, hplace, fun mid rest hsplit => by simp at hsplit⟩, ?_⟩
        have hturn : (s.after capacity writable moves).move capacity writable (.turn .drain) =
            (s.after capacity writable moves).take := by
          simp only [Tandem.move, Tandem.consume, hplace]
        rw [hturn] at hlooked
        rw [after_concat, hturn]
        exact (h.after capacity writable moves).looked hlooked
      · exact (ih hbefore).concat hm (by rw [after_concat, htaken])

end Tandem

theorem eq_nil_of_idCount {batches : List IdSet} (hfilled : ∀ ids ∈ batches, 0 < ids.size)
    (hcount : idCount batches = 0) : batches = [] := by
  cases batches with
  | nil => rfl
  | cons ids rest =>
      have hpos := hfilled ids List.mem_cons_self
      rw [idCount] at hcount
      omega

open Tandem

/-- When a drain returns it has written the batches that the queue had accepted by the time of the
last look, and those that it accepted since then are left. So no batch is lost, and the count is
that of the exporter, exactly if none was accepted since the last look. -/
theorem returned_drain_loses_late_batches {plan : Plan} {x : Exporter}
    (hx : Exporter.create plan = .ok x) (supply : Supply) (capacity : Nat) (writable : Option Nat)
    (moves : List Move)
    (hreturned :
      ((fresh x supply).after capacity writable moves).place.hasReturned = true) :
    ∃ before later, LastLook capacity writable (fresh x supply) moves before later ∧
      let seen := (fresh x supply).after capacity writable before
      let s := (fresh x supply).after capacity writable moves
      drain () false false (s.taken ++ takes s.queue) =
          ⟨s.lines, s.written, s.queue.length, none⟩ ∧
        s.lines = (publishedBatches seen.worker.events).flatMap (·.toList) ∧
        s.written = s.lines.length ∧
        publishedBatches s.worker.events =
          publishedBatches seen.worker.events ++ s.queue.filterMap Item.batch? ∧
        (s.queue.filterMap Item.batch? = [] ↔
          publishedBatches s.worker.events = publishedBatches seen.worker.events) ∧
        (s.written = s.worker.exporter.idsExported ↔
          publishedBatches s.worker.events = publishedBatches seen.worker.events) := by
  have hfresh := sound_fresh hx supply
  have hsound := hfresh.after capacity writable moves
  have hlooked : ((fresh x supply).after capacity writable moves).place.hasLooked = true := by
    rw [Place.hasLooked, hreturned, Bool.or_true]
  obtain ⟨before, later, hlook, htaken⟩ := hfresh.looked_after rfl moves hlooked
  refine ⟨before, later, hlook, ?_⟩
  intro seen s
  obtain ⟨hlines, hwritten⟩ :
      takenLines s.taken = s.lines ∧ idCount (batches s.taken) = s.written :=
    hsound.all_written fun rest due hleaves => hleaves.nothing hreturned
  have hbatches : publishedBatches s.worker.events =
      publishedBatches seen.worker.events ++ s.queue.filterMap Item.batch? := by
    rw [publishedBatches, ← hsound.fifo, List.filterMap_append]
    exact congrArg (· ++ _) htaken
  have hcounted : s.worker.exporter.idsExported = s.written +
      idCount (s.queue.filterMap Item.batch?) := by
    have hnone : s.worker.phase.uncounted = [] :=
      Phase.uncounted_of_isOver (hsound.finished hreturned)
    have hkept := hsound.kept.counted
    rw [hnone, hbatches, idCount_append, ← htaken, hwritten] at hkept
    exact hkept.symm
  have hsame : publishedBatches s.worker.events = publishedBatches seen.worker.events ↔
      s.queue.filterMap Item.batch? = [] := by
    rw [hbatches, List.append_right_eq_self]
  have hfilled : ∀ ids ∈ s.queue.filterMap Item.batch?, 0 < ids.size := by
    intro ids hids
    refine hsound.kept.filled ids (Or.inl ?_)
    rw [hbatches]
    exact List.mem_append_right _ hids
  refine ⟨?_, ?_, ?_, hbatches, hsame.symm, ?_⟩
  · have hends : drain () false false (s.taken ++ takes s.queue) =
        Drained.after ⟨[], 0, (takes s.queue).length, none⟩ (batches s.taken) :=
      hsound.ends hreturned _
    rw [hends, ← hlines, ← hwritten]
    simp [Drained.after, takenLines, takes]
  · rw [← hlines, takenLines]
    exact congrArg (List.flatMap (·.toList)) htaken
  · rw [← hlines, ← hwritten, takenLines, idCount_eq_length]
  · rw [hsame, hcounted]
    constructor
    · intro hcount
      exact eq_nil_of_idCount hfilled (by omega)
    · intro hnone
      rw [hnone]
      rfl

/-- The pages of a small export: one with ids and one without. -/
def lateSupply : Supply := ⟨[hitPage "t" "a", emptyPage, sampleAnswer ""], [], .start⟩

/-- The ids get on the queue after the drain found it empty and before it tests the flags. -/
def lateMoves : List Move :=
  List.replicate 3 (.turn .exporter) ++ [.turn .drain, .turn .exporter, .stop] ++
    List.replicate 6 (.turn .exporter) ++ [.turn .drain]

theorem lateMoves_lose_late_batch :
    Exporter.create sampleExporter.plan = .ok sampleExporter ∧
      ((fresh sampleExporter lateSupply).after 1 none lateMoves).place.hasReturned = true ∧
      ∃ before later, LastLook 1 none (fresh sampleExporter lateSupply) lateMoves before later ∧
        publishedBatches
            ((fresh sampleExporter lateSupply).after 1 none lateMoves).worker.events =
          publishedBatches ((fresh sampleExporter lateSupply).after 1 none before).worker.events ++
            [IdSet.ofList [.ofString "a"]] := by
  have hfresh : Exporter.create sampleExporter.plan = .ok sampleExporter := rfl
  have hreturned :
      ((fresh sampleExporter lateSupply).after 1 none lateMoves).place.hasReturned = true := by
    decide +kernel
  have hlost : ((fresh sampleExporter lateSupply).after 1 none lateMoves).queue.filterMap
      Item.batch? = [IdSet.ofList [.ofString "a"]] := by decide +kernel
  obtain ⟨before, later, hlook, -, -, -, hbatches, -⟩ :=
    returned_drain_loses_late_batches hfresh lateSupply 1 none lateMoves hreturned
  rw [hlost] at hbatches
  exact ⟨hfresh, hreturned, before, later, hlook, hbatches⟩

/-- A batch that follows the look after which both flags are seen. -/
def lateTakes : List (Take Unit) :=
  [⟨true, true, .empty⟩, ⟨false, false, .batch (IdSet.ofList [.ofString "a"])⟩,
    ⟨false, false, .empty⟩]

/-- Both flags are found set after the queue was found empty, and yet a batch is lost. -/
theorem batch_lost_between_look_and_test :
    Exporter.create sampleExporter.plan = .ok sampleExporter ∧
      (((fresh sampleExporter lateSupply).after 1 none lateMoves).place = .joins false ∧
        ((fresh sampleExporter lateSupply).after 1 none lateMoves).lines = [] ∧
        ((fresh sampleExporter lateSupply).after 1 none lateMoves).queue =
          [.batch (IdSet.ofList [.ofString "a"])] ∧
        ((fresh sampleExporter lateSupply).after 1 none lateMoves).worker.exporter.idsExported =
          1) ∧
      (drain () false false lateTakes).lines = [] ∧ (drain () false false lateTakes).left = 2 ∧
      (drain () false false lateTakes).failure = none := by
  refine ⟨rfl, ?_, ?_⟩
  · decide +kernel
  · decide +kernel

end Export

end SearchBridge
