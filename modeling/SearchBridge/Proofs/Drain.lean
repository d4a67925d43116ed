import SearchBridge.Export.Job
import SearchBridge.Proofs.Events
/-!
What a drain makes of the items on a queue.
-/

namespace SearchBridge

namespace Export

variable {ε : Type} {exhausted : ε} {done cancelled : Bool}

/-- A drain with batches that are taken before it. -/
def Drained.after (d : Drained ε) (batches : List IdSet) : Drained ε :=
  { d with
    lines := batches.flatMap (·.toList) ++ d.lines
    written := idCount batches + d.written }

@[simp] theorem Drained.after_failure (d : Drained ε) (batches : List IdSet) :
    (d.after batches).failure = d.failure := rfl

theorem Drained.after_nil {d : Drained ε} : d.after [] = d := by simp [after, idCount]

theorem Drained.after_append (d : Drained ε) (b₁ b₂ : List IdSet) :
    d.after (b₁ ++ b₂) = (d.after b₂).after b₁ := by
  simp only [after, List.flatMap_append, List.append_assoc, idCount_append, Nat.add_assoc]

theorem takes_append (i₁ i₂ : List Item) :
    takes (ε := ε) (i₁ ++ i₂) = takes i₁ ++ takes i₂ := by
  simp [takes]

/-- Batches are written one after the other, and the drain goes on behind them. -/
theorem drain_batches (batches : List IdSet) (more : List (Take ε)) :
    drain exhausted done cancelled (takes (batches.map .batch) ++ more) =
      (drain exhausted done cancelled more).after batches := by
  induction batches with
  | nil => exact Drained.after_nil.symm
  | cons batch rest ih =>
      simp only [takes, List.map_cons, List.cons_append, drain, Bool.or_false] at ih ⊢
      rw [ih]
      simp [Drained.after, idCount, Nat.add_assoc]

theorem drain_endOfStream (more : List (Take ε)) :
    drain exhausted done cancelled (takes [.endOfStream] ++ more) =
      ⟨[], 0, more.length, none⟩ := by
  simp [takes, drain]

/-- Batches and the mark behind them are all that a drain takes. -/
theorem drain_marked (batches : List IdSet) :
    drain exhausted done cancelled (takes (batches.map .batch ++ [.endOfStream])) =
      ⟨batches.flatMap (·.toList), idCount batches, 0, none⟩ := by
  rw [takes_append, drain_batches, ← List.append_nil (takes [Item.endOfStream]),
    drain_endOfStream]
  simp [Drained.after]

/-- Behind batches without a mark nothing is left to take. -/
theorem drain_unmarked (batches : List IdSet) :
    drain exhausted done cancelled (takes (batches.map .batch)) =
      ⟨batches.flatMap (·.toList), idCount batches, 0, some exhausted⟩ := by
  rw [← List.append_nil (takes _), drain_batches]
  simp [Drained.after, drain]

/-- A drain that finds the queue empty ends if the export is done and cancelled. -/
theorem drain_empty (more : List (Take ε)) :
    drain exhausted done cancelled (⟨true, true, .empty⟩ :: more) =
      ⟨[], 0, more.length, none⟩ := by
  simp [drain]

/-- The items that takes yielded. -/
def takenItems (taken : List (Take ε)) : List Item :=
  taken.filterMap fun t =>
    match t.taken with
    | .batch ids => some (.batch ids)
    | .endOfStream => some .endOfStream
    | .empty | .failed _ => none

theorem takenItems_append (t₁ t₂ : List (Take ε)) :
    takenItems (t₁ ++ t₂) = takenItems t₁ ++ takenItems t₂ :=
  List.filterMap_append

@[simp] theorem takenItems_takes (items : List Item) :
    takenItems (takes (ε := ε) items) = items := by
  induction items with
  | nil => rfl
  | cons i rest ih =>
      have hfirst : takenItems (takes (ε := ε) [i]) = [i] := by cases i <;> rfl
      rw [← List.singleton_append, takes_append, takenItems_append, ih, hfirst]

def batches (taken : List (Take ε)) : List IdSet := (takenItems taken).filterMap Item.batch?

theorem batches_append (t₁ t₂ : List (Take ε)) : batches (t₁ ++ t₂) = batches t₁ ++ batches t₂ := by
  simp [batches, takenItems_append]

/-- Drains that write the same and end alike, whatever each of them leaves. -/
structure Drained.Agrees (d d' : Drained ε) : Prop where
  lines : d.lines = d'.lines
  written : d.written = d'.written
  failure : d.failure = d'.failure

theorem Drained.Agrees.refl (d : Drained ε) : d.Agrees d := ⟨rfl, rfl, rfl⟩

theorem Drained.Agrees.after {d d' : Drained ε} (h : d.Agrees d') (batches : List IdSet) :
    (d.after batches).Agrees (d'.after batches) :=
  ⟨congrArg (_ ++ ·) h.lines, congrArg (_ + ·) h.written, h.failure⟩

/-- A take that finds the export running and does not fail. -/
def Take.IsCalm (t : Take ε) : Prop := t.cancelled = false ∧ ∀ e, t.taken ≠ .failed e

theorem takes_calm (items : List Item) : ∀ t ∈ takes (ε := ε) items, t.IsCalm := by
  intro t ht
  obtain ⟨i, -, rfl⟩ := List.mem_map.mp ht
  cases i <;> exact ⟨rfl, fun e he => by cases he⟩

/-- Finding the queue empty makes no difference as long as the export is not cancelled. -/
theorem drain_calm {taken : List (Take ε)} (h : ∀ t ∈ taken, t.IsCalm) (done done' : Bool) :
    (drain exhausted done false taken).Agrees
      (drain exhausted done' false (takes (takenItems taken))) := by
  induction taken generalizing done done' with
  | nil => exact .refl _
  | cons t rest ih =>
      obtain ⟨hcancelled, hfailed⟩ := h t List.mem_cons_self
      have hrest := ih fun t ht => h t (List.mem_cons_of_mem _ ht)
      obtain ⟨flag, cancelled, taken⟩ := t
      subst hcancelled
      cases taken with
      | batch ids =>
          have hlater := hrest (done || flag) (done' || false)
          exact ⟨congrArg (ids.toList ++ ·) hlater.lines, congrArg (ids.size + ·) hlater.written,
            hlater.failure⟩
      | endOfStream => exact ⟨rfl, rfl, rfl⟩
      | empty =>
          have hgoes : drain exhausted done false (⟨flag, false, .empty⟩ :: rest) =
              drain exhausted (done || flag) false rest := by simp [drain]
          rw [hgoes]
          exact hrest (done || flag) done'
      | failed e => exact absurd rfl (hfailed e)

/-- The end comes with the mark and not before. -/
theorem drain_prefix (batches : List IdSet) (n : Nat) :
    (drain exhausted done cancelled
      (takes ((batches.map Item.batch ++ [Item.endOfStream]).take n))).failure =
        if n ≤ batches.length then some exhausted else none := by
  rw [List.take_append, List.length_map, ← List.map_take, takes_append, drain_batches,
    Drained.after]
  split
  · rename_i hle
    rw [Nat.sub_eq_zero_of_le hle]
    rfl
  · rename_i hgt
    obtain ⟨k, hk⟩ : ∃ k, n - batches.length = k + 1 := ⟨n - batches.length - 1, by omega⟩
    rw [hk]
    simp [takes, drain]

end Export

end SearchBridge
