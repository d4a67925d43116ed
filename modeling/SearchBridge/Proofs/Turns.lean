import SearchBridge.Proofs.Report
import SearchBridge.Proofs.Undisturbed
/-!
The exporter and the drain side by side.

The two sides of a job take turns at a queue that has room for a bounded number of items. Each turn
of the exporter is its next attempt to put an item, which is accepted exactly if there is room; each
turn of the drain takes the first item or finds the queue empty. If every side always gets another
turn, an undisturbed job comes to its end, and what it leaves is the report that the run followed by
the drain makes.
-/

namespace SearchBridge

namespace Export

inductive Side where
  | exporter
  | drain
  deriving DecidableEq, Repr

/-- A job between two turns: what the attempts of the exporter have met, what is on the queue and
what the drain has taken. -/
structure Joint where
  met : List PutAction
  queue : List Item
  taken : List (Take Unit)

namespace Joint

variable (x : Exporter) (supply : Supply) (capacity : Nat)

def start : Joint := ⟨[], [], []⟩

/-- The run of the exporter. It is known as far as its attempts have met something. -/
def run (j : Joint) : Run := x.run { supply with puts := j.met }

/-- The next attempt of the exporter, unless it has come to its end. -/
def next? (j : Joint) : Option (Attempt Item) :=
  (attempts (j.run x supply).events)[j.met.length]?

/-- The drain of what was taken. It has come to its end once it does not fail. -/
def drained (j : Joint) : Drained Unit := Export.drain () false false j.taken

def offer (j : Joint) (i : Item) : Joint :=
  if j.queue.length < capacity then
    { j with met := j.met ++ [⟨false, true⟩], queue := j.queue ++ [i] }
  else { j with met := j.met ++ [⟨false, false⟩] }

/-- An attempt to take from the queue. An empty queue lets the drain see the flags of the export. -/
def take (j : Joint) : Joint :=
  match j.queue with
  | i :: rest => { j with queue := rest, taken := j.taken ++ takes [i] }
  | [] =>
    let exporter := (j.run x supply).exporter
    let isDone := (j.next? x supply).isNone && exporter.done
    { j with taken := j.taken ++ [⟨isDone, exporter.cancelled, .empty⟩] }

/-- A turn. A side that has come to its end does nothing any more. -/
def turn (j : Joint) : Side → Joint
  | .exporter => (j.next? x supply).elim j fun a => j.offer capacity a.item
  | .drain => if j.drained.failure.isNone then j else j.take x supply

def after (schedule : Nat → Side) : Nat → Joint
  | 0 => start
  | n + 1 => (after schedule n).turn x supply capacity (schedule n)

/-- The report of a job of which both sides have come to their ends. -/
def report? (j : Joint) : Option JobReport :=
  if (j.next? x supply).isNone && j.drained.failure.isNone then
    some (conclude (j.run x supply) j.drained none)
  else none

end Joint

/-- Every side always gets another turn. -/
def Fair (schedule : Nat → Side) : Prop := ∀ side n, ∃ m, n ≤ m ∧ schedule m = side

namespace Joint

variable {x : Exporter} {supply : Supply} {capacity : Nat} {j : Joint}

/-- What holds between the turns of an undisturbed job: the drain has taken the first of the items
that were accepted, and the others are on the queue. -/
structure Sound (x : Exporter) (supply : Supply) (j : Joint) : Prop where
  met : NoneCancels j.met
  bounded : acceptedCount j.met ≤ (Undisturbed.items x supply).length
  items_eq : takenItems j.taken ++ j.queue =
    (Undisturbed.items x supply).take (acceptedCount j.met)
  calm : ∀ t ∈ j.taken, t.IsCalm

/-- What is left to do: an item that is not accepted yet has to be put and to be taken. -/
def left (x : Exporter) (supply : Supply) (j : Joint) : Nat :=
  2 * ((Undisturbed.items x supply).length - acceptedCount j.met) + j.queue.length

theorem sound_start : Sound x supply start where
  met := by simp [start, NoneCancels]
  bounded := Nat.zero_le _
  items_eq := by simp [start, acceptedCount, takenItems]
  calm := by simp [start]

theorem Sound.taken_eq (h : Sound x supply j) :
    ∃ n, takenItems j.taken = (Undisturbed.items x supply).take n ∧
      n + j.queue.length = acceptedCount j.met := by
  have hlength := congrArg List.length h.items_eq
  rw [List.length_append, List.length_take_of_le h.bounded] at hlength
  refine ⟨(takenItems j.taken).length, ?_, hlength⟩
  have htake := congrArg (List.take (takenItems j.taken).length) h.items_eq
  rw [List.take_left, List.take_take, Nat.min_eq_left (by omega)] at htake
  exact htake

theorem Sound.drained_failure (h : Sound x supply j) :
    j.drained.failure = none ↔
      acceptedCount j.met = (Undisturbed.items x supply).length ∧ j.queue = [] := by
  obtain ⟨n, htaken, hn⟩ := h.taken_eq
  have hbounded := h.bounded
  have hlength : (Undisturbed.items x supply).length = (x.paging supply).batches.length + 1 := by
    simp [Undisturbed.items]
  rw [hlength] at hbounded ⊢
  rw [drained, (drain_calm h.calm false false).failure, htaken, Undisturbed.items, drain_prefix,
    ← List.length_eq_zero_iff]
  split
  · simp only [reduceCtorEq, false_iff]
    omega
  · simp only [true_iff]
    omega

theorem Sound.next?_eq (hx : Undisturbed x supply) (h : Sound x supply j) :
    j.next? x supply =
      (Undisturbed.items x supply)[acceptedCount j.met]?.map
        (⟨·, x.plan.enqueueTimeout, ⟨false, true⟩⟩) :=
  hx.next_eq h.met

/-- Two jobs that are as far as each other. -/
def AsFar (j j' : Joint) : Prop :=
  acceptedCount j'.met = acceptedCount j.met ∧ j'.queue = j.queue

theorem AsFar.left_eq {j' : Joint} (h : AsFar j j') : j'.left x supply = j.left x supply := by
  rw [left, left, h.1, h.2]

theorem Sound.offer (h : Sound x supply j) (capacity : Nat) {i : Item}
    (hi : (Undisturbed.items x supply)[acceptedCount j.met]? = some i) :
    Sound x supply (j.offer capacity i) ∧
      if j.queue.length < capacity then
        (j.offer capacity i).left x supply < j.left x supply
      else AsFar j (j.offer capacity i) := by
  obtain ⟨hlt, hget⟩ := List.getElem?_eq_some_iff.mp hi
  unfold Joint.offer
  split
  · constructor
    · refine ⟨h.met.concat true, ?_, ?_, h.calm⟩
      · rw [acceptedCount_concat]
        exact hlt
      · rw [acceptedCount_concat, ← List.append_assoc, h.items_eq, Bool.toNat_true,
          List.take_add_one, hi]
        rfl
    · simp only [left, acceptedCount_concat, Bool.toNat_true, List.length_append,
        List.length_singleton]
      omega
  · constructor
    · refine ⟨h.met.concat false, ?_, ?_, h.calm⟩
      · rw [acceptedCount_concat]
        exact h.bounded
      · rw [acceptedCount_concat]
        exact h.items_eq
    · exact ⟨acceptedCount_concat _ false, rfl⟩

theorem Sound.take (hx : Undisturbed x supply) (h : Sound x supply j) :
    Sound x supply (j.take x supply) ∧
      if j.queue = [] then AsFar j (j.take x supply)
      else (j.take x supply).left x supply < j.left x supply := by
  unfold Joint.take
  split
  · rename_i i rest hqueue
    constructor
    · refine ⟨h.met, h.bounded, ?_, ?_⟩
      · rw [takenItems_append, takenItems_takes, ← h.items_eq, hqueue, List.append_assoc]
        rfl
      · intro t ht
        rcases List.mem_append.mp ht with hbefore | hlast
        · exact h.calm t hbefore
        · exact takes_calm [i] t hlast
    · simp [left, hqueue]
  · rename_i hqueue
    have hcancelled : (j.run x supply).exporter.cancelled = false :=
      (hx.other_puts h.met).cancelled_eq
    constructor
    · refine ⟨h.met, h.bounded, ?_, ?_⟩
      · rw [takenItems_append, ← h.items_eq]
        exact congrArg (· ++ j.queue) (List.append_nil _)
      · intro t ht
        rcases List.mem_append.mp ht with hbefore | hlast
        · exact h.calm t hbefore
        · rw [List.mem_singleton.mp hlast]
          exact ⟨hcancelled, fun e he => by cases he⟩
    · rw [if_pos hqueue]
      exact ⟨rfl, rfl⟩

/-- A turn of the exporter offers the first item that is not accepted yet. -/
theorem Sound.turn_exporter (hx : Undisturbed x supply) (h : Sound x supply j) :
    j.turn x supply capacity .exporter =
      (Undisturbed.items x supply)[acceptedCount j.met]?.elim j (j.offer capacity) := by
  simp only [Joint.turn, h.next?_eq hx]
  cases (Undisturbed.items x supply)[acceptedCount j.met]? <;> rfl

/-- A turn of the drain is an attempt to take until it has come to its end. -/
theorem turn_drain (h : j.drained.failure ≠ none) :
    j.turn x supply capacity .drain = j.take x supply := by
  cases hfailure : j.drained.failure with
  | none => exact absurd hfailure h
  | some u => simp [Joint.turn, hfailure]

/-- A turn keeps what holds, and it leaves less to do or the job as far as it was. -/
theorem Sound.turn (hx : Undisturbed x supply) (h : Sound x supply j) (capacity : Nat)
    (side : Side) :
    Sound x supply (j.turn x supply capacity side) ∧
      ((j.turn x supply capacity side).left x supply < j.left x supply ∨
        AsFar j (j.turn x supply capacity side)) := by
  cases side with
  | exporter =>
      rw [h.turn_exporter hx]
      cases hi : (Undisturbed.items x supply)[acceptedCount j.met]? with
      | none => exact ⟨h, Or.inr ⟨rfl, rfl⟩⟩
      | some i =>
          obtain ⟨hsound, hstep⟩ := h.offer capacity hi
          refine ⟨hsound, ?_⟩
          split at hstep
          · exact Or.inl hstep
          · exact Or.inr hstep
  | drain =>
      by_cases hfailure : j.drained.failure = none
      · have hstays : j.turn x supply capacity .drain = j := by simp [Joint.turn, hfailure]
        rw [hstays]
        exact ⟨h, Or.inr ⟨rfl, rfl⟩⟩
      · rw [turn_drain hfailure]
        obtain ⟨hsound, hstep⟩ := h.take hx
        refine ⟨hsound, ?_⟩
        split at hstep
        · exact Or.inr hstep
        · exact Or.inl hstep

/-- As long as something is left to do one of the sides can do some of it. -/
theorem exists_productive (hx : Undisturbed x supply) (hcapacity : 0 < capacity)
    (hleft : 0 < j.left x supply) :
    ∃ side, ∀ j', Sound x supply j' → AsFar j j' →
      (j'.turn x supply capacity side).left x supply < j'.left x supply := by
  -- an empty queue has room for an item, any other has one to take
  by_cases hqueue : j.queue = []
  · refine ⟨.exporter, fun j' h' halike => ?_⟩
    have hqueue' : j'.queue.length < capacity := by
      rw [halike.2, hqueue]
      exact hcapacity
    have hlt : acceptedCount j'.met < (Undisturbed.items x supply).length := by
      rw [halike.1]
      simp only [left, hqueue, List.length_nil] at hleft
      omega
    have hnext := List.getElem?_eq_getElem hlt
    rw [h'.turn_exporter hx, hnext]
    have hstep := (h'.offer capacity hnext).2
    rwa [if_pos hqueue'] at hstep
  · refine ⟨.drain, fun j' h' halike => ?_⟩
    have hqueue' : j'.queue ≠ [] := by rwa [halike.2]
    have hfailure : j'.drained.failure ≠ none := by
      intro hnone
      exact hqueue' (h'.drained_failure.mp hnone).2
    rw [turn_drain hfailure]
    have hstep := (h'.take hx).2
    rwa [if_neg hqueue'] at hstep

section

variable (capacity : Nat) (schedule : Nat → Side)

theorem sound_after (hx : Undisturbed x supply) (n : Nat) :
    Sound x supply (after x supply capacity schedule n) := by
  induction n with
  | zero => exact sound_start
  | succ n ih => exact (ih.turn hx capacity (schedule n)).1

/-- Later there is less to do, or nothing was done in between. -/
theorem less_or_asFar (hx : Undisturbed x supply) {n m : Nat} (h : n ≤ m) :
    (after x supply capacity schedule m).left x supply <
        (after x supply capacity schedule n).left x supply ∨
      AsFar (after x supply capacity schedule n) (after x supply capacity schedule m) := by
  induction h with
  | refl => exact Or.inr ⟨rfl, rfl⟩
  | @step m _ ih =>
      have hsound := sound_after capacity schedule hx m
      rcases (hsound.turn hx capacity (schedule m)).2 with hturn | hturn
      · rcases ih with hless | hfar
        · exact Or.inl (Nat.lt_trans hturn hless)
        · rw [hfar.left_eq] at hturn
          exact Or.inl hturn
      · rcases ih with hless | hfar
        · exact Or.inl (hturn.left_eq ▸ hless)
        · exact Or.inr ⟨hturn.1.trans hfar.1, hturn.2.trans hfar.2⟩

/-- Under a fair schedule something is done as long as something is left to do. -/
theorem exists_less (hx : Undisturbed x supply) (hcapacity : 0 < capacity)
    (hfair : Fair schedule) {n : Nat}
    (hleft : 0 < (after x supply capacity schedule n).left x supply) :
    ∃ m, (after x supply capacity schedule m).left x supply <
      (after x supply capacity schedule n).left x supply := by
  obtain ⟨side, hside⟩ := exists_productive hx hcapacity hleft
  obtain ⟨m, hm, hturn⟩ := hfair side n
  rcases less_or_asFar capacity schedule hx hm with hless | hfar
  · exact ⟨m, hless⟩
  · have hless := hside _ (sound_after capacity schedule hx m) hfar
    rw [← hturn, hfar.left_eq] at hless
    exact ⟨m + 1, hless⟩

theorem exists_left_eq_zero (hx : Undisturbed x supply) (hcapacity : 0 < capacity)
    (hfair : Fair schedule) : ∃ n, (after x supply capacity schedule n).left x supply = 0 := by
  -- by induction on a bound of what is left
  have hfrom : ∀ k n, (after x supply capacity schedule n).left x supply ≤ k →
      ∃ m, (after x supply capacity schedule m).left x supply = 0 := by
    intro k
    induction k with
    | zero => exact fun n hn => ⟨n, Nat.le_zero.mp hn⟩
    | succ k ih =>
        intro n hn
        rcases Nat.eq_zero_or_pos ((after x supply capacity schedule n).left x supply) with
          hzero | hpos
        · exact ⟨n, hzero⟩
        · obtain ⟨m, hm⟩ := exists_less capacity schedule hx hcapacity hfair hpos
          exact ih m (by omega)
  exact hfrom _ 0 (Nat.le_refl _)

end

end Joint

namespace Joint

variable {x : Exporter} {supply : Supply} {j : Joint}

/-- Once nothing is left to do, both sides have come to their ends, and the report is made. -/
theorem Sound.report (hx : Undisturbed x supply) (h : Sound x supply j)
    (hzero : j.left x supply = 0) :
    ∃ report, j.report? x supply = some report ∧ (job x supply none).Alike report := by
  have hbounded := h.bounded
  have hcount : acceptedCount j.met = (Undisturbed.items x supply).length := by
    unfold left at hzero
    omega
  have hqueue : j.queue = [] := by
    rw [← List.length_eq_zero_iff]
    unfold left at hzero
    omega
  have hnext : j.next? x supply = none := by
    rw [h.next?_eq hx, hcount, List.getElem?_eq_none (Nat.le_refl _)]
    rfl
  have hfailure := h.drained_failure.mpr ⟨hcount, hqueue⟩
  have htaken : takenItems j.taken = Undisturbed.items x supply := by
    have hitems := h.items_eq
    rwa [hqueue, List.append_nil, hcount, List.take_length] at hitems
  have hdrain : j.drained.Agrees _ := drain_calm h.calm false false
  rw [htaken, ← hx.published_eq] at hdrain
  obtain ⟨hexporter, hevents, hlog, -⟩ := run_other_puts x supply hx.puts j.met h.met
  refine ⟨conclude (j.run x supply) j.drained none, by simp [report?, hnext, hfailure], ?_⟩
  exact conclude_alike (congrArg Exporter.error hexporter) hevents hlog hdrain

/-- An undisturbed job comes to its end under every fair schedule, however small the queue is, and
with the report of the run followed by the drain. -/
theorem ends (hx : Undisturbed x supply) {capacity : Nat} (hcapacity : 0 < capacity)
    {schedule : Nat → Side} (hfair : Fair schedule) :
    ∃ n, ∀ m, n ≤ m → ∃ report,
      (after x supply capacity schedule m).report? x supply = some report ∧
        (job x supply none).Alike report := by
  obtain ⟨n, hn⟩ := exists_left_eq_zero capacity schedule hx hcapacity hfair
  refine ⟨n, fun m hm => ?_⟩
  refine (sound_after capacity schedule hx m).report hx ?_
  rcases less_or_asFar capacity schedule hx hm with hless | hfar
  · rw [hn] at hless
    exact absurd hless (Nat.not_lt_zero _)
  · rw [hfar.left_eq, hn]

end Joint

end Export

end SearchBridge
