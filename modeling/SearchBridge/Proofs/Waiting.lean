import SearchBridge.Proofs.Bookkeeping
import SearchBridge.Proofs.Drain
/-!
How a drain goes along what it takes from a queue. It ends with the mark of the end, or where it
finds the queue empty and both flags of the export are set by then. Everywhere else an empty queue
only makes it wait, which leaves no trace in what it writes.
-/

namespace SearchBridge

namespace Export

variable {ε : Type} {exhausted : ε} {done cancelled : Bool} {script : List (Take ε)}

/-- Takes with the flags that are set by then. A flag that is set stays set. -/
def withFlags (done cancelled : Bool) : List (Take ε) → List (Take ε)
  | [] => []
  | t :: rest =>
    ⟨done || t.done, cancelled || t.cancelled, t.taken⟩ ::
      withFlags (done || t.done) (cancelled || t.cancelled) rest

namespace Take

/-- The drain ends here. -/
def ends (t : Take ε) : Bool :=
  match t.taken with
  | .endOfStream => true
  | .empty => t.done && t.cancelled
  | .batch _ | .failed _ => false

/-- The drain finds the queue empty and takes again. -/
def waits (t : Take ε) : Bool :=
  match t.taken with
  | .empty => !(t.done && t.cancelled)
  | .batch _ | .endOfStream | .failed _ => false

/-- The drain goes on behind this: it waits, or has a batch to write. -/
def GoesOn (t : Take ε) : Prop := t.waits = true ∨ ∃ ids, t.taken = .batch ids

/-- The drain goes no further: it ends here, or the queue fails. -/
def StopsWith (t : Take ε) (failure : Option ε) : Prop :=
  t.ends = true ∧ failure = none ∨ ∃ e, t.taken = .failed e ∧ failure = some e

end Take

theorem withFlags_append (before after : List (Take ε)) :
    withFlags done cancelled (before ++ after) =
      withFlags done cancelled before ++
        withFlags (done || before.any (·.done)) (cancelled || before.any (·.cancelled)) after := by
  induction before generalizing done cancelled with
  | nil => simp [withFlags]
  | cons t rest ih => simp [withFlags, ih, Bool.or_assoc]

theorem length_withFlags : (withFlags done cancelled script).length = script.length := by
  induction script generalizing done cancelled with
  | nil => rfl
  | cons t rest ih => rw [withFlags, List.length_cons, ih, List.length_cons]

theorem batches_cons (t : Take ε) (rest : List (Take ε)) :
    batches (t :: rest) = batches [t] ++ batches rest := by
  rw [← List.singleton_append, batches_append]

/-- What a drain does with the next entry. -/
theorem drain_cons (exhausted : ε) (done cancelled : Bool) (t : Take ε) (rest : List (Take ε)) :
    let now : Take ε := ⟨done || t.done, cancelled || t.cancelled, t.taken⟩
    let more := drain exhausted now.done now.cancelled rest
    (∃ failure, now.StopsWith failure ∧
        drain exhausted done cancelled (t :: rest) = ⟨[], 0, rest.length, failure⟩) ∨
      now.GoesOn ∧ drain exhausted done cancelled (t :: rest) = more.after (batches [now]) := by
  obtain ⟨d, c, taken⟩ := t
  cases taken with
  | batch ids =>
      refine Or.inr ⟨Or.inr ⟨ids, rfl⟩, ?_⟩
      simp [drain, Drained.after, batches, takenItems, Item.batch?, idCount]
  | endOfStream => exact Or.inl ⟨none, Or.inl ⟨rfl, rfl⟩, rfl⟩
  | failed e => exact Or.inl ⟨some e, Or.inr ⟨e, rfl, rfl⟩, rfl⟩
  | empty =>
      cases hover : (done || d) && (cancelled || c) with
      | true => exact Or.inl ⟨none, Or.inl ⟨hover, rfl⟩, by simp only [drain, hover, if_true]⟩
      | false =>
          refine Or.inr ⟨Or.inl (by simp [Take.waits, hover]), ?_⟩
          simp only [drain, hover, Bool.false_eq_true, if_false]
          exact Drained.after_nil.symm

/-- How a drain goes: up to the first entry that stops it, or through all of them. -/
theorem drain_course (exhausted : ε) (done cancelled : Bool) (script : List (Take ε)) :
    (∃ before t after failure, withFlags done cancelled script = before ++ t :: after ∧
        (∀ b ∈ before, b.GoesOn) ∧ t.StopsWith failure ∧
        drain exhausted done cancelled script =
          Drained.after ⟨[], 0, after.length, failure⟩ (batches before)) ∨
      (∀ t ∈ withFlags done cancelled script, t.GoesOn) ∧
        drain exhausted done cancelled script =
          Drained.after ⟨[], 0, 0, some exhausted⟩ (batches (withFlags done cancelled script)) := by
  induction script generalizing done cancelled with
  | nil => exact Or.inr ⟨List.forall_mem_nil _, Drained.after_nil.symm⟩
  | cons t rest ih =>
      rcases drain_cons exhausted done cancelled t rest with
        ⟨failure, hstops, hdrain⟩ | ⟨hgoes, hdrain⟩
      · refine Or.inl ⟨[], _, _, failure, rfl, List.forall_mem_nil _, hstops, ?_⟩
        rw [hdrain, length_withFlags]
        exact Drained.after_nil.symm
      · rcases ih (done || t.done) (cancelled || t.cancelled) with
          ⟨before, u, after, failure, hseen, hbefore, hstops, hmore⟩ | ⟨hall, hmore⟩
        · refine Or.inl ⟨_ :: before, u, after, failure, congrArg (_ :: ·) hseen,
            List.forall_mem_cons.mpr ⟨hgoes, hbefore⟩, hstops, ?_⟩
          rw [hdrain, hmore, batches_cons _ before, Drained.after_append]
        · refine Or.inr ⟨List.forall_mem_cons.mpr ⟨hgoes, hall⟩, ?_⟩
          rw [hdrain, hmore, withFlags, batches_cons _ (withFlags _ _ rest), Drained.after_append]

/-- What a drain writes and how it ends is decided by the entries at which it does not wait. -/
theorem drain_skips_waits (exhausted : ε) (script : List (Take ε))
    {done' cancelled' done cancelled : Bool} (hdone : (done' || done) = done)
    (hcancelled : (cancelled' || cancelled) = cancelled) :
    (drain exhausted done' cancelled'
      ((withFlags done cancelled script).filter (!·.waits))).Agrees
        (drain exhausted done cancelled script) := by
  induction script generalizing done cancelled done' cancelled' with
  | nil => exact .refl _
  | cons t rest ih =>
      -- Each entry that is kept brings its flags with it, so it does not matter that the flags of
      -- the drain that skips the waiting lag behind.
      obtain ⟨d, c, taken⟩ := t
      have hd : (done' || (done || d)) = (done || d) := by rw [← Bool.or_assoc, hdone]
      have hc : (cancelled' || (cancelled || c)) = (cancelled || c) := by
        rw [← Bool.or_assoc, hcancelled]
      rw [withFlags]
      cases taken with
      | batch ids =>
          have hrest := ih (Bool.or_self (done || d)) (Bool.or_self (cancelled || c))
          simp only [Take.waits, Bool.not_false, List.filter_cons_of_pos, drain, hd, hc]
          exact ⟨congrArg (ids.toList ++ ·) hrest.lines, congrArg (ids.size + ·) hrest.written,
            hrest.failure⟩
      | endOfStream => exact ⟨rfl, rfl, rfl⟩
      | failed e => exact ⟨rfl, rfl, rfl⟩
      | empty =>
          cases hover : (done || d) && (cancelled || c) with
          | true =>
              simp only [Take.waits, hover, Bool.not_true, Bool.not_false,
                List.filter_cons_of_pos, drain, hd, hc, if_true]
              exact ⟨rfl, rfl, rfl⟩
          | false =>
              have hrest := ih hd hc
              simpa [Take.waits, drain, hover] using hrest

/-- Scripts that differ only in where the drain waits are drained alike. -/
theorem drain_unmoved (exhausted : ε) {script other : List (Take ε)}
    (h : (withFlags done cancelled other).filter (!·.waits) =
      (withFlags done cancelled script).filter (!·.waits)) :
    (drain exhausted done cancelled other).Agrees (drain exhausted done cancelled script) := by
  have hscript := drain_skips_waits exhausted script (Bool.or_self done) (Bool.or_self cancelled)
  have hother := drain_skips_waits exhausted other (Bool.or_self done) (Bool.or_self cancelled)
  rw [h] at hother
  exact ⟨hother.lines.symm.trans hscript.lines, hother.written.symm.trans hscript.written,
    hother.failure.symm.trans hscript.failure⟩

/-- What is written of batches: the ids of each in order, one on a line. The sizes of the batches
add up to the number that the drain returns, which is that of the lines. -/
structure Drained.Writes (d : Drained ε) (taken : List IdSet) : Prop where
  text : linesText d.lines = taken.flatMap fun ids => linesText ids.toList
  number : d.written = idCount taken
  length : d.lines.length = d.written

theorem Drained.writes_after (taken : List IdSet) (left : Nat) (failure : Option ε) :
    (Drained.after ⟨[], 0, left, failure⟩ taken).Writes taken where
  text := by
    rw [after, List.append_nil, linesText, List.flatMap_assoc]
    rfl
  number := Nat.add_zero _
  length := by
    rw [after, List.append_nil, Nat.add_zero]
    exact (idCount_eq_length taken).symm

/-- What a drain of a scripted queue keeps to, whatever the script and the flags. -/
structure Drained.Patient (d : Drained ε) (exhausted : ε) (done cancelled : Bool)
    (script : List (Take ε)) : Prop where
  /-- It stops at the first entry that ends it or at which the queue fails, writes the batches
  before that entry and leaves what comes after it. If there is no such entry it goes through all of
  them, and the queue fails behind them. -/
  course :
    (∃ before t after, withFlags done cancelled script = before ++ t :: after ∧
        (∀ b ∈ before, b.GoesOn) ∧ t.StopsWith d.failure ∧ d.Writes (batches before) ∧
        d.left = after.length) ∨
      (∀ t ∈ withFlags done cancelled script, t.GoesOn) ∧ d.failure = some exhausted ∧
        d.Writes (batches (withFlags done cancelled script)) ∧ d.left = 0
  /-- It does not return without the mark unless it finds the queue empty with both flags set. -/
  bothFlags : d.failure = none → ∃ t ∈ withFlags done cancelled script,
    t.taken = .endOfStream ∨ t.taken = .empty ∧ t.done = true ∧ t.cancelled = true
  /-- The entries at which it waits make no difference, as long as the others are met with the same
  flags. -/
  unmoved : ∀ other,
    (withFlags done cancelled other).filter (!·.waits) =
      (withFlags done cancelled script).filter (!·.waits) →
    (drain exhausted done cancelled other).Agrees d
  /-- In particular the queue may be found empty any number of times more where the flags are not
  both set. -/
  idle : ∀ before after n, script = before ++ after →
    ((done || before.any (·.done)) && (cancelled || before.any (·.cancelled))) = false →
    (drain exhausted done cancelled
      (before ++ (List.replicate n ⟨false, false, .empty⟩ ++ after))).Agrees d

theorem Take.StopsWith.returns {t : Take ε} (h : t.StopsWith none) :
    t.taken = .endOfStream ∨ t.taken = .empty ∧ t.done = true ∧ t.cancelled = true := by
  rcases h with ⟨hends, -⟩ | ⟨_, -, hfailure⟩
  · obtain ⟨d, c, taken⟩ := t
    cases taken with
    | batch ids => cases hends
    | endOfStream => exact Or.inl rfl
    | empty => exact Or.inr ⟨rfl, Bool.and_eq_true_iff.mp hends⟩
    | failed e => cases hends
  · cases hfailure

/-- Finding the queue empty more often adds nothing but entries at which the drain waits. -/
theorem withFlags_idle (n : Nat) (after : List (Take ε)) (h : (done && cancelled) = false) :
    (withFlags done cancelled (List.replicate n ⟨false, false, .empty⟩ ++ after)).filter
        (!·.waits) =
      (withFlags done cancelled after).filter (!·.waits) := by
  induction n with
  | zero => rfl
  | succ n ih =>
      rw [List.replicate_succ, List.cons_append, withFlags, List.filter_cons_of_neg]
      · simpa only [Bool.or_false] using ih
      · simp [Take.waits, h]

/-- A drain is patient: an empty queue does not end it and leaves no trace, unless both flags of
the export are set. -/
theorem drain_patient (exhausted : ε) (done cancelled : Bool) (script : List (Take ε)) :
    (drain exhausted done cancelled script).Patient exhausted done cancelled script := by
  have hcourse := drain_course exhausted done cancelled script
  constructor
  case course =>
    rcases hcourse with ⟨before, t, after, failure, hseen, hbefore, hstops, hdrain⟩ | ⟨hall, hdrain⟩
    · rw [hdrain]
      exact Or.inl ⟨before, t, after, hseen, hbefore, hstops, Drained.writes_after _ _ _, rfl⟩
    · rw [hdrain]
      exact Or.inr ⟨hall, rfl, Drained.writes_after _ _ _, rfl⟩
  case bothFlags =>
    intro hreturns
    rcases hcourse with ⟨before, t, after, failure, hseen, -, hstops, hdrain⟩ | ⟨-, hdrain⟩
    · rw [hdrain] at hreturns
      obtain rfl : failure = none := hreturns
      exact ⟨t, hseen ▸ List.mem_append_right before List.mem_cons_self, hstops.returns⟩
    · rw [hdrain] at hreturns
      cases hreturns
  case unmoved => exact fun other hsame => drain_unmoved exhausted hsame
  case idle =>
    rintro before after n rfl hflags
    apply drain_unmoved exhausted
    rw [withFlags_append before (_ ++ after), withFlags_append before after, List.filter_append,
      List.filter_append, withFlags_idle n after hflags]

end Export

end SearchBridge
