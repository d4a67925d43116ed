import SearchBridge.Http.Recording
import SearchBridge.Proofs.Drain
import SearchBridge.Proofs.Run
/-!
When a run reaches its terminal state.

Whatever a POST meets is kept and the run goes on to its end. What meets the request that gives the
cursor up is told apart: a response, whatever its status, and silence are at most logged, but a
fault of the exchange breaks the run off before it is done.
-/

namespace SearchBridge

namespace Export

/-- A run that came to its terminal state. -/
structure Run.Terminal (run : Run) : Prop where
  returns : run.fault = none
  done : run.exporter.done = true
  /-- Unless the run is cancelled the queue accepts the mark of the end, and nothing after it. -/
  marked : run.exporter.cancelled = false →
    (published run.events).getLast? = some .endOfStream
  /-- A drain that looks at the queue once more after the last item comes to an end. -/
  drained : (drain () false false (takes (published run.events) ++
    [⟨run.exporter.done, run.exporter.cancelled, .empty⟩])).failure = none

/-- What meets the requests that give a cursor up is regular. -/
def ClearedRegularly (script : List Answer) (events : List Event) : Prop :=
  ∀ before q after, events = before ++ .request q :: after → q.method = .delete →
    (outcomeAt script (requests before).length).Regular

variable {x : Exporter} {supply : Supply}

/-- The one request that gives a cursor up follows all the others. -/
theorem clearedRegularly_iff {script : List Answer} :
    ClearedRegularly script (x.run supply).events ↔
      ((x.paging supply).token.isSome = true →
        (outcomeAt script (x.clearNumber supply)).Regular) := by
  rw [← Exporter.requests_paging_length, ClearedRegularly, x.run_events]
  constructor
  · intro h hsome
    obtain ⟨token, htoken⟩ := Option.isSome_iff_exists.mp hsome
    have hrequests : x.clearRequests supply = [x.plan.clearRequest token] := by
      simp [Exporter.clearRequests, htoken]
    rw [hrequests] at h
    exact h _ _ _ rfl rfl
  · intro h before q after hsplit hdelete
    rw [← x.run_events] at hsplit
    obtain ⟨rfl, hmem, -⟩ := Exporter.split_delete hsplit hdelete
    obtain ⟨token, htoken, -⟩ := Exporter.mem_clearRequests hmem
    exact h (Option.isSome_iff_exists.mpr ⟨token, htoken⟩)

theorem clearedRegularly_iff_fault :
    ClearedRegularly supply.answers (x.run supply).events ↔ (x.clearing supply).fault = none := by
  rw [clearedRegularly_iff, Exporter.clearing_fault_iff]

/-- A run whose cursor is given up in order comes to its terminal state. -/
theorem terminal_of_cleared (h : (x.clearing supply).fault = none) : (x.run supply).Terminal := by
  have hpublished : published (x.run supply).events =
      (x.paging supply).batches.map .batch ++ acceptedItems (x.closingAttempts supply) := by
    rw [x.run_published, (x.paging_course supply).published_eq]
  have hdone : (x.run supply).exporter.done = true := by
    rw [x.run_eq]
    simp [h]
  have hcancelled : (x.run supply).exporter.cancelled = x.cancelledAfter supply := by
    rw [x.run_eq]
  refine ⟨by rw [x.run_fault, h], hdone, ?_, ?_⟩
  · intro hlive
    rcases Exporter.closing_ends h with hmark | ⟨-, hstopped⟩
    · rw [hpublished, hmark, List.getLast?_append]
      rfl
    · rw [hcancelled, hstopped] at hlive
      cases hlive
  · rw [hpublished, takes_append, List.append_assoc, drain_batches]
    rcases Exporter.closing_ends h with hmark | ⟨hnone, hstopped⟩
    · rw [hmark, drain_endOfStream, Drained.after_failure]
    · rw [hnone, hdone, hcancelled, hstopped]
      exact congrArg Drained.failure (drain_empty _)

/-- A supply whose request number `n` meets another outcome. -/
def Supply.answering (supply : Supply) (n : Nat) (o : Http.Outcome) : Supply :=
  { supply with answers := supply.answers.set n ⟨cancelsAt supply.answers n, o⟩ }

theorem answeredAlike_set {script : List Answer} {n m : Nat} (answer : Answer) (h : m ≠ n) :
    AnsweredAlike script (script.set n answer) m := by
  simp [AnsweredAlike, outcomeAt, cancelsAt, List.getElem?_set_ne h.symm]

theorem cancelsAt_set {script : List Answer} {n : Nat} (o : Http.Outcome) :
    cancelsAt (script.set n ⟨cancelsAt script n, o⟩) n = cancelsAt script n := by
  rcases Nat.lt_or_ge n script.length with hlt | hge
  · simp [cancelsAt, hlt]
  · rw [List.set_eq_of_length_le hge]

theorem regular_set {script : List Answer} {n : Nat} {o : Http.Outcome} {cancels : Bool}
    (h : (outcomeAt script n).Regular) (ho : o.Regular) :
    (outcomeAt (script.set n ⟨cancels, o⟩) n).Regular := by
  rcases Nat.lt_or_ge n script.length with hlt | hge
  · simpa [outcomeAt, hlt] using ho
  · rwa [List.set_eq_of_length_le hge]

/-- What gives the cursor up in order changes nothing but the log. -/
theorem run_answering {o : Http.Outcome} (h : (x.clearing supply).fault = none) (ho : o.Regular) :
    (x.run (supply.answering (x.clearNumber supply) o)).exporter = (x.run supply).exporter ∧
      (x.run (supply.answering (x.clearNumber supply) o)).events = (x.run supply).events := by
  generalize hother : supply.answering (x.clearNumber supply) o = other
  have hpaging : x.paging other =
      { x.paging supply with answers := other.answers.drop (x.clearNumber supply) } := by
    subst hother
    exact Exporter.paging_congr fun m hm => answeredAlike_set _ (Nat.ne_of_lt hm)
  have hnumber : x.clearNumber other = x.clearNumber supply := by
    rw [Exporter.clearNumber, hpaging]
    rfl
  have hclearing : (x.clearing other).fault = none ∧
      (x.clearing other).cancelled = (x.clearing supply).cancelled := by
    cases htoken : (x.paging supply).token with
    | none =>
        rw [Exporter.clearing_none htoken, Exporter.clearing_none (by rw [hpaging]; exact htoken),
          hpaging]
        exact ⟨rfl, rfl⟩
    | some token =>
        have hregular := Exporter.clearing_fault_iff.mp h (by rw [htoken]; rfl)
        rw [Exporter.clearing_eq htoken, Exporter.clearing_eq (by rw [hpaging]; exact htoken),
          hpaging, hnumber, (clear_drop _ _ _ _ _).2.1, (clear_drop _ _ _ _ _).2.1,
          (clear_drop _ _ _ _ _).1]
        subst hother
        exact ⟨regular_set hregular ho, by rw [Supply.answering, cancelsAt_set]⟩
  have hclosing : x.closing other = x.closing supply := by
    rw [Exporter.closing, Exporter.closing, hpaging, hclearing.2]
  rw [x.run_eq, x.run_eq]
  simp only [Exporter.paged, Exporter.errorAfter, Exporter.cancelledAfter,
    Exporter.closingAttempts, Exporter.clearRequests, hclosing, hclearing, h, hpaging, and_self]

/-- A run reaches its terminal state exactly if what meets the request that gives the cursor up is
regular. Then it makes no difference to anything but the log what that is; otherwise the run is
broken off and the end is not marked. -/
theorem run_terminal_iff (x : Exporter) (supply : Supply) :
    ((x.run supply).Terminal ↔ ClearedRegularly supply.answers (x.run supply).events) ∧
      (∀ before q after o, (x.run supply).events = before ++ .request q :: after →
        q.method = .delete → (x.run supply).Terminal → o.Regular →
        (x.run (supply.answering (requests before).length o)).exporter =
            (x.run supply).exporter ∧
          (x.run (supply.answering (requests before).length o)).events =
            (x.run supply).events) ∧
      (¬ClearedRegularly supply.answers (x.run supply).events →
        (x.run supply).exporter.done = x.done ∧
          .endOfStream ∉ published (x.run supply).events) := by
  rw [clearedRegularly_iff_fault]
  refine ⟨⟨?_, terminal_of_cleared⟩, ?_, ?_⟩
  · intro h
    rw [← x.run_fault]
    exact h.returns
  · intro before q after o hsplit hdelete hterminal ho
    obtain ⟨rfl, -, -⟩ := Exporter.split_delete hsplit hdelete
    rw [Exporter.requests_paging_length]
    refine run_answering ?_ ho
    rw [← x.run_fault]
    exact hterminal.returns
  · intro hbroken
    have hnone : (x.clearing supply).fault.isNone = false := by
      cases hf : (x.clearing supply).fault with
      | none => exact absurd hf hbroken
      | some fault => rfl
    constructor
    · rw [x.run_eq]
      simp [hnone]
    · rw [x.run_published, Exporter.closing_broken hbroken, (x.paging_course supply).published_eq]
      simp [acceptedItems]

def sampleExporter : Exporter where
  plan := {
    url := "http://h/c/"
    engineRoot := "http://h/"
    batchSize := .number (.int 2)
    keepAlive := "10m"
    continuation := .string "1m"
    enqueueTimeout := .int 1
    idField := .string "_id" }
  started := false
  done := false
  cancelled := false
  idsExported := 0
  batchesPublished := 0
  error := none

def sampleAnswer (body : String) : Answer :=
  ⟨false, .response (.recorded 200 (Utf8.encode body) none)⟩

/-- A page with a token and no hits. -/
def emptyPage : Answer := sampleAnswer "\x7b\"_scroll_id\":\"t\",\"hits\":\x7b\"hits\":[]\x7d\x7d"

/-- A fault of the request that gives the cursor up leaves a complete export without its end. -/
theorem terminal_broken_by_clearing :
    Exporter.create sampleExporter.plan = .ok sampleExporter ∧
      ¬(sampleExporter.run
        ⟨[emptyPage, ⟨false, .fault (.broken "x")⟩], [], .start⟩).Terminal := by
  refine ⟨rfl, ?_⟩
  intro h
  have hfault : (sampleExporter.run
      ⟨[emptyPage, ⟨false, .fault (.broken "x")⟩], [], .start⟩).fault =
        some (.network (.broken "x")) := by decide +kernel
  rw [h.returns] at hfault
  cases hfault

end Export

end SearchBridge
