import SearchBridge.Proofs.Trace
/-!
A run in its three parts: paging, giving the cursor up, and marking the end of the stream.
-/

namespace SearchBridge

namespace Export

/-- Giving a cursor up fails only if its outcome is not regular. It uses up an answer. -/
theorem clear_drop (p : Plan) (token : Text) (cancelled : Bool) (script : List Answer) (n : Nat) :
    ((clear p token cancelled (script.drop n)).fault = none ↔ (outcomeAt script n).Regular) ∧
      (clear p token cancelled (script.drop n)).cancelled = (cancelled || cancelsAt script n) ∧
      (clear p token cancelled (script.drop n)).answers = script.drop (n + 1) := by
  have houtcome : ((script.drop n).head?.map (·.outcome)).getD (.unreachable Http.silence) =
      outcomeAt script n := rfl
  have hcancels : ((script.drop n).head?.map (·.cancels)).getD false = cancelsAt script n := rfl
  rw [← Http.Request.settle_regular_iff (r := p.clearRequest token)]
  simp only [clear, houtcome, hcancels, List.tail_drop]
  split
  · rename_i fault hsettle
    simp [hsettle]
  · rename_i f hother hsettle
    simpa [hsettle] using hother
  · rename_i reply hsettle
    simp [hsettle]

namespace Exporter

variable (x : Exporter) (supply : Supply)

def paging : Paging :=
  openAndPage x.plan ⟨supply.puts, supply.clock, x.cancelled⟩ supply.answers

/-- The error that is kept of a run: the one that ended its paging, or else the one from before. -/
def errorAfter : Option Failure :=
  match (x.paging supply).ending with
  | .failed f => some f
  | _ => x.error

def paged : Exporter :=
  { x with
    idsExported := x.idsExported + idCount (x.paging supply).batches
    batchesPublished := x.batchesPublished + (x.paging supply).batches.length
    cancelled := (x.paging supply).stage.cancelled
    error := x.errorAfter supply }

/-- What paging logs, the failure that ended it included. -/
def pagedLog : List Log.Line :=
  match (x.paging supply).ending with
  | .failed f =>
    (x.paging supply).log ++ [⟨.error,
      "Id export failed after " ++ (Number.int (x.paged supply).idsExported).text ++ " ids: "
        ++ f.message⟩]
  | _ => (x.paging supply).log

/-- What comes of giving the cursor up at the end of a run, if there is one. -/
def clearing : Clearing :=
  match (x.paging supply).token with
  | none => ⟨none, [], (x.paging supply).stage.cancelled, (x.paging supply).answers⟩
  | some token =>
    clear x.plan token (x.paging supply).stage.cancelled (x.paging supply).answers

/-- The requests that give the cursor up: one if there is a cursor. -/
def clearRequests : List Http.Request :=
  (x.paging supply).token.toList.map x.plan.clearRequest

/-- The publication of the mark of the end, if a run gets that far. -/
def closing : Publication Item :=
  publish .endOfStream x.plan.enqueueTimeout (some (x.clearing supply).cancelled)
    (x.paging supply).stage.puts

/-- The attempts to mark the end. A run that is broken off makes none. -/
def closingAttempts : List (Attempt Item) :=
  if (x.clearing supply).fault.isNone then (x.closing supply).attempts else []

def cancelledAfter : Bool :=
  if (x.clearing supply).fault.isNone then (x.closing supply).cancelled.getD false
  else (x.clearing supply).cancelled

def putsAfter : List PutAction :=
  if (x.clearing supply).fault.isNone then (x.closing supply).rest
  else (x.paging supply).stage.puts

/-- A run is its three parts, one after the other. -/
theorem run_eq :
    x.run supply =
      ⟨{ x.paged supply with
          done := x.done || (x.clearing supply).fault.isNone
          cancelled := x.cancelledAfter supply },
        (x.paging supply).events ++ ((x.clearRequests supply).map .request ++
          (x.closingAttempts supply).map .put),
        x.pagedLog supply ++ (x.clearing supply).log,
        ⟨(x.clearing supply).answers, x.putsAfter supply, (x.paging supply).stage.clock⟩,
        (x.clearing supply).fault⟩ := by
  unfold run pagedLog paged cancelledAfter putsAfter closingAttempts closing clearRequests clearing
    errorAfter paging
  generalize openAndPage _ _ _ = paging
  obtain ⟨events, batches, ending, log, token, stage, answers⟩ := paging
  cases ending <;> cases token <;> dsimp only <;> split <;> simp_all

theorem run_fault : (x.run supply).fault = (x.clearing supply).fault := by
  rw [run_eq]

theorem run_events :
    (x.run supply).events =
      (x.paging supply).events ++ ((x.clearRequests supply).map .request ++
        (x.closingAttempts supply).map .put) := by
  rw [run_eq]

theorem run_requests :
    requests (x.run supply).events =
      requests (x.paging supply).events ++ x.clearRequests supply := by
  simp [run_events]

theorem run_published :
    published (x.run supply).events =
      published (x.paging supply).events ++ acceptedItems (x.closingAttempts supply) := by
  simp [run_events]

theorem paging_course :
    Course x.plan supply.answers 0 x.plan.openRequest none
      ⟨supply.puts, supply.clock, x.cancelled⟩ (x.paging supply) := by
  unfold paging
  rw [openAndPage_eq_send]
  exact send_course x.plan supply.answers 0 x.plan.openRequest none _

variable {x supply}

theorem paging_method {q : Http.Request} (h : q ∈ requests (x.paging supply).events) :
    q.method = .post :=
  (x.paging_course supply).method_eq rfl q h

theorem mem_clearRequests {q : Http.Request} (h : q ∈ x.clearRequests supply) :
    ∃ token, (x.paging supply).token = some token ∧ q = x.plan.clearRequest token := by
  unfold clearRequests at h
  cases htoken : (x.paging supply).token with
  | none => simp [htoken] at h
  | some token =>
      simp only [htoken, Option.toList_some, List.map_cons, List.map_nil, List.mem_singleton] at h
      exact ⟨token, rfl, h⟩

theorem clearRequests_length : (x.clearRequests supply).length ≤ 1 := by
  unfold clearRequests
  cases (x.paging supply).token <;> simp

theorem closing_item {a : Attempt Item} (h : a ∈ x.closingAttempts supply) :
    a.item = .endOfStream := by
  unfold closingAttempts closing at h
  split at h
  · exact (attempt_of_publish h).1
  · cases h

theorem closing_accepted {i : Item} (h : i ∈ acceptedItems (x.closingAttempts supply)) :
    i = .endOfStream := by
  obtain ⟨a, ha, rfl⟩ := List.mem_map.mp h
  exact closing_item (List.mem_filter.mp ha).1

/-- The mark gets on the queue once at most. -/
theorem closing_accepted_length : (acceptedItems (x.closingAttempts supply)).length ≤ 1 := by
  unfold closingAttempts closing
  split
  · rw [acceptedItems_publish]
    split
    · exact Nat.le_refl 1
    · exact Nat.zero_le 1
  · exact Nat.zero_le 1

/-- A request after paging is the only one, and nothing comes between. -/
theorem split_clearing {q : Http.Request} {mid after : List Event}
    (h : (x.clearRequests supply).map .request ++ (x.closingAttempts supply).map .put =
      mid ++ .request q :: after) :
    mid = [] ∧ q ∈ x.clearRequests supply ∧ after = (x.closingAttempts supply).map .put := by
  unfold clearRequests at h ⊢
  cases htoken : (x.paging supply).token with
  | none =>
      rw [htoken] at h
      exact absurd h not_split_puts
  | some token =>
      rw [htoken] at h
      cases mid with
      | nil =>
          cases h
          exact ⟨rfl, List.mem_singleton_self _, rfl⟩
      | cons event mid =>
          obtain ⟨_, -, hputs⟩ := split_first h (List.cons_ne_nil event mid)
          exact absurd hputs not_split_puts

/-- The request that gives the cursor up comes right after paging. -/
theorem split_delete {q : Http.Request} {before after : List Event}
    (h : (x.run supply).events = before ++ .request q :: after) (hdelete : q.method = .delete) :
    before = (x.paging supply).events ∧ q ∈ x.clearRequests supply ∧
      after = (x.closingAttempts supply).map .put := by
  rw [x.run_events] at h
  rcases split_append h with ⟨mid, hpaging, -⟩ | ⟨mid, rfl, hrest⟩
  · have hmem : q ∈ requests (x.paging supply).events := by
      rw [hpaging, requests_append, requests_request]
      exact List.mem_append_right _ List.mem_cons_self
    have hpost := paging_method hmem
    rw [hdelete] at hpost
    cases hpost
  · obtain ⟨rfl, hq, hafter⟩ := split_clearing hrest
    exact ⟨List.append_nil _, hq, hafter⟩

theorem posts_tail :
    posts ((x.clearRequests supply).map .request ++ (x.closingAttempts supply).map .put) = [] := by
  have hclear : (x.clearRequests supply).filter (·.method = .post) = [] := by
    rw [List.filter_eq_nil_iff]
    intro q hq
    obtain ⟨token, -, rfl⟩ := mem_clearRequests hq
    simp [Plan.clearRequest, Http.delete]
  simp [posts, hclear]

/-- The POST requests of a run are the requests of its paging. -/
theorem posts_run : posts (x.run supply).events = requests (x.paging supply).events := by
  rw [x.run_events, posts_append, posts_tail, List.append_nil, posts, List.filter_eq_self]
  intro q hq
  simp [paging_method hq]

theorem deletes_run : deletes (x.run supply).events = x.clearRequests supply := by
  have hpaging : deletes (x.paging supply).events = [] := by
    unfold deletes
    rw [List.filter_eq_nil_iff]
    intro q hq
    simp [paging_method hq]
  have hclear : (x.clearRequests supply).filter (·.method = .delete) = x.clearRequests supply := by
    rw [List.filter_eq_self]
    intro q hq
    obtain ⟨token, -, rfl⟩ := mem_clearRequests hq
    simp [Plan.clearRequest, Http.delete]
  rw [x.run_events, deletes_append, hpaging, deletes_append]
  simp [deletes, hclear]

/-- The queue gets the batches that are counted, and no others. -/
theorem publishedBatches_run :
    publishedBatches (x.run supply).events = (x.paging supply).batches := by
  have hpaging : publishedBatches (x.paging supply).events = (x.paging supply).batches := by
    unfold publishedBatches
    rw [(x.paging_course supply).published_eq, List.filterMap_map]
    exact List.filterMap_some
  have hclosing : (acceptedItems (x.closingAttempts supply)).filterMap Item.batch? = [] := by
    rw [List.filterMap_eq_nil_iff]
    intro i hi
    rw [closing_accepted hi]
    rfl
  rw [x.run_events, publishedBatches_append, hpaging]
  simp [publishedBatches, hclosing]

/-- The number of the request that gives the cursor up, if one does. -/
def clearNumber (x : Exporter) (supply : Supply) : Nat := (x.paging supply).batches.length + 1

theorem requests_paging_length :
    (requests (x.paging supply).events).length = x.clearNumber supply :=
  (x.paging_course supply).requests_length

theorem clearing_eq {token : Text} (h : (x.paging supply).token = some token) :
    x.clearing supply = clear x.plan token (x.paging supply).stage.cancelled
      (supply.answers.drop (x.clearNumber supply)) := by
  have hanswers := (x.paging_course supply).answers_eq
  rw [Nat.zero_add] at hanswers
  unfold clearing
  rw [h, hanswers]
  rfl

theorem clearing_none (h : (x.paging supply).token = none) :
    x.clearing supply =
      ⟨none, [], (x.paging supply).stage.cancelled, (x.paging supply).answers⟩ := by
  unfold clearing
  rw [h]

/-- A run is broken off exactly if it gives a cursor up and what that meets is not regular. -/
theorem clearing_fault_iff :
    (x.clearing supply).fault = none ↔
      ((x.paging supply).token.isSome = true →
        (outcomeAt supply.answers (x.clearNumber supply)).Regular) := by
  cases htoken : (x.paging supply).token with
  | none => simp [clearing_none htoken]
  | some token =>
      rw [clearing_eq htoken]
      simpa using (clear_drop x.plan token _ supply.answers (x.clearNumber supply)).1

/-- A run that is not broken off offers the mark until it is accepted or the run is cancelled. -/
theorem closing_ends (h : (x.clearing supply).fault = none) :
    acceptedItems (x.closingAttempts supply) = [.endOfStream] ∨
      acceptedItems (x.closingAttempts supply) = [] ∧ x.cancelledAfter supply = true := by
  unfold closingAttempts cancelledAfter
  rw [h]
  simp only [Option.isNone_none, if_true]
  unfold closing
  rw [acceptedItems_publish]
  rcases publish_ends Item.endOfStream x.plan.enqueueTimeout (x.paging supply).stage.puts
    (some (x.clearing supply).cancelled) with ⟨haccepted, -⟩ | ⟨hrefused, hcancelled, -⟩
  · exact Or.inl (by rw [if_pos haccepted])
  · exact Or.inr ⟨by simp [hrefused], by simp [hcancelled]⟩

/-- A run that is broken off offers no mark. -/
theorem closing_broken (h : (x.clearing supply).fault ≠ none) : x.closingAttempts supply = [] := by
  unfold closingAttempts
  cases hfault : (x.clearing supply).fault with
  | none => exact absurd hfault h
  | some fault => rfl

/-- Paging depends on no answers but the ones that it uses. -/
theorem paging_congr {answers : List Answer}
    (h : ∀ m, m < x.clearNumber supply → AnsweredAlike supply.answers answers m) :
    x.paging { supply with answers := answers } =
      { x.paging supply with answers := answers.drop (x.clearNumber supply) } := by
  have halike : ∀ m, 0 ≤ m → m ≤ 0 + (x.paging supply).batches.length →
      AnsweredAlike supply.answers answers m := by
    intro m _ hm
    rw [Nat.zero_add] at hm
    exact h m (Nat.lt_succ_of_le hm)
  have hcourse := ((x.paging_course supply).congr halike).eq_send
  rw [Nat.zero_add] at hcourse
  unfold clearNumber
  rw [hcourse]
  rfl

end Exporter

end Export

end SearchBridge
