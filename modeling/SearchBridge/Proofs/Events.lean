import SearchBridge.Proofs.Publication
import SearchBridge.Export.Exporter
/-!
Events told apart: the requests among them, and the attempts to put an item on the queue.
-/

namespace SearchBridge

namespace Export

def requests (events : List Event) : List Http.Request :=
  events.filterMap fun
    | .request r => some r
    | .put _ => none

def attempts (events : List Event) : List (Attempt Item) :=
  events.filterMap fun
    | .put a => some a
    | .request _ => none

@[simp] theorem requests_nil : requests [] = [] := rfl

@[simp] theorem requests_request (r : Http.Request) (events : List Event) :
    requests (.request r :: events) = r :: requests events := rfl

@[simp] theorem requests_put (a : Attempt Item) (events : List Event) :
    requests (.put a :: events) = requests events := rfl

@[simp] theorem requests_append (e₁ e₂ : List Event) :
    requests (e₁ ++ e₂) = requests e₁ ++ requests e₂ :=
  List.filterMap_append

@[simp] theorem requests_puts (l : List (Attempt Item)) : requests (l.map .put) = [] := by
  induction l with
  | nil => rfl
  | cons a rest ih => simpa using ih

@[simp] theorem requests_map (l : List Http.Request) : requests (l.map .request) = l := by
  induction l with
  | nil => rfl
  | cons r rest ih => simpa using ih

@[simp] theorem attempts_nil : attempts [] = [] := rfl

@[simp] theorem attempts_request (r : Http.Request) (events : List Event) :
    attempts (.request r :: events) = attempts events := rfl

@[simp] theorem attempts_put (a : Attempt Item) (events : List Event) :
    attempts (.put a :: events) = a :: attempts events := rfl

@[simp] theorem attempts_append (e₁ e₂ : List Event) :
    attempts (e₁ ++ e₂) = attempts e₁ ++ attempts e₂ :=
  List.filterMap_append

@[simp] theorem attempts_puts (l : List (Attempt Item)) : attempts (l.map .put) = l := by
  induction l with
  | nil => rfl
  | cons a rest ih => simpa using ih

@[simp] theorem attempts_map (l : List Http.Request) : attempts (l.map .request) = [] := by
  induction l with
  | nil => rfl
  | cons r rest ih => simpa using ih

theorem published_eq (events : List Event) : published events = acceptedItems (attempts events) :=
  rfl

@[simp] theorem published_request (r : Http.Request) (events : List Event) :
    published (.request r :: events) = published events := rfl

@[simp] theorem published_append (e₁ e₂ : List Event) :
    published (e₁ ++ e₂) = published e₁ ++ published e₂ := by
  simp only [published_eq, attempts_append, acceptedItems_append]

@[simp] theorem published_puts (l : List (Attempt Item)) :
    published (l.map .put) = acceptedItems l := by
  simp only [published_eq, attempts_puts]

@[simp] theorem published_map (l : List Http.Request) : published (l.map .request) = [] := by
  simp only [published_eq, attempts_map]
  rfl

theorem published_concat (events : List Event) (r : Http.Request) :
    published (events ++ [.request r]) = published events := by
  rw [published_append, published_request, published_eq [], attempts_nil]
  exact List.append_nil _

def posts (events : List Event) : List Http.Request :=
  (requests events).filter (·.method = .post)

def deletes (events : List Event) : List Http.Request :=
  (requests events).filter (·.method = .delete)

@[simp] theorem posts_append (e₁ e₂ : List Event) : posts (e₁ ++ e₂) = posts e₁ ++ posts e₂ := by
  simp [posts]

@[simp] theorem deletes_append (e₁ e₂ : List Event) :
    deletes (e₁ ++ e₂) = deletes e₁ ++ deletes e₂ := by
  simp [deletes]

def Item.batch? : Item → Option IdSet
  | .batch ids => some ids
  | .endOfStream => none

/-- The batches among the items that events put on the queue, in order. -/
def publishedBatches (events : List Event) : List IdSet := (published events).filterMap Item.batch?

@[simp] theorem publishedBatches_append (e₁ e₂ : List Event) :
    publishedBatches (e₁ ++ e₂) = publishedBatches e₁ ++ publishedBatches e₂ := by
  simp [publishedBatches]

/-- Together batches hold as many ids as stand in a row if one batch follows the other. -/
theorem idCount_eq_length (batches : List IdSet) :
    idCount batches = (batches.flatMap (·.toList)).length := by
  induction batches with
  | nil => rfl
  | cons batch rest ih => rw [idCount, ih, List.flatMap_cons, List.length_append, IdSet.size]

theorem idCount_append (b₁ b₂ : List IdSet) : idCount (b₁ ++ b₂) = idCount b₁ + idCount b₂ := by
  simp only [idCount_eq_length, List.flatMap_append, List.length_append]

theorem split_append {e : Event} {e₁ e₂ before after : List Event}
    (h : e₁ ++ e₂ = before ++ e :: after) :
    (∃ mid, e₁ = before ++ e :: mid ∧ after = mid ++ e₂) ∨
      ∃ mid, before = e₁ ++ mid ∧ e₂ = mid ++ e :: after := by
  rcases List.append_eq_append_iff.mp h with ⟨mid, hbefore, hsecond⟩ | ⟨mid, hfirst, hafter⟩
  · exact Or.inr ⟨mid, hbefore, hsecond⟩
  · cases mid with
    | nil =>
        refine Or.inr ⟨[], ?_, hafter.symm⟩
        simpa using hfirst.symm
    | cons event rest =>
        obtain ⟨rfl, rfl⟩ := List.cons.inj hafter
        exact Or.inl ⟨rest, hfirst, rfl⟩

theorem split_first {e first : Event} {events before after : List Event}
    (h : first :: events = before ++ e :: after) (hne : before ≠ []) :
    ∃ mid, before = first :: mid ∧ events = mid ++ e :: after := by
  rcases List.cons_eq_append_iff.mp h with ⟨hnil, -⟩ | ⟨mid, hbefore, hevents⟩
  · exact absurd hnil hne
  · exact ⟨mid, hbefore, hevents⟩

theorem split_single {e first : Event} {before after : List Event}
    (h : [first] = before ++ e :: after) : before = [] := by
  cases before with
  | nil => rfl
  | cons event rest => simp at h

/-- No request is made while an item is offered. -/
theorem not_split_puts {l : List (Attempt Item)} {r : Http.Request} {before after : List Event} :
    l.map .put ≠ before ++ .request r :: after := by
  intro h
  have hmem : Event.request r ∈ l.map Event.put := by
    rw [h]
    exact List.mem_append_right before List.mem_cons_self
  obtain ⟨a, -, ha⟩ := List.mem_map.mp hmem
  cases ha

theorem split_puts {l : List (Attempt Item)} {r : Http.Request} {events before after : List Event}
    (h : l.map .put ++ events = before ++ .request r :: after) :
    ∃ mid, before = l.map .put ++ mid ∧ events = mid ++ .request r :: after := by
  rcases split_append h with ⟨mid, hputs, -⟩ | hrest
  · exact absurd hputs not_split_puts
  · exact hrest

end Export

end SearchBridge
