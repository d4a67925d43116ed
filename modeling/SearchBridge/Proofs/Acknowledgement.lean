import SearchBridge.Proofs.Bodies
import SearchBridge.Proofs.Framing
/-!
What indexing documents makes of the reply to a bulk request.

A reply is taken as an acknowledgement unless it is an object whose `errors` counts as set; what is
no object reports no errors. One that reports errors is never taken as a success, and the first
error that an action names is passed on.
-/

namespace SearchBridge

namespace BulkReply

/-- The value of a reply is an object whose `errors` counts as set. -/
def ReportsErrors (root : Json) : Prop :=
  ∃ members v, root = .object members ∧ Ordered.find? members "errors" = some v ∧ v.isSet = true

/-- The items of a reply: those of its list, or none if there is no list and nothing to go
through. -/
inductive Lists (root : Json) : List Json → Prop where
  | list {items : List Json} (h : root.field? "items" = some (.array items)) : Lists root items
  | absent (h : root.field? "items" = none) : Lists root []
  | empty {v : Json} (h : root.field? "items" = some v) (hv : v = .string [] ∨ v = .object []) :
      Lists root []

/-- The error of the first action that names one, in the order of the reply. -/
def firstNamed (items : List (Ordered Text Json)) : Option Json :=
  items.flatten.findSome? fun action => action.2.field? "error"

variable {root : Json}

theorem reportsErrors_iff :
    ReportsErrors root ↔ ((root.field? "errors").map Json.isSet).getD false = true := by
  constructor
  · rintro ⟨members, v, rfl, hfind, hset⟩
    rw [Json.field?_object, hfind]
    exact hset
  · intro h
    cases root with
    | object members =>
        rw [Json.field?_object] at h
        cases hfind : Ordered.find? members "errors" with
        | none =>
            rw [hfind] at h
            cases h
        | some v =>
            rw [hfind] at h
            exact ⟨members, v, rfl, hfind, h⟩
    | _ => cases h

theorem check_eq_ok_iff : check root = .ok () ↔ ¬ReportsErrors root := by
  rw [reportsErrors_iff, check]
  split
  · next hset =>
    refine iff_of_false (fun h => ?_) (not_not_intro hset)
    split at h
    · cases h
    · split at h <;> cases h
  · next hunset => exact iff_of_true rfl hunset

theorem Lists.sequence {items : List Json} (h : Lists root items) :
    ((root.field? "items").getD (.array [])).sequence = .ok items := by
  cases h with
  | list h =>
      rw [h]
      rfl
  | absent h =>
      rw [h]
      rfl
  | empty h hv =>
      rw [h]
      rcases hv with rfl | rfl <;> rfl

theorem firstNamed_cons (actions : Ordered Text Json) (items : List (Ordered Text Json)) :
    firstNamed (actions :: items) = (actionError? actions).or (firstNamed items) := by
  rw [firstNamed, List.flatten_cons, List.findSome?_append]
  rfl

/-- Objects are gone through up to the first error that one of them names. -/
theorem firstError_objects (items : List (Ordered Text Json)) (rest : List Json) :
    firstError (items.map .object ++ rest) =
      (firstNamed items).elim (firstError rest) fun error => .ok (some error) := by
  induction items with
  | nil => rfl
  | cons actions items ih =>
      rw [List.map_cons, List.cons_append, firstError, ih, firstNamed_cons]
      cases actionError? actions <;> rfl

/-- A reply that reports errors is rejected with the first error that is named, if all items before
it are objects, or else with none if all items are. -/
theorem check_of_lists {items : List (Ordered Text Json)} {rest : List Json}
    (herrors : ReportsErrors root) (hlists : Lists root (items.map .object ++ rest))
    (hreached : rest = [] ∨ firstNamed items ≠ none) :
    check root = .error (.rejected (firstNamed items)) := by
  have hfirst : firstError (items.map .object ++ rest) = .ok (firstNamed items) := by
    rw [firstError_objects]
    cases hnamed : firstNamed items with
    | some error => rfl
    | none =>
        -- All items are gone through, so none of them may be anything else than an object.
        rw [hnamed] at hreached
        obtain rfl : rest = [] := by simpa using hreached
        rfl
  rw [check, if_pos (reportsErrors_iff.mp herrors), hlists.sequence]
  dsimp only
  rw [hfirst]

end BulkReply

namespace Client

open BulkReply Call

variable {ds : List StoredDocument} {s : Session} {root : Json}

/-- Documents with ids are sent in one request, and the result is what is made of the value that it
brings. -/
theorem index_of_brings (c : Client) (hfull : ds ≠ []) (hids : ∀ d ∈ ds, d.indexId? ≠ none)
    (h : s.next.Brings root) :
    ((c.index ds).run.run s).1 = (check root).mapError Op.refusal := by
  obtain ⟨ids, hids⟩ := StoredDocument.exists_ids hids
  rw [Op.run_index_body c s hfull (StoredDocument.bulkBody_of_ids hids),
    Http.Request.fetch_eq_ok_iff.mpr h]
  rfl

theorem brings_of_index (c : Client) (hfull : ds ≠ []) (hids : ∀ d ∈ ds, d.indexId? ≠ none)
    (hok : ((c.index ds).run.run s).1 = .ok ()) : ∃ root, s.next.Brings root := by
  obtain ⟨ids, hids⟩ := StoredDocument.exists_ids hids
  rw [Op.run_index_body c s hfull (StoredDocument.bulkBody_of_ids hids)] at hok
  cases hfetch : (Http.post (c.connection.url ++ "_bulk") _ Http.linesType).fetch s.next with
  | error failure =>
      rw [hfetch] at hok
      cases hok
  | ok root => exact ⟨root, Http.Request.fetch_eq_ok_iff.mp hfetch⟩

/-- Documents with ids are indexed successfully exactly if the request brings a value that reports
no errors; a value that is no object reports none. If it reports errors, the failure passes on the
first error that an action names, as long as every item before it is an object. -/
theorem index_acknowledged_iff (c : Client) (s : Session) (hfull : ds ≠ [])
    (hids : ∀ d ∈ ds, d.indexId? ≠ none) :
    (((c.index ds).run.run s).1 = .ok () ↔ ∃ root, s.next.Brings root ∧ ¬ReportsErrors root) ∧
    ∀ root items rest, s.next.Brings root → ReportsErrors root →
      Lists root (items.map .object ++ rest) → (rest = [] ∨ firstNamed items ≠ none) →
      ((c.index ds).run.run s).1 = .error (.bulk (firstNamed items)) ∧
        (Failure.bulk (firstNamed items)).message = "Bulk index failed: " ++
          (firstNamed items).elim (Text.ofString "unknown error") Json.shown := by
  refine ⟨⟨fun hok => ?_, ?_⟩, ?_⟩
  · obtain ⟨root, hbrings⟩ := brings_of_index c hfull hids hok
    refine ⟨root, hbrings, check_eq_ok_iff.mp ?_⟩
    rw [index_of_brings c hfull hids hbrings] at hok
    cases hcheck : check root with
    | error fault =>
        rw [hcheck] at hok
        cases hok
    | ok done => rfl
  · rintro ⟨root, hbrings, hnone⟩
    rw [index_of_brings c hfull hids hbrings, check_eq_ok_iff.mpr hnone]
    rfl
  · intro root items rest hbrings herrors hlists hreached
    rw [index_of_brings c hfull hids hbrings, check_of_lists herrors hlists hreached]
    refine ⟨rfl, ?_⟩
    cases firstNamed items <;> rfl

/-- The items of a reply up to the first that names an error; its second action names another. -/
def reportedItems : List (Ordered Text Json) :=
  [[("index", .object [("status", .number (.int 201))])],
    [("index", .object [("error", .string "mapping")]),
      ("delete", .object [("error", .string "late")])]]

/-- The value of a reply that reports errors. Its last item is no object. -/
def partialRoot : Json :=
  .object [("errors", .bool true),
    ("items", .array (reportedItems.map .object ++ [.number (.int 1)]))]

def partialReply : Http.Response := .recorded 200 (Utf8.encode partialRoot.text) none

theorem letter_identified : ∀ d ∈ [StoredDocument.letter], d.indexId? ≠ none := by
  rw [List.forall_mem_singleton]
  decide

theorem letter_not_acknowledged :
    (∀ d ∈ [StoredDocument.letter], d.indexId? ≠ none) ∧
      ((sampleClient.index [.letter]).run.run (meeting partialReply)).1 ≠ .ok () ∧
      ((sampleClient.index [.letter]).run.run (meeting partialReply)).1 =
        .error (.bulk (some (.string "mapping"))) := by
  have hfull : [StoredDocument.letter] ≠ [] := List.cons_ne_nil _ _
  have hfetch : ((Http.get "http://h/").fetch (meeting partialReply).next).toOption =
      some partialRoot := by decide +kernel
  have hbrings := Http.Request.brings_of_toOption hfetch
  have herrors : ReportsErrors partialRoot := ⟨_, .bool true, rfl, rfl, rfl⟩
  have hnamed : firstNamed reportedItems = some (.string "mapping") := by decide
  obtain ⟨hok, hfailed⟩ := index_acknowledged_iff sampleClient (meeting partialReply) hfull
    letter_identified
  refine ⟨letter_identified, fun hdone => ?_, ?_⟩
  · obtain ⟨root, hbrings', hnone⟩ := hok.mp hdone
    exact hnone (hbrings.unique hbrings' ▸ herrors)
  · have hreached : firstNamed reportedItems ≠ none := by simp [hnamed]
    rw [(hfailed _ _ _ hbrings herrors (.list rfl) (Or.inr hreached)).1, hnamed]

def listReply : Http.Response := .recorded 200 (Utf8.encode "[]") none

/-- An object that reports errors and holds arrays in one another. -/
def deepErrors (n : Nat) : Json := .object [("errors", .bool true), ("trace", .nest n)]

theorem legible_deepErrors (n : Nat) : (deepErrors n).Legible := by
  refine Json.legible_object [("errors", _), ("trace", _)] (by simp) ?_
  simpa using ⟨.bool true, Json.legible_nest n⟩

theorem not_fits_deepErrors {depth n : Nat} (h : depth ≤ n) : ¬(deepErrors n).Fits depth := by
  intro hfits
  exact Json.not_fits_nest h (hfits.member _ (List.mem_cons_of_mem _ List.mem_cons_self))

/-- A reply that is too deep for its reader is not rejected for the errors that it reports. -/
theorem index_too_deep {depth n : Nat} (h : depth ≤ n) :
    ∃ container, ((sampleClient.index [.letter]).run.run
        (meeting ⟨200, Utf8.encode (deepErrors n).text, none, none, depth⟩)).1 =
      .error (.exchange (.response (.nested container))) := by
  obtain ⟨ids, hids⟩ := StoredDocument.exists_ids letter_identified
  obtain ⟨container, hfetch⟩ := (Http.post _ _ Http.linesType).fetch_too_deep
    (r := ⟨200, Utf8.encode (deepErrors n).text, none, none, depth⟩) (legible_deepErrors n) rfl
    (not_fits_deepErrors h)
  refine ⟨container, ?_⟩
  rw [Op.run_index_body sampleClient _ (List.cons_ne_nil _ _) (StoredDocument.bulkBody_of_ids hids)]
  exact congrArg (· >>= _) hfetch

/-- A list in place of an object is taken as an acknowledgement, and an object that reports errors
is not rejected for them if its reader takes no more containers in one another than it has. -/
theorem bulk_failures_unreported :
    (∀ d ∈ [StoredDocument.letter], d.indexId? ≠ none) ∧
      ((∃ root, (meeting listReply).next.Brings root ∧ ∀ members, root ≠ .object members) ∧
        ((sampleClient.index [.letter]).run.run (meeting listReply)).1 = .ok ()) ∧
      ReportsErrors (deepErrors 100000) ∧
      (Unicode.decodeDetected? (Utf8.encode (deepErrors 100000).text)).bind Json.read? =
        some (deepErrors 100000) ∧
      ∀ depth ≤ 100000, ∃ container, ((sampleClient.index [.letter]).run.run
          (meeting ⟨200, Utf8.encode (deepErrors 100000).text, none, none, depth⟩)).1 =
        .error (.exchange (.response (.nested container))) := by
  have hfetch : ((Http.get "http://h/").fetch (meeting listReply).next).toOption =
      some (.array []) := by decide +kernel
  have hbrings := Http.Request.brings_of_toOption hfetch
  refine ⟨letter_identified, ⟨⟨_, hbrings, fun members h => by cases h⟩, ?_⟩, ?_,
    (legible_deepErrors 100000).read?_body, fun _ => index_too_deep⟩
  · exact index_of_brings sampleClient (List.cons_ne_nil _ _) letter_identified hbrings
  · exact ⟨_, .bool true, rfl, rfl, rfl⟩

end Client

end SearchBridge
