import SearchBridge.Proofs.Indexing
/-!
Documents that are indexed and then fetched.

The body of a bulk request is read line by line, and each action is answered with its id and with
the source object on the line after it. The documents in that reply are the ones that were indexed.
A field with one value and a field with several values look different on the way, and a blank value
would be dropped; both do no harm because of what adding texts makes sure of.
-/

namespace SearchBridge

namespace StoredDocument

/-- A document with an id to which texts have been added, none of them under the name of the id. -/
inductive Composed : StoredDocument → Prop where
  | fresh {id : Text} (hfull : id ≠ []) (hid : id.Settled) : Composed ⟨.string id, []⟩
  | add {d : StoredDocument} (h : Composed d) {name : Text} {value : Option Text}
      (hfree : name ≠ idField) (hname : name.Settled)
      (hvalue : ∀ s, value = some s → s.Settled) :
      Composed (d.add name value)

theorem Composed.addString {d : StoredDocument} (h : d.Composed) {name value : String}
    (hfree : Text.ofString name ≠ idField) : (d.add name (some value)).Composed := by
  refine h.add hfree (Text.settled_ofString name) fun s hs => ?_
  cases hs
  exact Text.settled_ofString value

/-- A name of a field that is not the one of the id. -/
def IsFieldName (name : Text) : Prop := name ≠ idField ∧ name.Settled

theorem Composed.grouped {d : StoredDocument} (h : d.Composed) :
    Grouped IsFieldName Text.Settled d.fields := by
  induction h with
  | fresh => exact .none
  | add _ hfree hname hvalue ih => exact ih.add ⟨hfree, hname⟩ hvalue

theorem Composed.id {d : StoredDocument} (h : d.Composed) :
    ∃ id : Text, d.id = .string id ∧ id ≠ [] ∧ id.Settled := by
  induction h with
  | fresh hfull hid => exact ⟨_, rfl, hfull, hid⟩
  | add _ _ _ _ ih => exact ih

theorem Composed.textual {d : StoredDocument} (h : d.Composed) : d.Textual Text.Settled := by
  obtain ⟨id, hid, -, hsettled⟩ := h.id
  exact .of_grouped ⟨id, hsettled, hid⟩ h.grouped fun _ hname => hname.2

/-! ### The lines of a document -/

variable {d : StoredDocument}

/-- Without a field that is named as the id, all fields are sent. -/
theorem source_eq_toMembers (h : ∀ f ∈ d.fields, f.1 ≠ idField) : d.source = d.toMembers := by
  rw [source, Ordered.erase, List.filter_eq_self]
  intro m hm
  obtain ⟨f, hf, rfl⟩ := List.mem_map.mp hm
  simpa using h f hf

theorem Composed.indexedUnder (h : d.Composed) : d.IndexedUnder d.id := by
  obtain ⟨id, hid, hfull, -⟩ := h.id
  rw [hid]
  exact .own hid hfull

theorem Composed.linesUnder (h : d.Composed) :
    d.linesUnder d.id = [action d.id, .object d.toMembers] := by
  rw [StoredDocument.linesUnder, source_eq_toMembers fun f hf => (h.grouped.names f hf).1]

/-- The values that documents are sent as, two for each. -/
def sentLines (ds : List StoredDocument) : List Json :=
  ds.flatMap fun d => [action d.id, .object d.toMembers]

theorem bulkBody_eq {ds : List StoredDocument} (h : ∀ d ∈ ds, d.Composed) :
    bulkBody ds = .ok (String.ofList ((sentLines ds).flatMap fun v => v.write ++ ['\n'])) := by
  have hids : List.Forall₂ (fun d id => d.indexId? = some id) ds (ds.map (·.id)) := by
    rw [List.forall₂_map_right_iff, List.forall₂_same]
    exact fun d hd => (h d hd).textual.indexId?_eq_some_iff.mpr (h d hd).indexedUnder
  have hlines : (List.zipWith StoredDocument.linesUnder ds (ds.map (·.id))).flatten =
      sentLines ds := by
    rw [List.zipWith_map_right, List.zipWith_self, sentLines, List.flatMap_def]
    exact congrArg List.flatten (List.map_congr_left fun d hd => (h d hd).linesUnder)
  rw [bulkBody_of_ids hids, hlines]
  rfl

theorem legible_sentLines {ds : List StoredDocument} (h : ∀ d ∈ ds, d.Composed) :
    ∀ v ∈ sentLines ds, v.Legible := by
  intro v hv
  obtain ⟨d, hd, hv⟩ := List.mem_flatMap.mp hv
  have htextual := (h d hd).textual
  rw [List.mem_cons, List.mem_singleton] at hv
  rcases hv with rfl | rfl
  · exact legible_action (htextual.legible_id (h d hd).indexedUnder)
  · exact htextual.legible_toMembers

/-! ### The reply -/

/-- One item for each action and the source object on the line after it. -/
def replyItems : List Json → Option (List Json)
  | [] => some []
  | action :: source :: rest => do
    let id ← (action.field? "index").bind (·.field? idField)
    let items ← replyItems rest
    pure (.object [(idField, id), ("_source", source)] :: items)
  | [_] => none

/-- The reply to a request for the documents in the body of a bulk request. -/
def multiGetReply (body : String) : Option Json := do
  let items ← replyItems (← Json.decodeLines body.toList)
  pure (.object [("docs", .array items)])

def replyItem (d : StoredDocument) : Json :=
  .object [(idField, d.id), ("_source", .object d.toMembers)]

theorem replyItems_sentLines (ds : List StoredDocument) :
    replyItems (sentLines ds) = some (ds.map replyItem) := by
  induction ds with
  | nil => rfl
  | cons d ds ih =>
      have hid : ((action d.id).field? "index").bind (·.field? idField) = some d.id := rfl
      rw [sentLines, List.flatMap_cons, List.cons_append, List.cons_append, List.nil_append,
        replyItems, hid, ← sentLines, ih]
      rfl

theorem Composed.document? {d : StoredDocument} (h : d.Composed) :
    Fetch.document? [] (replyItem d) = some d := by
  obtain ⟨id, hid, -, -⟩ := h.id
  change some (StoredDocument.mk (.string (((some d.id).bind Json.scalarText?).getD []))
    (Fetch.fieldsOf [] d.toMembers)) = some d
  rw [fieldsOf_toMembers h.grouped, hid]
  cases d
  cases hid
  rfl

theorem documents_replyItems {ds : List StoredDocument} (h : ∀ d ∈ ds, d.Composed) :
    Fetch.documents (.object [("docs", .array (ds.map replyItem))]) [] = .ok ds := by
  have hdocuments : (ds.map replyItem).filterMap (Fetch.document? []) = ds := by
    induction ds with
    | nil => rfl
    | cons d ds ih =>
        rw [List.forall_mem_cons] at h
        rw [List.map_cons, List.filterMap_cons_some h.1.document?, ih h.2]
  change Except.ok ((ds.map replyItem).filterMap (Fetch.document? [])) = _
  rw [hdocuments]

/-- Documents with ids that texts have been added to are indexed under them, and fetching what was
indexed brings the same documents, with the same fields and values in the same order. A text is
settled if no two surrogates in it stand side by side that would be one character; every string
is. -/
theorem documents_of_bulkBody {ds : List StoredDocument} (h : ∀ d ∈ ds, d.Composed) :
    ∃ body reply, bulkBody ds = .ok body ∧ multiGetReply body = some reply ∧
      Fetch.documents reply [] = .ok ds := by
  refine ⟨_, _, bulkBody_eq h, ?_, documents_replyItems h⟩
  have hlines := Json.decodeLines_written (legible_sentLines h)
  rw [multiGetReply, String.toList_ofList, hlines]
  change (replyItems (sentLines ds)).bind _ = _
  rw [replyItems_sentLines]
  rfl

/-- A document with a value that has to be escaped, two values under one name and a blank one. -/
def note : StoredDocument :=
  let titled := add ⟨.string "n:1", []⟩ "title" (some "a \"quoted\"\nline")
  let tagged := (titled.add "tag" (some "é")).add "tag" (some "😀")
  tagged.add "remark" (some " \t")

theorem note_comes_back : note.Composed ∧
    ∃ body reply, bulkBody [note] = .ok body ∧ multiGetReply body = some reply ∧
      Fetch.documents reply [] = .ok [note] := by
  have hnote : note.Composed := by
    refine .addString (.addString (.addString (.addString (.fresh ?_ ?_) ?_) ?_) ?_) ?_
    · decide
    · exact Text.settled_ofString "n:1"
    all_goals decide
  exact ⟨hnote, documents_of_bulkBody (List.forall_mem_singleton.mpr hnote)⟩

/-- A document whose only value is the two halves of a character, a surrogate each. -/
def halves : StoredDocument := add ⟨.string "1", []⟩ "t" (some [.surrogate 61, .surrogate 1536])

/-- The document that has the character in their place. -/
def joined : StoredDocument := add ⟨.string "1", []⟩ "t" (some "😀")

/-- Halves that stand side by side are sent as their character is, so they come back as one. -/
theorem halves_come_back_joined :
    ∃ body reply, bulkBody [halves] = .ok body ∧ multiGetReply body = some reply ∧
      Fetch.documents reply [] = .ok [joined] ∧ Fetch.documents reply [] ≠ .ok [halves] := by
  have hcomes : ((bulkBody [halves]).toOption.bind multiGetReply).map
      (fun reply => (Fetch.documents reply []).toOption) = some (some [joined]) := by
    decide +kernel
  obtain ⟨reply, hreply, hfetched⟩ := Option.map_eq_some_iff.mp hcomes
  cases hbody : bulkBody [halves] with
  | error d =>
      rw [hbody] at hreply
      cases hreply
  | ok body =>
      rw [hbody] at hreply
      cases hdocuments : Fetch.documents reply [] with
      | error fault =>
          rw [hdocuments] at hfetched
          cases hfetched
      | ok ds =>
          rw [hdocuments] at hfetched
          obtain rfl : ds = [joined] := Option.some.inj hfetched
          refine ⟨body, reply, rfl, hreply, hdocuments, fun hsame => ?_⟩
          rw [hdocuments] at hsame
          exact absurd (Except.ok.inj hsame) (by decide)

end StoredDocument

end SearchBridge
