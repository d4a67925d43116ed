import SearchBridge.Proofs.Indexing
import SearchBridge.Proofs.Taxonomy
/-!
Bulk requests, sent as a whole or not at all.

If every document can be indexed under some value, one request is sent, whose body has two lines for
each document. If there is one that cannot, the first of them is what the operation fails with, and
nothing is sent, whatever stands before it.
-/

namespace SearchBridge

namespace StoredDocument

/-- The body of a bulk request for documents that are indexed under values: ASCII, with two lines
for each document and a line feed after every line. -/
structure Frames (ds : List StoredDocument) (ids : List Json) (body : String) : Prop where
  ascii : ∀ c ∈ body.toList, c.toNat < 0x80
  feeds : body.toList.count '\n' = 2 * ds.length
  closed : ds ≠ [] → body.toList.getLast? = some '\n'
  lines : Json.decodeLines body.toList = some (List.zipWith linesUnder ds ids).flatten

variable {ds : List StoredDocument} {ids : List Json}

theorem legible_lines (h : ∀ d ∈ ds, d.Textual Text.Settled)
    (hids : List.Forall₂ IndexedUnder ds ids) :
    ∀ v ∈ (List.zipWith linesUnder ds ids).flatten, v.Legible := by
  induction hids with
  | nil => simp
  | cons hid _ ih =>
      rw [List.forall_mem_cons] at h
      rw [List.zipWith_cons_cons, List.flatten_cons, List.forall_mem_append, linesUnder]
      refine ⟨?_, ih h.2⟩
      simpa using ⟨legible_action (h.1.legible_id hid), h.1.legible_source⟩

theorem length_lines (hlength : ds.length = ids.length) :
    (List.zipWith linesUnder ds ids).flatten.length = 2 * ds.length := by
  induction ds generalizing ids with
  | nil => rfl
  | cons d ds ih =>
      cases ids with
      | nil => cases hlength
      | cons id ids =>
          rw [List.zipWith_cons_cons, List.flatten_cons, List.length_append,
            ih (Nat.succ.inj hlength)]
          simp only [linesUnder, List.length_cons, List.length_nil]
          omega

theorem frames_bodyOf (h : ∀ d ∈ ds, d.Textual Text.Settled)
    (hids : List.Forall₂ IndexedUnder ds ids) :
    Frames ds ids (bodyOf (List.zipWith linesUnder ds ids).flatten) := by
  have hlegible := legible_lines h hids
  have hlength := length_lines hids.length_eq
  rw [bodyOf]
  constructor
  case ascii => simpa using Json.isAscii_lines hlegible
  case feeds => rw [String.toList_ofList, Json.count_lines hlegible, hlength]
  case closed =>
    intro hfull
    rw [String.toList_ofList, Json.getLast?_lines]
    intro hnone
    rw [hnone, List.length_nil] at hlength
    exact hfull (List.length_eq_zero_iff.mp (by omega))
  case lines => rw [String.toList_ofList, Json.decodeLines_written hlegible]

end StoredDocument

/-! ### The operation -/

namespace Op

variable {ds : List StoredDocument} (c : Client) (s : Session)

/-- How the refusal of a reply to a bulk request is reported. -/
def refusal : BulkFault → Failure
  | .rejected cause => .bulk cause
  | .shape fault => .shape fault

theorem run_index_nil : (c.index []).run.run s = (.ok (), s) := rfl

theorem run_index_fault {fault : IdFault} (h : StoredDocument.bulkBody ds = .error fault) :
    (c.index ds).run.run s = (.error (.unidentified fault), s) := by
  cases ds with
  | nil => cases h
  | cons d ds =>
      change (Op.lift Failure.unidentified (StoredDocument.bulkBody (d :: ds)) >>= _).run.run s = _
      rw [run_bind, run_lift, h]
      rfl

theorem run_index_body {body : String} (hfull : ds ≠ [])
    (h : StoredDocument.bulkBody ds = .ok body) :
    (c.index ds).run.run s =
      ((Http.post (c.connection.url ++ "_bulk") body Http.linesType).fetch s.next >>=
          fun root => (BulkReply.check root).mapError refusal,
        s.after (Http.post (c.connection.url ++ "_bulk") body Http.linesType)) := by
  cases ds with
  | nil => exact absurd rfl hfull
  | cons d ds =>
      change (Op.lift Failure.unidentified (StoredDocument.bulkBody (d :: ds)) >>=
        fun body => Client.post (c.connection.url ++ "_bulk") body Http.linesType >>=
          fun root => Op.lift refusal (BulkReply.check root)).run.run s = _
      rw [run_bind, run_lift, h]
      change (Client.post (c.connection.url ++ "_bulk") body Http.linesType >>=
        fun root => Op.lift refusal (BulkReply.check root)).run.run s = _
      rw [run_bind, run_post]
      cases (Http.post (c.connection.url ++ "_bulk") body Http.linesType).fetch s.next <;> rfl

end Op

namespace StoredDocument

/-- Documents of texts that can all be indexed under some value make up one request. Its body has
two lines for each of them, the action with that value and the other fields. If one of them cannot,
the first such document is reported with its fields, and nothing is sent, nor is anything for no
documents. All of this is so for every client and every session, so documents that are given again
are sent again in the same words. -/
theorem bulk_request_all_or_nothing {ds : List StoredDocument}
    (h : ∀ d ∈ ds, d.Textual Text.Settled) :
    ((∀ d ∈ ds, d.Identified) →
      ∃ ids body, List.Forall₂ IndexedUnder ds ids ∧ bulkBody ds = .ok body ∧
        Frames ds ids body ∧
        (ds ≠ [] → ∀ (c : Client) (s : Session), ((c.index ds).run.run s).2 =
          s.after (Http.post (c.connection.url ++ "_bulk") body Http.linesType))) ∧
    ((∃ d ∈ ds, ¬d.Identified) →
      ∃ before d later, ds = before ++ d :: later ∧ (∀ b ∈ before, b.Identified) ∧
        ¬d.Identified ∧ bulkBody ds = .error ⟨d.source⟩ ∧
        (IdFault.mk d.source).message = "Document has no id: " ++ (Json.object d.source).shown ∧
        ∀ (c : Client) (s : Session),
          (c.index ds).run.run s = (.error (.unidentified ⟨d.source⟩), s)) ∧
    (ds = [] → ∀ (c : Client) (s : Session), (c.index ds).run.run s = (.ok (), s)) := by
  refine ⟨fun hall => ?_, fun hmissing => ?_, fun hempty c s => hempty ▸ Op.run_index_nil c s⟩
  · obtain ⟨ids, hunder, hbody⟩ := bulkBody_of_identified h hall
    refine ⟨ids, _, hunder, hbody, frames_bodyOf h hunder, fun hfull c s => ?_⟩
    rw [Op.run_index_body c s hfull hbody]
  · obtain ⟨before, first, later, hds, hbefore, hfirst, hbody⟩ :=
      bulkBody_of_unidentified h hmissing
    exact ⟨before, first, later, hds, hbefore, hfirst, hbody, rfl,
      fun c s => Op.run_index_fault c s hbody⟩

/-- A document with a value that has to be escaped, two values under one name and a field without
values. -/
def letter : StoredDocument :=
  ofStrings "n:1" [("title", ["a \"quoted\"\nline"]), ("tag", ["é", "😀"]), ("remark", [])]

/-- A document without an id of its own, and with two of them in its fields. -/
def twofold : StoredDocument := ofStrings "" [("_id", ["a", "b"]), ("title", ["x"])]

/-- A document whose only id is empty. -/
def nameless : StoredDocument := ofStrings "" [("_id", [""]), ("title", ["y"])]

theorem letter_all_or_nothing :
    (∀ d ∈ [letter, twofold, nameless], d.Textual Text.Settled) ∧
      (∃ ids body, List.Forall₂ IndexedUnder [letter, twofold] ids ∧
        bulkBody [letter, twofold] = .ok body ∧ Frames [letter, twofold] ids body) ∧
      ∃ before d later, [letter, nameless, twofold] = before ++ d :: later ∧ ¬d.Identified ∧
        bulkBody [letter, nameless, twofold] = .error ⟨d.source⟩ ∧
        ∀ (c : Client) (s : Session),
          (c.index [letter, nameless, twofold]).run.run s =
            (.error (.unidentified ⟨d.source⟩), s) := by
  have hletter : letter.Textual Text.Settled := textual_ofStrings (by decide)
  have htwofold : twofold.Textual Text.Settled := textual_ofStrings (by decide)
  have hnameless : nameless.Textual Text.Settled := textual_ofStrings (by decide)
  have hidentified : letter.Identified ∧ twofold.Identified := by
    refine ⟨Or.inl (by decide), Or.inr ⟨.array [.string "a", .string "b"], ?_⟩⟩
    decide
  have hmissing : ¬nameless.Identified := by
    rw [← hnameless.indexId?_eq_none_iff]
    decide
  refine ⟨by simp [hletter, htwofold, hnameless], ?_, ?_⟩
  · have htextual : ∀ d ∈ [letter, twofold], d.Textual Text.Settled := by simp [hletter, htwofold]
    obtain ⟨ids, body, hids, hbody, hframes, -⟩ :=
      (bulk_request_all_or_nothing htextual).1 (by simpa using hidentified)
    exact ⟨ids, body, hids, hbody, hframes⟩
  · have htextual : ∀ d ∈ [letter, nameless, twofold], d.Textual Text.Settled := by
      simp [hletter, htwofold, hnameless]
    obtain ⟨before, d, later, hds, -, hd, hbody, -, hrun⟩ :=
      (bulk_request_all_or_nothing htextual).2.1 ⟨nameless, by simp, hmissing⟩
    exact ⟨before, d, later, hds, hd, hbody, hrun⟩

end StoredDocument

end SearchBridge
