import SearchBridge.Search.Reply
/-!
What replies say about themselves: how long the engine took and how many documents match.

The ids of a search reply come from its hits alone and the counts of a facet reply from its buckets
alone, so that nothing a reply reports besides, of whatever kind it is, changes a result or turns it
into a failure. A total on its own and a total in an object are read alike.
-/

namespace SearchBridge

namespace Ordered

variable {κ α : Type} [DecidableEq κ]

theorem find?_erase_self (m : Ordered κ α) (name : κ) : (m.erase name).find? name = none := by
  induction m with
  | nil => rfl
  | cons b rest ih =>
      obtain ⟨n, v⟩ := b
      rw [erase] at ih
      by_cases h : n = name
      · rw [erase, List.filter_cons_of_neg (by simpa using h), ih]
      · rw [erase, List.filter_cons_of_pos (by simpa using h), find?, if_neg h, ih]

theorem find?_erase_of_ne {m : Ordered κ α} {name other : κ} (h : other ≠ name) :
    (m.erase name).find? other = m.find? other := by
  induction m with
  | nil => rfl
  | cons b rest ih =>
      obtain ⟨n, v⟩ := b
      rw [erase] at ih
      by_cases hn : n = name
      · subst hn
        rw [erase, List.filter_cons_of_neg (by simp), ih, find?, if_neg (Ne.symm h)]
      · rw [erase, List.filter_cons_of_pos (by simpa using hn), find?, find?, ih]

end Ordered

namespace Json

/-- A value with a member set to another value, or without it. Only objects have members. -/
def withField (v : Json) (name : Text) (value : Option Json) : Json :=
  match v with
  | .object members => .object (value.elim (Ordered.erase members name) (Ordered.put members name))
  | v => v

variable {v : Json} {name other : Text}

theorem field?_withField_of_ne (value : Option Json) (h : other ≠ name) :
    (v.withField name value).field? other = v.field? other := by
  cases v with
  | object members =>
      cases value with
      | none => exact Ordered.find?_erase_of_ne h
      | some w => exact Ordered.find?_alter_of_ne _ h
  | _ => rfl

theorem field?_withField_self (members : Ordered Text Json) (name : Text) (value : Option Json) :
    ((Json.object members).withField name value).field? name = value := by
  cases value with
  | none => exact Ordered.find?_erase_self members name
  | some w => exact Ordered.find?_alter_self members name _

/-- The text of a scalar: of a text itself, of a truth value and of a number. -/
inductive StringForm : Json → Text → Prop where
  | string (s : Text) : StringForm (.string s) s
  | true : StringForm (.bool true) "true"
  | false : StringForm (.bool false) "false"
  | number (n : Number) : StringForm (.number n) n.text

theorem scalarText?_eq_some_iff {s : Text} : v.scalarText? = some s ↔ StringForm v s := by
  constructor
  · intro h
    cases v with
    | string t =>
        cases h
        exact .string s
    | bool b =>
        cases h
        cases b with
        | true => exact .true
        | false => exact .false
    | number n =>
        cases h
        exact .number n
    | null => cases h
    | array items => cases h
    | object members => cases h
  · rintro (_ | _ | _ | _) <;> rfl

end Json

namespace SearchReply

/-- A hit has an id that is not blank in the member of a name. -/
def NamedBy (field : Text) (hit : Json) (id : Text) : Prop :=
  (∃ v, hit.field? field = some v ∧ v.StringForm id) ∧ Text.isBlank id = false

/-- The ids of hits, in order: one for each hit that has one. -/
inductive Names (field : Text) : List Json → List Text → Prop where
  | nil : Names field [] []
  | named {hit : Json} {id : Text} {hits : List Json} {ids : List Text}
      (h : NamedBy field hit id) (hrest : Names field hits ids) :
      Names field (hit :: hits) (id :: ids)
  | skipped {hit : Json} {hits : List Json} {ids : List Text}
      (h : ∀ id, ¬NamedBy field hit id) (hrest : Names field hits ids) :
      Names field (hit :: hits) ids

/-- A reply with another duration and another total, or without them. -/
def reporting (root : Json) (took total : Option Json) : Json :=
  (root.withField "hits" ((root.field? "hits").map (·.withField "total" total))).withField
    "took" took

variable {root : Json} {field : Text}

theorem textField_eq_iff {hit : Json} {id : Text} (hid : Text.isBlank id = false) :
    hit.textField field = id ↔ NamedBy field hit id := by
  have hfull : id ≠ [] := by
    rintro rfl
    cases hid
  rw [NamedBy, and_iff_left hid, Json.textField]
  cases hfield : hit.field? field with
  | none => simp [hfull.symm]
  | some v =>
      cases hscalar : v.scalarText? with
      | none =>
          simp [hscalar, hfull.symm, ← Json.scalarText?_eq_some_iff]
      | some s =>
          simp [hscalar, ← Json.scalarText?_eq_some_iff]

theorem names_idsOf (field : Text) (hits : List Json) : Names field hits (idsOf field hits) := by
  induction hits with
  | nil => exact .nil
  | cons hit hits ih =>
      rw [idsOf, List.map_cons]
      cases hblank : Text.isBlank (hit.textField field) with
      | false =>
          rw [List.filter_cons_of_pos (by simp [hblank])]
          exact .named ((textField_eq_iff hblank).mp rfl) ih
      | true =>
          rw [List.filter_cons_of_neg (by simp [hblank])]
          refine .skipped (fun id hid => ?_) ih
          rw [(textField_eq_iff hid.2).mpr hid, hid.2] at hblank
          cases hblank

/-! ### What a reading depends on -/

def hitsOf (root : Json) : Except ReplyFault (List Json) := do
  let hits ← root.requireObject "hits"
  (((Json.object hits).field? "hits").bind Json.items?).elim (.error .noHits) .ok

/-- The total that a reply reports, if it reports one. -/
def reportedTotal (root : Json) : Option Int := ((root.field? "hits").map totalOf).getD none

theorem ofJson_eq (root : Json) (field : Text) :
    ofJson root field = (hitsOf root).map fun hits =>
      ⟨reportedTotal root, root.wholeField? "took", idsOf field hits⟩ := by
  rw [ofJson, hitsOf, Json.requireObject, reportedTotal]
  cases root.field? "hits" with
  | none => rfl
  | some v =>
      cases v with
      | object hits =>
          simp only [Option.bind_some, Json.members?, Option.elim_some, bind, Except.bind,
            Json.field?_object]
          cases Ordered.find? hits "hits" with
          | none => rfl
          | some w => cases w <;> rfl
      | _ => rfl

theorem field?_reporting_hits (root : Json) (took total : Option Json) :
    (reporting root took total).field? "hits" =
      (root.field? "hits").map (·.withField "total" total) := by
  rw [reporting, Json.field?_withField_of_ne _ (by decide)]
  cases root with
  | object members => exact Json.field?_withField_self members "hits" _
  | _ => rfl

theorem field?_reporting_of_ne {name : Text} (hhits : name ≠ "hits") (htook : name ≠ "took")
    (root : Json) (took total : Option Json) :
    (reporting root took total).field? name = root.field? name := by
  rw [reporting, Json.field?_withField_of_ne _ htook, Json.field?_withField_of_ne _ hhits]

theorem hitsOf_reporting (root : Json) (took total : Option Json) :
    hitsOf (reporting root took total) = hitsOf root := by
  rw [hitsOf, hitsOf, Json.requireObject, Json.requireObject, field?_reporting_hits]
  cases root.field? "hits" with
  | none => rfl
  | some v =>
      cases v with
      | object hits =>
          have hlist : ((Json.object hits).withField "total" total).field? "hits" =
              (Json.object hits).field? "hits" := Json.field?_withField_of_ne total (by decide)
          change ((((Json.object hits).withField "total" total).field? "hits").bind
            Json.items?).elim _ _ = _
          rw [hlist]
          rfl
      | _ => rfl

/-- A total is read alike on its own and as the value of an object. -/
theorem totalOf_withField {n : Json} {members : Ordered Text Json} (hn : n.members? = none)
    (hvalue : members.find? "value" = some n) (hits : Json) :
    totalOf (hits.withField "total" (some (.object members))) =
      totalOf (hits.withField "total" (some n)) := by
  cases hits with
  | object found =>
      rw [totalOf, totalOf, Json.wholeField?, Json.field?_withField_self,
        Json.field?_withField_self]
      change ((Json.object members).field? "value").bind Json.whole? = _
      rw [Json.field?_object, hvalue]
      cases n with
      | object _ => cases hn
      | _ => exact (congrArg (Option.bind · Json.whole?)
          (Json.field?_withField_self found "total" _)).symm
  | _ => rfl

theorem reportedTotal_reporting {n : Json} {members : Ordered Text Json} (hn : n.members? = none)
    (hvalue : members.find? "value" = some n) (root : Json) (took : Option Json) :
    reportedTotal (reporting root took (some (.object members))) =
      reportedTotal (reporting root took (some n)) := by
  rw [reportedTotal, reportedTotal, field?_reporting_hits, field?_reporting_hits]
  cases root.field? "hits" with
  | none => rfl
  | some hits => exact totalOf_withField hn hvalue hits

end SearchReply

namespace FacetReply

open SearchReply

def bucketsOf (root : Json) (field : Text) : Except ReplyFault (List Json) := do
  let counted ← root.requireObject "aggregations"
  let found ← (((Json.object counted).field? field).bind Json.members?).elim
    (.error (.noAggregation field)) .ok
  (((Json.object found).field? "buckets").bind Json.items?).elim (.error (.noBuckets field)) .ok

theorem ofJson_eq (root : Json) (field : Text) :
    ofJson root field = (bucketsOf root field).map fun buckets =>
      ⟨reportedTotal root, countsOf buckets⟩ := by
  rw [ofJson, bucketsOf, Json.requireObject, reportedTotal]
  cases root.field? "aggregations" with
  | none => rfl
  | some v =>
      cases v with
      | object counted =>
          simp only [Option.bind_some, Json.members?, Option.elim_some, bind, Except.bind,
            Json.field?_object]
          cases Ordered.find? counted field with
          | none => rfl
          | some w =>
              cases w with
              | object found =>
                  simp only [Option.bind_some, Json.members?, Option.elim_some]
                  cases Ordered.find? found "buckets" with
                  | none => rfl
                  | some u => cases u <;> rfl
              | _ => rfl
      | _ => rfl

theorem bucketsOf_congr {root root' : Json}
    (h : root.field? "aggregations" = root'.field? "aggregations") (field : Text) :
    bucketsOf root field = bucketsOf root' field := by
  rw [bucketsOf, bucketsOf, Json.requireObject, Json.requireObject, h]

end FacetReply

namespace SearchReply

theorem hitsOf_of_hits {root hits : Json} {items : List Json} (h : root.field? "hits" = some hits)
    (hitems : hits.field? "hits" = some (.array items)) : hitsOf root = .ok items := by
  cases hits with
  | object found =>
      rw [hitsOf, Json.requireObject, h]
      change (((Json.object found).field? "hits").bind Json.items?).elim _ _ = _
      rw [hitems]
      rfl
  | _ => cases hitems

/-- The duration and the total that a search reply reports change neither its ids nor the way it
fails, and neither do the hits of a facet reply. A total is read alike on its own and as the value
of an object. The ids of a search reply are those of its hits, one for each hit that has one. -/
theorem informational_values_change_nothing :
    (∀ root took total field, (ofJson (reporting root took total) field).map (·.ids) =
      (ofJson root field).map (·.ids)) ∧
    (∀ (root : Json) hits field,
      (FacetReply.ofJson (root.withField "hits" hits) field).map (·.counts) =
        (FacetReply.ofJson root field).map (·.counts)) ∧
    (∀ (n : Json) (members : Ordered Text Json), n.members? = none →
      members.find? "value" = some n → ∀ root took field,
      (ofJson (reporting root took (some (.object members))) field).map (·.totalHits) =
          (ofJson (reporting root took (some n)) field).map (·.totalHits) ∧
        (FacetReply.ofJson (reporting root took (some (.object members))) field).map (·.total) =
          (FacetReply.ofJson (reporting root took (some n)) field).map (·.total)) ∧
    ∀ (root hits : Json) items field, root.field? "hits" = some hits →
      hits.field? "hits" = some (.array items) →
      ∃ reply, ofJson root field = .ok reply ∧ Names field items reply.ids := by
  refine ⟨?_, ?_, ?_, ?_⟩
  · intro root took total field
    rw [ofJson_eq, ofJson_eq, hitsOf_reporting]
    cases hitsOf root <;> rfl
  · intro root hits field
    have hcounted : (root.withField "hits" hits).field? "aggregations" =
        root.field? "aggregations" := Json.field?_withField_of_ne _ (by decide)
    rw [FacetReply.ofJson_eq, FacetReply.ofJson_eq, FacetReply.bucketsOf_congr hcounted]
    cases FacetReply.bucketsOf root field <;> rfl
  · intro n members hn hvalue root took field
    have hcounted : ∀ total, (reporting root took total).field? "aggregations" =
        root.field? "aggregations" :=
      fun total => field?_reporting_of_ne (by decide) (by decide) root took total
    rw [ofJson_eq, ofJson_eq, FacetReply.ofJson_eq, FacetReply.ofJson_eq, hitsOf_reporting,
      hitsOf_reporting, FacetReply.bucketsOf_congr (hcounted _),
      FacetReply.bucketsOf_congr (hcounted _), reportedTotal_reporting hn hvalue]
    constructor
    · cases hitsOf root <;> rfl
    · cases FacetReply.bucketsOf root field <;> rfl
  · intro root hits items field hroot hitems
    rw [ofJson_eq, hitsOf_of_hits hroot hitems]
    exact ⟨_, rfl, names_idsOf field items⟩

/-- A reply whose hits have ids of several kinds, one of them twice and one of them blank. -/
def mixedHits : Json :=
  .object [("took", .int 5), ("hits", .object [("total", .int 3), ("hits", .array
    [.object [("_id", .string "a")], .object [("_id", .bool true)], .object [("_id", .string " ")],
      .int 7, .object [("_id", .array [])], .object [("_id", .string "a")]])])]

/-- A total in an object. -/
def countedTotal : Ordered Text Json := [("relation", .string "eq"), ("value", .string "12")]

theorem mixedHits_ids :
    (ofJson mixedHits idField).map (·.ids) = .ok ["a", "true", "a"] ∧
      (ofJson (reporting mixedHits (some (.number (.real .nan))) none) idField).map (·.ids) =
        .ok ["a", "true", "a"] ∧
      (Json.string "12").members? = none ∧ countedTotal.find? "value" = some (.string "12") ∧
      (ofJson (reporting mixedHits none (some (.object countedTotal))) idField).map (·.totalHits) =
        (ofJson (reporting mixedHits none (some (.string "12"))) idField).map (·.totalHits) ∧
      ∃ reply, ofJson mixedHits idField = .ok reply ∧ Names idField
        [.object [("_id", .string "a")], .object [("_id", .bool true)],
          .object [("_id", .string " ")], .int 7, .object [("_id", .array [])],
          .object [("_id", .string "a")]] reply.ids := by
  obtain ⟨hids, -, htotals, hnames⟩ := informational_values_change_nothing
  have hplain : (ofJson mixedHits idField).map (·.ids) = .ok ["a", "true", "a"] := rfl
  exact ⟨hplain, (hids _ _ _ _).trans hplain, rfl, rfl, (htotals _ _ rfl rfl _ _ _).1,
    hnames _ _ _ _ rfl rfl⟩

end SearchReply

end SearchBridge
