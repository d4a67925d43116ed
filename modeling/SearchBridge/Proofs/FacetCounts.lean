import Mathlib.Data.List.Forall2
import SearchBridge.Proofs.Bodies
import SearchBridge.Proofs.Informational
import SearchBridge.Proofs.QueryBodies
/-!
Counting by a field, from the body that is sent to the counts that are returned.

The body names its one aggregation for the field, and the buckets of the reply are looked up under
that name, whatever characters are in it. Buckets whose keys have the same text are one count: the
first of them gives it its place and the last its number.
-/

namespace SearchBridge

namespace FacetReply

/-- The text of the key of a bucket: that of a scalar, and empty if there is none. -/
inductive KeyForm (bucket : Json) : Text → Prop where
  | scalar {v : Json} {s : Text} (h : bucket.field? "key" = some v) (hform : v.StringForm s) :
      KeyForm bucket s
  | none (h : ∀ v s, bucket.field? "key" = some v → ¬v.StringForm s) : KeyForm bucket ""

theorem keyForm_iff {bucket : Json} {s : Text} : KeyForm bucket s ↔ bucket.textField "key" = s := by
  have hempty : Text.ofString "" = [] := rfl
  rw [Json.textField]
  constructor
  · rintro (⟨h, hform⟩ | h)
    · rw [h, Option.bind_some, Json.scalarText?_eq_some_iff.mpr hform]
      rfl
    · cases hkey : bucket.field? "key" with
      | none => rfl
      | some v =>
          have hnone : v.scalarText? = Option.none := by
            refine Option.eq_none_iff_forall_ne_some.mpr fun s hs => ?_
            exact h v s hkey (Json.scalarText?_eq_some_iff.mp hs)
          rw [Option.bind_some, hnone]
          rfl
  · rintro rfl
    cases hkey : bucket.field? "key" with
    | none => exact .none fun v s h => by rw [hkey] at h; cases h
    | some v =>
        cases hform : v.scalarText? with
        | none =>
            rw [Option.bind_some, hform]
            refine .none fun w s hw hs => ?_
            rw [hkey] at hw
            cases hw
            rw [Json.scalarText?_eq_some_iff.mpr hs] at hform
            cases hform
        | some s =>
            rw [Option.bind_some, hform]
            exact .scalar hkey (Json.scalarText?_eq_some_iff.mp hform)

/-- The counts of buckets: one for each text of a key, in the order in which these come first, with
the number of the last bucket that has it. -/
structure Tallies (buckets : List Json) (counts : Ordered Text (Option Int)) : Prop where
  keys : ∃ forms, List.Forall₂ KeyForm buckets forms ∧ counts.keys = forms.eraseDups
  last : ∀ before bucket after key, buckets = before ++ bucket :: after → KeyForm bucket key →
    (∀ later ∈ after, ¬KeyForm later key) →
    counts.find? key = some ((bucket.field? "doc_count").bind Json.whole?)

theorem tallies_countsOf (buckets : List Json) : Tallies buckets (countsOf buckets) := by
  constructor
  · refine ⟨buckets.map (·.textField "key"), ?_, ?_⟩
    · rw [List.forall₂_map_right_iff]
      exact List.forall₂_same.mpr fun bucket _ => keyForm_iff.mpr rfl
    · rw [countsOf, Ordered.keys_ofList, List.map_map]
      rfl
  · rintro before bucket after key rfl hkey hlast
    rw [keyForm_iff] at hkey
    rw [countsOf, List.map_append, List.map_cons, hkey]
    refine Ordered.find?_ofList_last _ fun b hb => ?_
    obtain ⟨later, hlater, rfl⟩ := List.mem_map.mp hb
    exact fun heq => hlast later hlater (keyForm_iff.mpr heq)

theorem bucketsOf_of_at {root : Json} {field : Text} {buckets : List Json}
    (h : root.at? ["aggregations", field, "buckets"] = some (.array buckets)) :
    bucketsOf root field = .ok buckets := by
  obtain ⟨counted, hcounted, h⟩ := Option.bind_eq_some_iff.mp h
  obtain ⟨found, hfound, h⟩ := Option.bind_eq_some_iff.mp h
  obtain ⟨list, hlist, h⟩ := Option.bind_eq_some_iff.mp h
  cases h
  cases counted with
  | object members =>
      cases found with
      | object inner =>
          simp only [bucketsOf, Json.requireObject, hcounted, hfound, hlist, Option.bind_some,
            Json.members?, Json.items?, Option.elim_some, bind, Except.bind]
      | _ => cases hlist
  | _ => cases hfound

end FacetReply

namespace QueryRequest

/-- What is read where the body of a facet request is written names the field alone. -/
theorem reread_facetBody {q : QueryRequest} {field : String} {body decoded : Json}
    (hfield : q.facetField = some field) (hfull : field ≠ "") (hbody : q.facetBody = .ok body)
    (h : body.reread = some decoded) : decoded.at? ["aggregations"] = some (q.countedBy field) := by
  rw [facetBody_eq hfield hfull] at hbody
  cases hbody
  obtain ⟨ms, rfl, -, hvalues⟩ := Json.reread_object
    (by cases q.isMatchAll <;> simp [Text.settled_ofString])
    (by cases q.isMatchAll <;> simp [Ordered.keys, Text.ofString_inj]) h
  obtain ⟨counted, hcounted, hfind⟩ := hvalues "aggregations" _ rfl
  rw [(q.stable_countedBy field).reread] at hcounted
  cases hcounted
  exact congrArg (·.bind some) hfind

end QueryRequest

namespace Client

open FacetReply

/-- Counting sends one body, and the name that stands in it for the aggregation, once it is decoded,
is the one of the field. If the reply has buckets under that name, their tallies are returned. -/
theorem facet_tallies_buckets (c : Client) {q : QueryRequest} {field : String}
    (hfield : q.facetField = some field) (hfull : field ≠ "") (s : Session) :
    ∃ body, ((c.facet q).run.run s).2.sent = s.sent ++ [c.ask body] ∧
      (q.Encodable → ∃ decoded, Json.read? body = some decoded) ∧
      ∀ decoded, Json.read? body = some decoded →
        ∃ asked, decoded.at? ["aggregations"] = some (.object asked) ∧
          Ordered.keys asked = [(field : Text)] ∧
          ∀ name ∈ Ordered.keys asked, ∀ root buckets, s.next.Brings root →
            root.at? ["aggregations", name, "buckets"] = some (.array buckets) →
            ∃ reply, ((c.facet q).run.run s).1 = .ok reply ∧ Tallies buckets reply.counts := by
  have hbody := q.facetBody_eq hfield hfull
  rw [c.facet_run hfield hbody s]
  refine ⟨_, rfl, fun hq => ?_, fun decoded hread => ?_⟩
  · exact ⟨_, (hq.facetBody hfield hfull hbody).read?_text⟩
  · rw [Json.read?_text] at hread
    have hasked := q.reread_facetBody hfield hfull hbody hread
    refine ⟨_, hasked, rfl, fun name hname root buckets hbrings hbuckets => ?_⟩
    cases List.mem_singleton.mp hname
    refine ⟨⟨SearchReply.reportedTotal root, countsOf buckets⟩, ?_, tallies_countsOf buckets⟩
    rw [Http.Request.fetch_eq_ok_iff.mpr hbrings]
    change (ofJson root field).mapError Failure.reply = _
    rw [ofJson_eq, bucketsOf_of_at hbuckets]
    rfl

/-- A request to count by a field whose name has a quote in it. -/
def countBySize : QueryRequest := ⟨"*:*", [], some "size\"", 10, none⟩

/-- Buckets of which two have a truth value and its text as keys, and one has no key. -/
def sizeBuckets : List Json :=
  [.object [("key", .bool true), ("doc_count", .int 1)],
    .object [("key", .int 7), ("doc_count", .string "2")],
    .object [("key", .string "true"), ("doc_count", .int 3)],
    .object [("doc_count", .array [])]]

def sizeRoot : Json :=
  .object [("aggregations", .object [("size\"", .object [("buckets", .array sizeBuckets)])])]

/-- A session in which a body with these buckets is brought. -/
def countingSizes : Session := Call.meeting (.recorded 200 (Utf8.encode sizeRoot.text) none)

theorem countBySize_tallied :
    countBySize.facetField = some "size\"" ∧ "size\"" ≠ "" ∧ countingSizes.next.Brings sizeRoot ∧
      ∃ body decoded, ((Call.sampleClient.facet countBySize).run.run countingSizes).2.sent =
          [Call.sampleClient.ask body] ∧
        Json.read? body = some decoded ∧
        ∃ reply, ((Call.sampleClient.facet countBySize).run.run countingSizes).1 = .ok reply ∧
          Tallies sizeBuckets reply.counts := by
  have hbrings : countingSizes.next.Brings sizeRoot :=
    Http.Request.brings_of_toOption (r := Call.sampleClient.ask "") (by decide +kernel)
  have hencodable : countBySize.Encodable :=
    ⟨by simp [countBySize], by decide, by simp [countBySize]⟩
  obtain ⟨body, hsent, hdecodes, hcounts⟩ :=
    Call.sampleClient.facet_tallies_buckets (q := countBySize) rfl (by decide) countingSizes
  obtain ⟨decoded, hread⟩ := hdecodes hencodable
  obtain ⟨asked, -, hnames, htallies⟩ := hcounts decoded hread
  have hname : Text.ofString "size\"" ∈ Ordered.keys asked := by
    rw [hnames]
    exact List.mem_cons_self
  exact ⟨rfl, by decide, hbrings, body, decoded, hsent, hread,
    htallies _ hname sizeRoot sizeBuckets hbrings rfl⟩

/-- A reply with buckets for a field. One of them is an array that holds arrays in one another. -/
def deepRoot (n : Nat) : Json :=
  .object [("aggregations", .object [("colour", .object [("buckets", .array [.nest n])])])]

theorem legible_deepRoot (n : Nat) : (deepRoot n).Legible :=
  .member _ (.member _ (.member _ (.array (List.forall_mem_singleton.mpr (Json.legible_nest n)))))

theorem not_fits_deepRoot {depth n : Nat} (h : depth ≤ n) : ¬(deepRoot n).Fits depth := by
  intro hfits
  have hcounted := hfits.member _ List.mem_cons_self
  have hfield := hcounted.member _ List.mem_cons_self
  have hbuckets := hfield.member _ List.mem_cons_self
  exact Json.not_fits_nest h (hbuckets.item _ List.mem_cons_self)

def deepBody (n : Nat) : List UInt8 := Utf8.encode (deepRoot n).text

/-- A request to count by the field of these buckets. -/
def countColours : QueryRequest := ⟨"*:*", [], some "colour", 10, none⟩

theorem facet_too_deep {depth n : Nat} (h : depth ≤ n) :
    ∃ container, ((Call.sampleClient.facet countColours).run.run
        (Call.meeting ⟨200, deepBody n, none, none, depth⟩)).1 =
      .error (.exchange (.response (.nested container))) := by
  have hbody := countColours.facetBody_eq rfl (by decide)
  obtain ⟨container, hfetch⟩ := (Call.sampleClient.ask _).fetch_too_deep
    (r := ⟨200, deepBody n, none, none, depth⟩) (legible_deepRoot n) rfl (not_fits_deepRoot h)
  refine ⟨container, ?_⟩
  rw [Call.sampleClient.facet_run rfl hbody]
  exact congrArg (· >>= _) hfetch

/-- Counting fails if a reader takes no more containers in one another than there are in the
buckets, although they are buckets of the field. -/
theorem facet_rejects_deep_buckets :
    ∃ buckets, (Unicode.decodeDetected? (deepBody 100000)).bind Json.read? =
        some (deepRoot 100000) ∧
      (deepRoot 100000).at? ["aggregations", "colour", "buckets"] = some (.array buckets) ∧
      ∀ depth ≤ 100000, ∃ container,
        ((Call.sampleClient.facet countColours).run.run
            (Call.meeting ⟨200, deepBody 100000, none, none, depth⟩)).1 =
          .error (.exchange (.response (.nested container))) :=
  ⟨_, (legible_deepRoot 100000).read?_body, rfl, fun _ => facet_too_deep⟩

end Client

end SearchBridge
