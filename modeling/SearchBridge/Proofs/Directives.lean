import Mathlib.Data.List.Basic
import Mathlib.Logic.Relation
import SearchBridge.Proofs.Taxonomy
import SearchBridge.Proofs.Traversal
/-!
The texts under a name anywhere in a value, and those of them that are collected.

A value is searched along paths through items and members. What stands under the name is collected
along the paths that do not go through a member of that name, so whatever such a member holds inside
its value is found only if it stands elsewhere too.
-/

namespace SearchBridge

namespace Json

/-- A value that another one has directly inside: an item, or the value of a member with a name that
may be gone through. -/
inductive Part (through : Text → Prop) : Json → Json → Prop where
  | item {items : List Json} {v : Json} (hv : v ∈ items) : Part through (.array items) v
  | member {members : Ordered Text Json} {n : Text} {v : Json} (hv : (n, v) ∈ members)
      (hn : through n) : Part through (.object members) v

/-- A text that is a value's own, as a scalar, or that of an item that is a scalar. -/
inductive Gives : Json → Text → Prop where
  | scalar {v : Json} {s : Text} (h : v.scalarText? = some s) : Gives v s
  | item {items : List Json} {v : Json} {s : Text} (hv : v ∈ items) (h : v.scalarText? = some s) :
      Gives (.array items) s

/-- An object somewhere in a value has a member of a name whose value has a property. -/
def Bears (through : Text → Prop) (name : Text) (P : Json → Prop) (v : Json) : Prop :=
  ∃ members w, Relation.ReflTransGen (Part through) v (.object members) ∧ (name, w) ∈ members ∧ P w

/-- A text stands under a name, at any depth and under any names. -/
def Holds (name : Text) (v : Json) (s : Text) : Prop :=
  Bears (fun _ => True) name (Gives · s) v

/-- A text stands under a name outside the values of all members of that name. -/
def HoldsOpenly (name : Text) (v : Json) (s : Text) : Prop :=
  Bears (· ≠ name) name (Gives · s) v

/-- A text stands under a name inside the value of a member of that name. -/
def HoldsInside (name : Text) (v : Json) (s : Text) : Prop :=
  Bears (fun _ => True) name (Holds name · s) v

variable {through : Text → Prop} {name s : Text} {P : Json → Prop} {v : Json}

/-! ### One step of a path -/

theorem bears_iff : Bears through name P v ↔
    (∃ members w, v = .object members ∧ (name, w) ∈ members ∧ P w) ∨
      ∃ part, Part through v part ∧ Bears through name P part := by
  constructor
  · rintro ⟨members, w, hpath, hw, hP⟩
    rcases Relation.ReflTransGen.cases_head hpath with hhere | ⟨part, hpart, hrest⟩
    · exact Or.inl ⟨members, w, hhere, hw, hP⟩
    · exact Or.inr ⟨part, hpart, members, w, hrest, hw, hP⟩
  · rintro (⟨members, w, rfl, hw, hP⟩ | ⟨part, hpart, members, w, hrest, hw, hP⟩)
    · exact ⟨members, w, .refl, hw, hP⟩
    · exact ⟨members, w, .head hpart hrest, hw, hP⟩

theorem bears_array {items : List Json} :
    Bears through name P (.array items) ↔ ∃ v ∈ items, Bears through name P v := by
  rw [bears_iff]
  constructor
  · rintro (⟨members, w, hv, -⟩ | ⟨part, hpart, hbears⟩)
    · cases hv
    · cases hpart with
      | item hv => exact ⟨part, hv, hbears⟩
  · rintro ⟨v, hv, hbears⟩
    exact Or.inr ⟨v, .item hv, hbears⟩

theorem bears_object {members : Ordered Text Json} :
    Bears through name P (.object members) ↔
      (∃ w, (name, w) ∈ members ∧ P w) ∨
        ∃ n w, (n, w) ∈ members ∧ through n ∧ Bears through name P w := by
  rw [bears_iff]
  constructor
  · rintro (⟨members', w, hv, hw, hP⟩ | ⟨part, hpart, hbears⟩)
    · cases hv
      exact Or.inl ⟨w, hw, hP⟩
    · cases hpart with
      | member hv hn => exact Or.inr ⟨_, part, hv, hn, hbears⟩
  · rintro (⟨w, hw, hP⟩ | ⟨n, w, hw, hn, hbears⟩)
    · exact Or.inl ⟨members, w, rfl, hw, hP⟩
    · exact Or.inr ⟨w, .member hw hn, hbears⟩

theorem not_bears (hobject : ∀ members, v ≠ .object members) (harray : ∀ items, v ≠ .array items) :
    ¬Bears through name P v := by
  rw [bears_iff]
  rintro (⟨members, w, hv, -⟩ | ⟨part, hpart, -⟩)
  · exact hobject members hv
  · cases hpart with
    | item => exact harray _ rfl
    | member => exact hobject _ rfl

theorem Bears.mono {through' : Text → Prop} (hthrough : ∀ n, through n → through' n)
    (h : Bears through name P v) : Bears through' name P v := by
  obtain ⟨members, w, hpath, hw, hP⟩ := h
  refine ⟨members, w, Relation.ReflTransGen.mono (fun _ _ hpart => ?_) _ _ hpath, hw, hP⟩
  cases hpart with
  | item hv => exact .item hv
  | member hv hn => exact .member hv (hthrough _ hn)

theorem Bears.of_part {part : Json} (hpart : Part through v part)
    (h : Bears through name P part) : Bears through name P v :=
  bears_iff.mpr (Or.inr ⟨part, hpart, h⟩)

theorem mem_scalarTexts : s ∈ v.scalarTexts ↔ Gives v s := by
  constructor
  · intro h
    cases v with
    | array items =>
        obtain ⟨w, hw, hs⟩ := List.mem_filterMap.mp h
        exact .item hw hs
    | _ => exact .scalar (Option.mem_toList.mp h)
  · intro h
    cases h with
    | scalar h =>
        cases v with
        | array items => cases h
        | _ => exact Option.mem_toList.mpr h
    | item hv h => exact List.mem_filterMap.mpr ⟨_, hv, h⟩

/-! ### What is collected -/

theorem mem_own {members : Ordered Text Json} :
    s ∈ own name members ↔ ∃ w, (name, w) ∈ members ∧ Gives w s := by
  rw [own, List.mem_flatMap]
  constructor
  · rintro ⟨m, hm, hs⟩
    obtain ⟨hmem, hname⟩ := List.mem_filter.mp hm
    obtain rfl : m.1 = name := by simpa using hname
    exact ⟨m.2, hmem, mem_scalarTexts.mp hs⟩
  · rintro ⟨w, hw, hs⟩
    exact ⟨(name, w), List.mem_filter.mpr ⟨hw, by simp⟩, mem_scalarTexts.mpr hs⟩

theorem mem_others {members : Ordered Text Json} :
    v ∈ others name members ↔ ∃ n, (n, v) ∈ members ∧ n ≠ name := by
  rw [others, List.mem_map]
  constructor
  · rintro ⟨m, hm, rfl⟩
    obtain ⟨hmem, hname⟩ := List.mem_filter.mp hm
    exact ⟨m.1, hmem, by simpa using hname⟩
  · rintro ⟨n, hv, hn⟩
    exact ⟨(n, v), List.mem_filter.mpr ⟨hv, by simpa using hn⟩, rfl⟩

theorem holdsOpenly_object {members : Ordered Text Json} :
    HoldsOpenly name (.object members) s ↔
      s ∈ own name members ∨ ∃ v ∈ others name members, HoldsOpenly name v s := by
  rw [HoldsOpenly, bears_object, mem_own]
  refine or_congr_right ⟨?_, ?_⟩
  · rintro ⟨n, w, hw, hn, hs⟩
    exact ⟨w, mem_others.mpr ⟨n, hw, hn⟩, hs⟩
  · rintro ⟨w, hw, hs⟩
    obtain ⟨n, hw, hn⟩ := mem_others.mp hw
    exact ⟨n, w, hw, hn, hs⟩

theorem holdsOpenly_array {items : List Json} :
    HoldsOpenly name (.array items) s ↔ ∃ v ∈ items, HoldsOpenly name v s :=
  bears_array

/-- The recursion finds what stands openly. -/
theorem mem_textsUnder (v : Json) : s ∈ v.textsUnder name ↔ HoldsOpenly name v s := by
  match v with
  | .array items =>
      rw [textsUnder_array, List.mem_flatMap, holdsOpenly_array]
      exact exists_congr fun w => and_congr_right fun hw => mem_textsUnder w
  | .object members =>
      rw [← (textsUnder_object_perm name members).mem_iff, List.mem_append, List.mem_flatMap,
        holdsOpenly_object]
      exact or_congr_right (exists_congr fun w => and_congr_right fun hw => mem_textsUnder w)
  | .null | .bool _ | .number _ | .string _ =>
      exact iff_of_false List.not_mem_nil (not_bears (by simp) (by simp))
termination_by v
decreasing_by
  · have hitem := List.sizeOf_lt_of_mem hw
    simp only [array.sizeOf_spec]
    omega
  · obtain ⟨n, hmem, -⟩ := mem_others.mp hw
    have hmember := List.sizeOf_lt_of_mem hmem
    simp only [Prod.mk.sizeOf_spec] at hmember
    simp only [object.sizeOf_spec]
    omega

theorem mem_collect : s ∈ (v.collect name).toList ↔ HoldsOpenly name v s := by
  rw [collect_eq, IdSet.mem_ofList, mem_textsUnder]

/-! ### What is missed -/

/-- What stands under a name stands openly or inside the value of a member of that name. -/
theorem holds_iff : Holds name v s ↔ HoldsOpenly name v s ∨ HoldsInside name v s := by
  constructor
  · rintro ⟨members, w, hpath, hw, hs⟩
    -- The first step of the path that goes through the name leaves all the rest inside.
    induction hpath using Relation.ReflTransGen.head_induction_on with
    | refl => exact Or.inl ⟨members, w, .refl, hw, hs⟩
    | @head whole part hpart hrest ih =>
        cases hpart with
        | item hv => exact ih.imp (.of_part (.item hv)) (.of_part (.item hv))
        | @member siblings n _ hv =>
            by_cases hn : n = name
            · exact Or.inr ⟨siblings, part, .refl, hn ▸ hv, members, w, hrest, hw, hs⟩
            · exact ih.imp (.of_part (.member hv hn)) (.of_part (.member hv trivial))
  · rintro (hopen | ⟨members, w, hpath, hw, members', w', hpath', hw', hs⟩)
    · exact hopen.mono fun _ _ => trivial
    · exact ⟨members', w', hpath.trans (.head (.member hw trivial) hpath'), hw', hs⟩

/-- All that stands under a name is collected exactly if what stands inside members of that name
stands openly as well. -/
theorem collect_complete_iff (name : Text) (v : Json) :
    (∀ s, s ∈ (v.collect name).toList ↔ Holds name v s) ↔
      ∀ s, HoldsInside name v s → HoldsOpenly name v s := by
  refine forall_congr' fun s => ?_
  rw [mem_collect, holds_iff]
  exact ⟨fun h hinside => h.mpr (Or.inr hinside), fun h => ⟨Or.inl, fun hs => hs.elim id h⟩⟩

end Json

namespace Client

open Json Call

variable {root : Json}

/-- The mappings in the template of a collection. -/
def Maps (collection : String) (root : Json) (mappings : Ordered Text Json) : Prop :=
  (root.field? collection).bind (·.field? "mappings") = some (.object mappings)

theorem run_copyFields (c : Client) {s : Session} (h : s.next.Brings root) :
    ((c.copyFields).run.run s).1 = .ok (copyTargets c.connection.collection root) := by
  obtain ⟨response, reply, hnext, hreply, hstatus, rfl⟩ := h
  have hsettle : ∀ r : Http.Request, r.settle s.next = .ok reply := by
    intro r
    rw [hnext, Http.Request.settle, hreply]
    rfl
  have hmissing : reply.status ≠ 404 := by rw [hstatus]; decide
  rw [Client.copyFields, Op.run_bind, Op.run_exchange, hsettle]
  dsimp only
  rw [if_neg hmissing, Op.run_bind, Op.run_lift, Http.Reply.accepted, if_pos hstatus]
  rfl

/-- A value is searched for exactly what stands under a name outside the values of members of that
name. So all that stands under it is collected exactly if nothing stands only inside them, and the
destinations of copied fields are all reported exactly if this holds for the mappings. -/
theorem copies_reported_iff (name : Text) (v : Json) :
    (∀ s, s ∈ (v.collect name).toList ↔ HoldsOpenly name v s) ∧
    ((∀ s, s ∈ (v.collect name).toList ↔ Holds name v s) ↔
      ∀ s, HoldsInside name v s → HoldsOpenly name v s) ∧
    ∀ (c : Client) (s : Session) (root : Json) (mappings : Ordered Text Json),
      s.next.Brings root → Maps c.connection.collection root mappings →
        ∃ found, ((c.copyFields).run.run s).1 = .ok found ∧
          ((∀ t, t ∈ found.toList ↔ Holds copyDirective (.object mappings) t) ↔
            ∀ t, HoldsInside copyDirective (.object mappings) t →
              HoldsOpenly copyDirective (.object mappings) t) := by
  refine ⟨fun s => mem_collect, collect_complete_iff name v, ?_⟩
  intro c s root mappings hbrings hmaps
  have htargets : copyTargets c.connection.collection root =
      (Json.object mappings).collect copyDirective := by
    rw [Maps] at hmaps
    rw [copyTargets, hmaps]
  exact ⟨_, run_copyFields c hbrings, htargets ▸ collect_complete_iff _ _⟩

/-- Mappings of titles that are copied into another field. -/
def titleMappings : Ordered Text Json :=
  [("properties", .object [("title",
    .object [("type", .string "text"), ("copy_to", .array [.string "all"])])])]

def titleTemplate : Json := .object [("c", .object [("mappings", .object titleMappings)])]

def titleReply : Http.Response := .recorded 200 (Utf8.encode titleTemplate.text) none

theorem titleMappings_reported :
    (meeting titleReply).next.Brings titleTemplate ∧
      Maps sampleClient.connection.collection titleTemplate titleMappings ∧
      ∃ found, ((sampleClient.copyFields).run.run (meeting titleReply)).1 = .ok found ∧
        ∀ t, t ∈ found.toList ↔ Holds copyDirective (.object titleMappings) t := by
  have hfetch : ((Http.get "http://h/").fetch (meeting titleReply).next).toOption =
      some titleTemplate := by decide +kernel
  have hbrings := Http.Request.brings_of_toOption hfetch
  have hmaps : Maps sampleClient.connection.collection titleTemplate titleMappings := rfl
  have hinside : ∀ t, ¬HoldsInside copyDirective (.object titleMappings) t := by
    intro t
    have hscalar : ∀ through name P u, ¬Bears through name P (.string u) := fun _ _ _ _ =>
      not_bears (by simp) (by simp)
    simp [HoldsInside, Holds, titleMappings, copyDirective, bears_object, bears_array, hscalar,
      Text.ofString_inj, or_imp, forall_and]
  obtain ⟨-, -, hreported⟩ := copies_reported_iff copyDirective (.object titleMappings)
  obtain ⟨found, hfound, hcomplete⟩ := hreported _ _ _ _ hbrings hmaps
  exact ⟨hbrings, hmaps, found, hfound, hcomplete.mpr fun t h => absurd h (hinside t)⟩

/-- Mappings of a field that has the name of the directive and is copied itself. -/
def namedAsDirective : Json :=
  .object [("properties", .object [("copy_to",
    .object [("type", .string "text"), ("copy_to", .string "all")])])]

/-- The destination of a field that has the name of the directive is not collected. -/
theorem destination_missed :
    Holds copyDirective namedAsDirective "all" ∧
      (namedAsDirective.collect copyDirective).toList = [] := by
  refine ⟨?_, ?_⟩
  · have hs : Gives (.string "all") "all" := .scalar rfl
    have hfield : Holds copyDirective
        (.object [("type", .string "text"), ("copy_to", .string "all")]) "all" :=
      bears_object.mpr (Or.inl ⟨_, by simp [copyDirective], hs⟩)
    refine Bears.of_part (.member List.mem_cons_self trivial) ?_
    exact hfield.of_part (.member List.mem_cons_self trivial)
  · rw [collect, IdSet.toList_ofList_eq_nil]
    decide +kernel

end Client

end SearchBridge
