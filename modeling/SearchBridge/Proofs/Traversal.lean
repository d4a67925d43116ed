import Mathlib.Data.List.Basic
import Mathlib.Logic.Function.Iterate
import Mathlib.Logic.Relation
import SearchBridge.Json.Collect
/-!
The search of a value for the texts under a name, and the recursion on the value.

The search looks first at what it put on its stack last, so it goes through a value in another order
than the recursion, with parts of several levels on the stack at once. A turn hands texts over from
the values that are pending to what has been found: what is found together with what the recursion
finds in the pending values stays the same but for its order, and the weight of the pending values
falls.
-/

namespace SearchBridge

namespace Json

variable {name : Text} {v w : Json}

/-! ### The recursion -/

/-- The texts that a member contributes. -/
def memberTexts (name : Text) (m : Text × Json) : List Text :=
  if m.1 = name then m.2.scalarTexts else m.2.textsUnder name

theorem textsUnderItems_eq (name : Text) (items : List Json) :
    textsUnderItems name items = items.flatMap (textsUnder name) := by
  induction items with
  | nil => rfl
  | cons v vs ih => rw [textsUnderItems, ih, List.flatMap_cons]

theorem textsUnderMembers_eq (name : Text) (members : List (Text × Json)) :
    textsUnderMembers name members = members.flatMap (memberTexts name) := by
  induction members with
  | nil => rfl
  | cons m ms ih => rw [textsUnderMembers, ih, List.flatMap_cons, memberTexts]

theorem textsUnder_array (name : Text) (items : List Json) :
    textsUnder name (.array items) = items.flatMap (textsUnder name) := by
  rw [textsUnder, textsUnderItems_eq]

theorem textsUnder_object (name : Text) (members : List (Text × Json)) :
    textsUnder name (.object members) = members.flatMap (memberTexts name) := by
  rw [textsUnder, textsUnderMembers_eq]

/-- What the members of an object contribute is what those of the name hold, and what the recursion
finds in the others. -/
theorem textsUnder_object_perm (name : Text) (members : List (Text × Json)) :
    (own name members ++ (others name members).flatMap (textsUnder name)).Perm
      (textsUnder name (.object members)) := by
  rw [textsUnder_object]
  induction members with
  | nil => exact .nil
  | cons m ms ih =>
      rw [List.flatMap_cons]
      by_cases hm : m.1 = name
      · have hown : own name (m :: ms) = m.2.scalarTexts ++ own name ms := by
          simp [own, hm]
        have hothers : others name (m :: ms) = others name ms := by
          simp [others, hm]
        rw [hown, hothers, memberTexts, if_pos hm, List.append_assoc]
        exact ih.append_left _
      · have hown : own name (m :: ms) = own name ms := by
          simp [own, hm]
        have hothers : others name (m :: ms) = m.2 :: others name ms := by
          simp [others, hm]
        rw [hown, hothers, List.flatMap_cons, memberTexts, if_neg hm]
        exact (List.perm_append_comm_assoc _ _ _).trans (ih.append_left _)

/-! ### The search -/

namespace Search

variable {s : Search}

/-- What a search is going to find: what it has found, and what the recursion finds in the values it
has still to look at. -/
def yield (name : Text) (s : Search) : List Text :=
  s.found ++ s.pending.flatMap (textsUnder name)

/-- Looking at a value takes over what the recursion finds in it. -/
theorem yield_look (name : Text) (s : Search) (v : Json) :
    ((s.look name v).yield name).Perm (yield name ⟨v :: s.pending, s.found⟩) := by
  simp only [yield, List.flatMap_cons]
  cases v with
  | object members =>
      have hstacked : ((others name members).reverse.flatMap (textsUnder name)).Perm
          ((others name members).flatMap (textsUnder name)) :=
        (List.reverse_perm _).flatMap_right _
      have hvalue := ((hstacked.append_left _).trans (textsUnder_object_perm name members))
      simp only [look, List.flatMap_append, List.append_assoc]
      refine List.Perm.append_left _ ?_
      rw [← List.append_assoc]
      exact hvalue.append_right _
  | array items =>
      have hstacked : (items.reverse.flatMap (textsUnder name)).Perm
          (items.flatMap (textsUnder name)) :=
        (List.reverse_perm _).flatMap_right _
      rw [textsUnder_array]
      simp only [look, List.flatMap_append]
      exact (hstacked.append_right _).append_left _
  | _ => exact .refl _

/-- A turn neither gains nor loses a text. -/
theorem yield_turn (name : Text) (s : Search) : ((s.turn name).yield name).Perm (s.yield name) := by
  obtain ⟨pending, found⟩ := s
  cases pending with
  | nil => exact .refl _
  | cons v rest => exact yield_look name ⟨rest, found⟩ v

/-- A search finds what it is going to find, each text as often as the recursion does. -/
theorem texts_perm (name : Text) (s : Search) : (s.texts name).Perm (s.yield name) := by
  induction s using texts.induct name with
  | case1 found => simp [texts, yield]
  | case2 v rest found ih =>
      rw [texts]
      exact ih.trans (yield_turn name ⟨v :: rest, found⟩)

theorem texts_turn (name : Text) (s : Search) : (s.turn name).texts name = s.texts name := by
  obtain ⟨pending, found⟩ := s
  cases pending with
  | nil => rfl
  | cons v rest => rw [texts.eq_def name ⟨v :: rest, found⟩]; rfl

/-- A search is over after as many turns as the values to be looked at weigh. -/
theorem turns_end (name : Text) (n : Nat) (s : Search) (hn : weightItems s.pending ≤ n) :
    (turn name)^[n] s = ⟨[], s.texts name⟩ := by
  induction n generalizing s with
  | zero =>
      obtain ⟨pending, found⟩ := s
      cases pending with
      | nil => rw [texts]; rfl
      | cons v rest =>
          have hv := v.weight_pos
          simp only [weightItems] at hn
          omega
  | succ n ih =>
      rw [Function.iterate_succ_apply, ih, texts_turn]
      obtain ⟨pending, found⟩ := s
      cases pending with
      | nil => exact Nat.zero_le n
      | cons v rest =>
          have hlook := weightItems_look name ⟨rest, found⟩ v
          simp only [weightItems] at hn
          change weightItems (look name ⟨rest, found⟩ v).pending ≤ n
          exact Nat.le_of_lt_succ (Nat.lt_of_lt_of_le hlook hn)

end Search

/-- The search of a value finds the set of the texts that the recursion finds. -/
theorem collect_eq (name : Text) (v : Json) : v.collect name = IdSet.ofList (v.textsUnder name) := by
  have hperm := Search.texts_perm name (.start v)
  apply IdSet.ofList_congr
  intro s
  rw [hperm.mem_iff]
  simp [Search.yield, Search.start]

/-! ### Other orders -/

/-- Some items of an array, or some members of an object, stand in another order, in a value itself
or somewhere in one of its parts. -/
inductive Reorders : Json → Json → Prop where
  | items {vs ws : List Json} (h : vs.Perm ws) : Reorders (.array vs) (.array ws)
  | members {ms ns : Ordered Text Json} (h : ms.Perm ns) : Reorders (.object ms) (.object ns)
  | item {v w : Json} (front back : List Json) (h : Reorders v w) :
      Reorders (.array (front ++ v :: back)) (.array (front ++ w :: back))
  | member {v w : Json} (front back : Ordered Text Json) (n : Text) (h : Reorders v w) :
      Reorders (.object (front ++ (n, v) :: back)) (.object (front ++ (n, w) :: back))

/-- A value with parts to be reordered is no scalar. -/
theorem Reorders.scalarText?_eq (h : Reorders v w) : v.scalarText? = w.scalarText? := by
  cases h <;> rfl

theorem Reorders.scalarTexts_perm (h : Reorders v w) : v.scalarTexts.Perm w.scalarTexts := by
  cases h with
  | items h => exact h.filterMap _
  | members => exact .refl _
  | item front back h =>
      simp only [scalarTexts, List.filterMap_append, List.filterMap_cons, h.scalarText?_eq]
      exact .refl _
  | member => exact .refl _

/-- The recursion finds the same texts in any order of items and members. -/
theorem Reorders.textsUnder_perm (name : Text) (h : Reorders v w) :
    (v.textsUnder name).Perm (w.textsUnder name) := by
  induction h with
  | items h =>
      rw [textsUnder_array, textsUnder_array]
      exact h.flatMap_right _
  | members h =>
      rw [textsUnder_object, textsUnder_object]
      exact h.flatMap_right _
  | item front back _ ih =>
      simp only [textsUnder_array, List.flatMap_append, List.flatMap_cons]
      exact (ih.append_right _).append_left _
  | @member v w front back n h ih =>
      have hmember : (memberTexts name (n, v)).Perm (memberTexts name (n, w)) := by
        simp only [memberTexts]
        split
        · exact h.scalarTexts_perm
        · exact ih
      simp only [textsUnder_object, List.flatMap_append, List.flatMap_cons]
      exact (hmember.append_right _).append_left _

theorem collect_reordered (name : Text) (h : Relation.ReflTransGen Reorders v w) :
    w.collect name = v.collect name := by
  induction h with
  | refl => rfl
  | tail _ hstep ih =>
      rw [← ih, collect_eq, collect_eq]
      exact IdSet.ofList_congr fun s => (hstep.textsUnder_perm name).mem_iff.symm

theorem collect_append (name : Text) (front back : List Json) :
    (array (front ++ back)).collect name =
      (array front).collect name ∪ (array back).collect name := by
  simp only [collect_eq, textsUnder_array, List.flatMap_append, IdSet.ofList_append]

/-- The search of a value is over after as many turns as the value consists of values at most, and
the texts it has then found are, as a set, those that the recursion finds. So the order of items and
members makes no difference anywhere in the value, and of two arrays put together the search finds
what it finds in either. -/
theorem collect_eq_textsUnder (name : Text) (v : Json) :
    (∃ found, (Search.turn name)^[v.weight] (.start v) = ⟨[], found⟩ ∧
      v.collect name = IdSet.ofList found) ∧
    v.collect name = IdSet.ofList (v.textsUnder name) ∧
    (∀ w, Relation.ReflTransGen Reorders v w → w.collect name = v.collect name) ∧
    ∀ front back, (array (front ++ back)).collect name =
      (array front).collect name ∪ (array back).collect name := by
  have hweight : weightItems (Search.start v).pending ≤ v.weight := Nat.le_refl _
  refine ⟨⟨_, Search.turns_end name _ _ hweight, rfl⟩, collect_eq name v, ?_, collect_append name⟩
  intro w hw
  exact collect_reordered name hw

/-- Texts under one name, at three depths. -/
def scattered : Json :=
  .object [("fields", .array [.object [("copy_to", .array [.string "a", .string "b"])],
    .object [("copy_to", .string "c")]]), ("copy_to", .string "d")]

/-- The same with every array and the outer object the other way round. -/
def scatteredBack : Json :=
  .object [("copy_to", .string "d"), ("fields", .array [.object [("copy_to", .string "c")],
    .object [("copy_to", .array [.string "b", .string "a"])]])]

theorem scatteredBack_collect :
    Relation.ReflTransGen Reorders scattered scatteredBack ∧
      scatteredBack.collect "copy_to" = scattered.collect "copy_to" := by
  have htexts : Reorders (.array [.string "a", .string "b"]) (.array [.string "b", .string "a"]) :=
    .items (.swap _ _ _)
  have hobject := htexts.member [] [] "copy_to"
  have hitem := hobject.item [] [.object [("copy_to", .string "c")]]
  have hinner := hitem.member [] [("copy_to", .string "d")] "fields"
  have hitems : Reorders
      (.array [.object [("copy_to", .array [.string "b", .string "a"])],
        .object [("copy_to", .string "c")]])
      (.array [.object [("copy_to", .string "c")],
        .object [("copy_to", .array [.string "b", .string "a"])]]) :=
    .items (.swap _ _ _)
  have harray := hitems.member [] [("copy_to", .string "d")] "fields"
  have hreordered : Relation.ReflTransGen Reorders scattered scatteredBack :=
    .head hinner (.head harray (.single (.members (.swap _ _ _))))
  obtain ⟨-, -, hsame, -⟩ := collect_eq_textsUnder "copy_to" scattered
  exact ⟨hreordered, hsame _ hreordered⟩

example : (Search.start scattered).texts "copy_to" = ["d", "c", "a", "b"].map Text.ofString := by
  decide +kernel

end Json

end SearchBridge
