import SearchBridge.IdSet
import SearchBridge.Json.Scalar
/-!
Collecting the texts that stand under a name anywhere in a value. The value of a member of that
name is read for its texts and not searched further.

The search keeps a stack of the values it has still to look at and takes the one that was put there
last. `textsUnder` is the same collection by recursion on the value.
-/

namespace SearchBridge

namespace Json

mutual

/-- How many values a value consists of, itself included. -/
def weight : Json → Nat
  | .array items => 1 + weightItems items
  | .object members => 1 + weightMembers members
  | _ => 1

def weightItems : List Json → Nat
  | [] => 0
  | v :: vs => weight v + weightItems vs

def weightMembers : List (Text × Json) → Nat
  | [] => 0
  | (_, v) :: ms => weight v + weightMembers ms

end

theorem weight_pos (v : Json) : 0 < v.weight := by
  cases v <;> simp only [weight] <;> omega

theorem weightItems_append (l₁ l₂ : List Json) :
    weightItems (l₁ ++ l₂) = weightItems l₁ + weightItems l₂ := by
  induction l₁ with
  | nil => simp [weightItems]
  | cons v vs ih => simp [weightItems, ih, Nat.add_assoc]

theorem weightItems_reverse (l : List Json) : weightItems l.reverse = weightItems l := by
  induction l with
  | nil => rfl
  | cons v vs ih => simp only [List.reverse_cons, weightItems_append, ih, weightItems]; omega

/-- The values of the members that do not have a name. -/
def others (name : Text) (members : List (Text × Json)) : List Json :=
  (members.filter (·.1 ≠ name)).map (·.2)

/-- The texts of the members that have a name. -/
def own (name : Text) (members : List (Text × Json)) : List Text :=
  (members.filter (·.1 = name)).flatMap fun m => m.2.scalarTexts

theorem weightItems_others_le (name : Text) (members : List (Text × Json)) :
    weightItems (others name members) ≤ weightMembers members := by
  induction members with
  | nil => simp [others, weightItems, weightMembers]
  | cons m ms ih =>
      obtain ⟨n, v⟩ := m
      have ih' : weightItems (List.map (·.2) (ms.filter (·.1 ≠ name))) ≤ weightMembers ms := ih
      by_cases h : n = name
      · simp only [others, weightMembers, List.filter_cons, h, ne_eq, not_true_eq_false,
          decide_false, Bool.false_eq_true, if_false]
        simp only [ne_eq] at ih'
        omega
      · simp only [others, weightMembers, List.filter_cons, h, ne_eq, not_false_eq_true,
          decide_true, if_true, List.map_cons, weightItems]
        simp only [ne_eq] at ih'
        omega

/-- A search under way: the values that are still to be looked at, the one put there last in front,
and the texts found so far. -/
structure Search where
  pending : List Json
  found : List Text

namespace Search

def start (v : Json) : Search := ⟨[v], []⟩

/-- Looks at a value. The members of an object that have the name give their texts, and the values
of the others are put in front one after the other, as the items of an array are. -/
def look (name : Text) (s : Search) : Json → Search
  | .object members => ⟨(others name members).reverse ++ s.pending, s.found ++ own name members⟩
  | .array items => ⟨items.reverse ++ s.pending, s.found⟩
  | _ => s

/-- Looking at a value leaves less to be looked at than the value itself. -/
theorem weightItems_look (name : Text) (s : Search) (v : Json) :
    weightItems (s.look name v).pending < v.weight + weightItems s.pending := by
  cases v with
  | object members =>
      have hothers := weightItems_others_le name members
      simp only [look, weight, weightItems_append, weightItems_reverse]
      omega
  | array items =>
      simp only [look, weight, weightItems_append, weightItems_reverse]
      omega
  | _ => exact Nat.lt_add_of_pos_left (weight_pos _)

def turn (name : Text) (s : Search) : Search :=
  match s.pending with
  | [] => s
  | v :: rest => look name ⟨rest, s.found⟩ v

/-- The texts found when nothing is left to be looked at. -/
def texts (name : Text) (s : Search) : List Text :=
  match s with
  | ⟨[], found⟩ => found
  | ⟨v :: rest, found⟩ => texts name (look name ⟨rest, found⟩ v)
termination_by weightItems s.pending
decreasing_by
  exact weightItems_look name ⟨rest, found⟩ v

end Search

/-- The set of the texts under a name in a value. -/
def collect (name : Text) (v : Json) : IdSet := IdSet.ofList (Search.texts name (.start v))

mutual

/-- The texts under a name, by recursion on the value. -/
def textsUnder (name : Text) : Json → List Text
  | .object members => textsUnderMembers name members
  | .array items => textsUnderItems name items
  | _ => []

def textsUnderItems (name : Text) : List Json → List Text
  | [] => []
  | v :: vs => textsUnder name v ++ textsUnderItems name vs

def textsUnderMembers (name : Text) : List (Text × Json) → List Text
  | [] => []
  | (n, v) :: ms =>
    (if n = name then scalarTexts v else textsUnder name v) ++ textsUnderMembers name ms

end

end Json

end SearchBridge
