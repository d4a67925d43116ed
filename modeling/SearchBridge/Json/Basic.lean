import SearchBridge.Number.Basic
import SearchBridge.Ordered
import SearchBridge.Text.Basic
/-!
JSON values. The members of an object keep their order, integers and floating-point numbers are
told apart, and equality is decidable.
-/

namespace SearchBridge

inductive Json where
  | null
  | bool (b : Bool)
  | number (n : Number)
  | string (s : Text)
  | array (items : List Json)
  | object (members : List (Text × Json))
  deriving Repr, Inhabited

namespace Json

inductive Container where
  | array
  | object
  deriving DecidableEq, Repr

def container? : Json → Option Container
  | .array _ => some .array
  | .object _ => some .object
  | _ => none

def int (i : Int) : Json := .number (.int i)

def ofString (s : String) : Json := .string s

/-- The value of a member of an object; other values have no members. -/
def field? : Json → Text → Option Json
  | .object members, name => Ordered.find? members name
  | _, _ => none

def members? : Json → Option (Ordered Text Json)
  | .object members => some members
  | _ => none

def items? : Json → Option (List Json)
  | .array items => some items
  | _ => none

/-- What a value yields when it is taken as a sequence: an array its items, a text its code points
and an object its names. Nothing else is a sequence. -/
def elements? : Json → Option (List Json)
  | .array items => some items
  | .string s => some (s.map fun p => .string [p])
  | .object members => some (members.map fun m => .string m.1)
  | _ => none

/-- Whether a value counts as set: everything but `null`, `false`, zero and what is empty. -/
def isSet : Json → Bool
  | .null => false
  | .bool b => b
  | .number n => !n.isZero
  | .string s => !s.isEmpty
  | .array items => !items.isEmpty
  | .object members => !members.isEmpty

mutual

def same : Json → Json → Bool
  | .null, .null => true
  | .bool b, .bool c => b = c
  | .number m, .number n => m = n
  | .string s, .string t => s = t
  | .array vs, .array ws => sameItems vs ws
  | .object ms, .object ns => sameMembers ms ns
  | _, _ => false

def sameItems : List Json → List Json → Bool
  | [], [] => true
  | v :: vs, w :: ws => same v w && sameItems vs ws
  | _, _ => false

def sameMembers : List (Text × Json) → List (Text × Json) → Bool
  | [], [] => true
  | (m, v) :: ms, (n, w) :: ns => m = n && same v w && sameMembers ms ns
  | _, _ => false

end

mutual

theorem same_iff : ∀ v w : Json, same v w = true ↔ v = w
  | .null, w => by cases w <;> simp [same]
  | .bool _, w => by cases w <;> simp [same]
  | .number _, w => by cases w <;> simp [same]
  | .string _, w => by cases w <;> simp [same]
  | .array vs, w => by cases w <;> simp [same, sameItems_iff vs]
  | .object ms, w => by cases w <;> simp [same, sameMembers_iff ms]

theorem sameItems_iff : ∀ vs ws : List Json, sameItems vs ws = true ↔ vs = ws
  | [], ws => by cases ws <;> simp [sameItems]
  | v :: vs, ws => by cases ws <;> simp [sameItems, same_iff v, sameItems_iff vs]

theorem sameMembers_iff : ∀ ms ns : List (Text × Json), sameMembers ms ns = true ↔ ms = ns
  | [], ns => by cases ns <;> simp [sameMembers]
  | (_, v) :: ms, ns => by
      cases ns <;> simp [sameMembers, same_iff v, sameMembers_iff ms, Prod.ext_iff]

end

instance : DecidableEq Json := fun v w => decidable_of_iff _ (same_iff v w)

@[simp] theorem field?_object (members : Ordered Text Json) (name : Text) :
    (object members).field? name = members.find? name := rfl

end Json

end SearchBridge
