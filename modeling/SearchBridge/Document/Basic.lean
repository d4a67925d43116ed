import SearchBridge.Json.Basic
import SearchBridge.Text.Blank
/-!
Stored documents: an id and fields with one or more values each, the fields in order of their first
value. What is added to a document are texts, and blank ones are never added; a document can be
made with other values and with an id that is no text.
-/

namespace SearchBridge

structure StoredDocument where
  id : Json
  fields : Ordered Text (List Json)
  deriving DecidableEq, Repr

namespace StoredDocument

def empty : StoredDocument := ⟨.string "", []⟩

/-- Fields with a text added under a name; an absent or blank text adds nothing. -/
def addTo (fields : Ordered Text (List Json)) (name : Text) (value : Option Text) :
    Ordered Text (List Json) :=
  match value with
  | none => fields
  | some s =>
    if Text.isBlank s then fields else fields.alter name fun vs => vs.getD [] ++ [.string s]

/-- The document with a text added under a name, unless the text is absent or blank. -/
def add (d : StoredDocument) (name : Text) (value : Option Text) : StoredDocument :=
  { d with fields := addTo d.fields name value }

/-- A field as it is sent: a single value on its own, any other number of values as an array. -/
def fieldValue : List Json → Json
  | [v] => v
  | vs => .array vs

def toMembers (d : StoredDocument) : Ordered Text Json :=
  d.fields.map fun f => (f.1, fieldValue f.2)

end StoredDocument

end SearchBridge
