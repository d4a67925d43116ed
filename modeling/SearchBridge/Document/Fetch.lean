import SearchBridge.Document.Basic
import SearchBridge.Search.Reply
import SearchBridge.Text.FormEncoding
/-!
Fetching documents by id: the body of the request, the query string that limits the fields sent
back, and the documents in the reply.
-/

namespace SearchBridge

namespace Fetch

def body (ids : List Json) : Json := .object [("ids", .array ids)]

def textItems (v : Json) : Except ShapeFault (List String) := do
  (← v.sequence).mapM fun
    | .string s => s.string?.elim (.error .notText) .ok
    | _ => .error .notText

/-- The query string that asks for some fields only: their names in code-point order, joined by
commas and form encoded; empty if no field is named. -/
def sourceFilter (fields : List String) : String :=
  if fields.isEmpty then ""
  else "?_source=" ++ Text.formEncode (String.intercalate "," (fields.mergeSort (· ≤ ·)))

/-- The names of a sequence that is used as a set. Only texts can match a field; other scalars may
be members of a set, arrays and objects may not. -/
def setItems (v : Json) : Except ShapeFault (List Text) := do
  let items ← v.sequence
  match items.findSome? Json.container? with
  | some c => throw (.notSetMember c)
  | none => pure (items.filterMap fun | .string s => some s | _ => none)

/-- The texts of a field's value: one for each item of an array, one for any other value. -/
def valueTexts : Json → List (Option Text)
  | .array items => items.map Json.scalarText?
  | v => [v.scalarText?]

def fieldsOf (denied : List Text) (source : Ordered Text Json) : Ordered Text (List Json) :=
  (source.filter fun m => !denied.contains m.1).foldl
    (fun fields m => (valueTexts m.2).foldl (StoredDocument.addTo · m.1 ·) fields) []

/-- The document in an item of the reply; an item without a source object holds none. -/
def document? (denied : List Text) (item : Json) : Option StoredDocument :=
  match item.field? "_source" with
  | some (.object source) => some ⟨.string (item.textField idField), fieldsOf denied source⟩
  | _ => none

def items (root : Json) : Except ReplyFault (List Json) :=
  ((root.field? "docs").bind Json.items?).elim (.error .noDocuments) .ok

/-- The documents of a reply, in order, without the fields that are denied. -/
def documents (root : Json) (denied : List Text) : Except ReplyFault (List StoredDocument) := do
  pure ((← items root).filterMap (document? denied))

end Fetch

end SearchBridge
