import SearchBridge.Document.Basic
import SearchBridge.Json.Shown
import SearchBridge.Json.Writer
import SearchBridge.Search.Reply
/-!
Bulk indexing: the body of a bulk request has two lines for each document, the action that names
its id and the fields without the id.
-/

namespace SearchBridge

/-- A document has no id; its remaining fields are kept for the message. -/
structure IdFault where
  fields : Ordered Text Json
  deriving DecidableEq, Repr

def IdFault.message (f : IdFault) : Text :=
  "Document has no id: " ++ (Json.object f.fields).shown

namespace StoredDocument

def documentType : String := "_doc"

/-- The id to index a document under: its own, or else the value of its field `_id`, whichever
counts as set. -/
def indexId? (d : StoredDocument) : Option Json :=
  if d.id.isSet then some d.id
  else (Ordered.find? d.toMembers idField).filter Json.isSet

def source (d : StoredDocument) : Ordered Text Json := Ordered.erase d.toMembers idField

def bulkLines (d : StoredDocument) : Except IdFault (List Json) :=
  match d.indexId? with
  | none => .error ⟨d.source⟩
  | some id =>
    .ok [
      .object [("index", .object [("_type", .string documentType), (idField, id)])],
      .object d.source]

/-- The body of a bulk request: one line of text after another, each closed by a line feed. Fails
with the first document that has no id. -/
def bulkBody (ds : List StoredDocument) : Except IdFault String := do
  let lines ← ds.mapM bulkLines
  pure (String.ofList (lines.flatten.flatMap fun v => v.write ++ ['\n']))

end StoredDocument

/-- A bulk reply that is refused as a value of the wrong shape, or that reports a failed item. -/
inductive BulkFault where
  | rejected (cause : Option Json)
  | shape (fault : ShapeFault)
  deriving DecidableEq, Repr

/-- The error of a failed item, or that no item names one. -/
def BulkFault.causeText : Option Json → Text
  | some v => v.shown
  | none => "unknown error"

namespace BulkReply

def actionError? (actions : Ordered Text Json) : Option Json :=
  actions.findSome? fun a => a.2.field? "error"

/-- The first error that the items name, in order. Every item looked at has to be an object. -/
def firstError : List Json → Except ShapeFault (Option Json)
  | [] => .ok none
  | .object actions :: rest =>
    match actionError? actions with
    | some e => .ok (some e)
    | none => firstError rest
  | _ :: _ => .error .noMembers

/-- Whether a bulk request succeeded: its reply is no object or has no `errors` that are set. -/
def check (root : Json) : Except BulkFault Unit :=
  if ((root.field? "errors").map Json.isSet).getD false then
    match ((root.field? "items").getD (.array [])).sequence with
    | .error fault => .error (.shape fault)
    | .ok items =>
      match firstError items with
      | .error fault => .error (.shape fault)
      | .ok cause => .error (.rejected cause)
  else .ok ()

end BulkReply

end SearchBridge
