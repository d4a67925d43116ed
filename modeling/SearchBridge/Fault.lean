import SearchBridge.Json.Basic
/-!
What can be wrong with a reply of the engine, and with a value that is used in a way its kind does
not allow.
-/

namespace SearchBridge

/-- A container that a reply should have and has not. -/
inductive ReplyFault where
  | noObject (name : String)
  | noHits
  | noAggregation (field : Text)
  | noBuckets (field : Text)
  | noDocuments
  | noCursor
  deriving DecidableEq, Repr

def ReplyFault.message : ReplyFault → Text
  | .noObject name => "Response has no '" ++ name ++ "' object"
  | .noHits => "Search response has no 'hits.hits' array"
  | .noAggregation field => "Facet response has no aggregation for field '" ++ field ++ "'"
  | .noBuckets field => "Aggregation for field '" ++ field ++ "' has no 'buckets' array"
  | .noDocuments => "Multi-get response has no 'docs' array"
  | .noCursor => "Scroll response has no '_scroll_id'"

/-- A value of the wrong kind for its use: it cannot be gone through item by item, it is no text, it
holds other values and so can be no member of a set and no name, or it has no members to look at. -/
inductive ShapeFault where
  | notSequence
  | notText
  | notSetMember (c : Json.Container)
  | noMembers
  deriving DecidableEq, Repr

def ShapeFault.message : ShapeFault → String
  | .notSequence => "value is no sequence"
  | .notText => "value is no text"
  | .notSetMember .array => "unhashable type: 'list'"
  | .notSetMember .object => "unhashable type: 'dict'"
  | .noMembers => "value has no members"

def Json.sequence (v : Json) : Except ShapeFault (List Json) :=
  v.elements?.elim (.error .notSequence) .ok

def Json.requireObject (root : Json) (name : String) : Except ReplyFault (Ordered Text Json) :=
  ((root.field? name).bind Json.members?).elim (.error (.noObject name)) .ok

end SearchBridge
