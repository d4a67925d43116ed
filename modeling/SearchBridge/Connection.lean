/-!
Connection strings `<scheme>://<host>[:<port>]/<collection>[/]`.

The engine root and the collection are told apart at the last `/` after the scheme, one trailing
`/` not counted.
-/

namespace SearchBridge

inductive ConnectionFault where
  | noScheme
  | noCollection
  | emptyPart (given : String)
  deriving DecidableEq, Repr

namespace ConnectionFault

def message : ConnectionFault → String
  | .noScheme =>
    "Invalid connection string. Expected format: http://localhost:9200/my_collection"
  | .noCollection =>
    "can't find / before collection name; should be, e.g.: http://localhost:9200/my_collection"
  | .emptyPart given => "Missing host or collection name in connection string: " ++ given

end ConnectionFault

/-- Where a collection is: its own address and the root of the engine, both ending in `/`, and the
name of the collection, which has no `/`. -/
structure Connection where
  url : String
  engineRoot : String
  collection : String
  deriving DecidableEq, Repr

namespace Connection

def splitScheme? : List Char → Option (List Char × List Char)
  | [] => none
  | ':' :: '/' :: '/' :: r => some ([], r)
  | c :: r => (splitScheme? r).map fun (s, rest) => (c :: s, rest)

/-- The characters before and after the last `/`. -/
def splitLast? : List Char → Option (List Char × List Char)
  | [] => none
  | c :: r =>
    match splitLast? r with
    | some (front, back) => some (c :: front, back)
    | none => if c = '/' then some ([], r) else none

/-- The characters with a `/` at their end, put there unless one stands there already. -/
def closed (cs : List Char) : List Char :=
  if cs.getLast? = some '/' then cs else cs ++ ['/']

/-- Reads a connection string. Its scheme ends at the first `://`. Of what follows, the `/` at the
end not counted, the last `/` has the host part before it and the collection behind it, and neither
may be empty. -/
def parse (s : String) : Except ConnectionFault Connection :=
  let url := closed s.toList
  match splitScheme? s.toList, splitScheme? url with
  | some _, some (scheme, rest) =>
    match splitLast? rest.dropLast with
    | none => .error .noCollection
    | some (host, collection) =>
      if collection.isEmpty || host.isEmpty then .error (.emptyPart s)
      else
        .ok {
          url := String.ofList url
          engineRoot := String.ofList (scheme ++ "://".toList ++ host ++ ['/'])
          collection := String.ofList collection }
  | _, _ => .error .noScheme

end Connection

end SearchBridge
