import SearchBridge.Bytes.Unicode
import SearchBridge.Http.ContentType
import SearchBridge.Http.Status
import SearchBridge.Json.Reader
import SearchBridge.Text.Quoted
/-!
Requests, what they may meet, and what of a response is kept: its status, a message and the JSON
value of its body.
-/

namespace SearchBridge

namespace Http

inductive Method where
  | post
  | get
  | delete
  deriving DecidableEq, Repr

def Method.text : Method → String
  | .post => "POST"
  | .get => "GET"
  | .delete => "DELETE"

structure Request where
  method : Method
  url : String
  body : Option String
  contentType : Option String
  deriving DecidableEq, Repr

def jsonType : String := "application/json"

def linesType : String := "application/x-ndjson"

/-- A POST; with an empty content type none is sent. -/
def post (url body : String) (contentType : String) : Request :=
  ⟨.post, url, some body, if contentType = "" then none else some contentType⟩

def delete (url body : String) : Request := ⟨.delete, url, some body, some jsonType⟩

def get (url : String) : Request := ⟨.get, url, none, none⟩

/-- A response. `phrase` is the reason phrase that came with its status, if one came. `depth` says
how many containers of its body may stand in one another: whatever reads the body sets that limit,
and the limit is lower the more calls are under way. -/
structure Response where
  status : Int
  body : List UInt8
  contentType : Option String
  phrase : Option (List UInt8)
  depth : Nat
  deriving DecidableEq, Repr

/-- A fault below the connection itself; it is not taken for an unreachable engine. -/
inductive NetworkFault where
  | invalidUrl (message : String)
  | broken (message : String)
  /-- A header holds a text that cannot be sent. -/
  | unencodable (message : String)
  deriving DecidableEq, Repr

def NetworkFault.message : NetworkFault → String
  | .invalidUrl m | .broken m | .unencodable m => m

inductive Outcome where
  | response (r : Response)
  | unreachable (reason : String)
  | fault (f : NetworkFault)
  deriving DecidableEq, Repr

/-- Why nothing can be made of a response. -/
inductive ResponseFault where
  /-- Too many containers stand in one another. -/
  | nested (c : Json.Container)
  | contentType (f : ContentType.Fault)
  | charset (f : CharsetFault)
  deriving DecidableEq, Repr

def ResponseFault.message : ResponseFault → String
  | .nested c =>
    let kind := match c with
      | .array => "array"
      | .object => "object"
    "maximum recursion depth exceeded while decoding a JSON " ++ kind ++ " from a unicode string"
  | .contentType f => f.message
  | .charset f => f.message

/-- Why an exchange fails although something answered, or before anything could. -/
inductive ExchangeFault where
  | network (f : NetworkFault)
  | response (f : ResponseFault)
  deriving DecidableEq, Repr

def ExchangeFault.message : ExchangeFault → String
  | .network f => f.message
  | .response f => f.message

/-- Why a request is not answered when no answer is left. -/
def silence : String := "no scripted response"

/-- What is kept of a response. -/
structure Reply where
  status : Int
  message : Text
  json : Json
  deriving DecidableEq, Repr

namespace Response

/-- The reason phrase: the ASCII octets of the one that came with the status, or the standard one of
the status if none came. -/
def reason (r : Response) : String :=
  match r.phrase with
  | some octets => String.ofList ((octets.filter (· < 0x80)).map fun o => Char.ofNat o.toNat)
  | none => reasonPhrase r.status

/-- The body as text, in the character set that the content type names or else in UTF-8. -/
def text (r : Response) : Except ResponseFault Text :=
  if r.body.isEmpty then .ok []
  else do
    let charset ← ((r.contentType.map ContentType.charset?).getD (.ok none)).mapError .contentType
    ((charset.getD .utf8).decode true r.body).mapError .charset

/-- The JSON value of the body; one that is no JSON text counts as null. -/
def json (r : Response) : Except ResponseFault Json :=
  match Unicode.decodeDetected? r.body with
  | none => .ok .null
  | some t =>
    match Json.readWithin r.depth t with
    | .ok v => .ok v
    | .error .malformed => .ok .null
    | .error (.nested c) => .error (.nested c)

/-- The message of a response: its reason phrase if it is a success, and otherwise the text of the
body if there is one. -/
def message (r : Response) : Except ResponseFault Text :=
  if r.status = 200 then .ok r.reason
  else r.text.map fun t => if t.isEmpty then (r.reason : Text) else t

/-- What is kept of a response. The value of the body is read before its text. -/
def toReply (r : Response) : Except ResponseFault Reply := do
  let json ← r.json
  pure ⟨r.status, ← r.message, json⟩

end Response

end Http

end SearchBridge
