import SearchBridge.Http.Exchange
/-!
Recorded outcomes of requests, one JSON object per line.

The member `unreachable` gives the reason why nothing answers. Without it the members `status`,
`phrase`, `content_type` and `body` describe a response; 200 is the status and nothing the body by
default.
-/

namespace SearchBridge

namespace Http

/-- How many containers of a recorded body may stand in one another. -/
def recordedDepth : Nat := 980

/-- A response as it is recorded without a reason phrase. -/
def Response.recorded (status : Int) (body : List UInt8) (contentType : Option String) : Response :=
  ⟨status, body, contentType, none, recordedDepth⟩

def Outcome.ofJson (v : Json) : Outcome :=
  let text? (name : String) : Option String :=
    match v.field? name with
    | some (.string s) => s.string?
    | _ => none
  let status : Int :=
    match v.field? "status" with
    | some (.number (.int i)) => i
    | _ => 200
  match text? "unreachable" with
  | some reason => .unreachable reason
  | none =>
    let r := Response.recorded status (Utf8.encode ((text? "body").getD "")) (text? "content_type")
    .response { r with phrase := (text? "phrase").map Utf8.encode }

/-- The outcomes that lines record. A line that is no JSON text records nothing. -/
def Outcome.ofLines (lines : List String) : List Outcome :=
  lines.filterMap fun line => (Json.read? (Text.ofString line)).map Outcome.ofJson

end Http

end SearchBridge
