import SearchBridge.Clock
import SearchBridge.Connection
import SearchBridge.Document.Bulk
import SearchBridge.Export.PageSize
import SearchBridge.Fault
import SearchBridge.Http.Exchange
import SearchBridge.Log
import SearchBridge.Search.Query
/-!
Everything that can stop an operation on a collection.
-/

namespace SearchBridge

inductive Failure where
  | connection (fault : ConnectionFault)
  /-- Nothing answered the request. -/
  | unreachable (method : Http.Method) (url : String) (reason : String)
  /-- The engine answered with another status than 200. -/
  | refused (status : Int) (message : Text)
  /-- The reply lacks a required container. -/
  | reply (fault : ReplyFault)
  /-- A bulk request was answered with a failed item. -/
  | bulk (cause : Option Json)
  /-- The exchange failed in another way than by no answer. -/
  | exchange (fault : Http.ExchangeFault)
  | facet (fault : FacetFault)
  | unidentified (fault : IdFault)
  | shape (fault : ShapeFault)
  | clock (fault : ClockFault)
  /-- A page size below one. -/
  | batchSize (size : Export.PageSize)
  | alreadyStarted
  deriving DecidableEq, Repr

namespace Failure

def message : Failure → Text
  | .connection fault => fault.message
  | .unreachable method url reason => method.text ++ " " ++ url ++ " failed: " ++ reason
  | .refused _ m => m
  | .reply fault => fault.message
  | .bulk cause => "Bulk index failed: " ++ BulkFault.causeText cause
  | .exchange fault => fault.message
  | .facet fault => fault.message
  | .unidentified fault => fault.message
  | .shape fault => fault.message
  | .clock fault => fault.message
  | .batchSize size => "batch_size must be positive, got " ++ size.text
  | .alreadyStarted => "Exporter already started"

end Failure

namespace Http

def Request.lost (r : Request) (reason : String) : Failure := .unreachable r.method r.url reason

def Request.settle (r : Request) : Outcome → Except Failure Reply
  | .response response => response.toReply.mapError fun fault => .exchange (.response fault)
  | .unreachable reason => .error (r.lost reason)
  | .fault fault => .error (.exchange (.network fault))

/-- What is logged about a request: that nothing answers it. -/
def Request.log (r : Request) : Outcome → List Log.Line
  | .unreachable reason => [⟨.error, (r.lost reason).message⟩]
  | _ => []

def Reply.accepted (r : Reply) : Except Failure Json :=
  if r.status = 200 then .ok r.json else .error (.refused r.status r.message)

/-- The JSON value that a request brings if it is answered with status 200. -/
def Request.fetch (r : Request) (o : Outcome) : Except Failure Json := do
  (← r.settle o).accepted

end Http

end SearchBridge
