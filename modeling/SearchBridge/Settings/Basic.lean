import SearchBridge.Export.Scroll
import SearchBridge.Schema.Coercion
/-!
The settings of an export.

They are read from bindings of names to values, those given directly before those of the
environment, and without regard to the case of the names. Of several bindings of one setting the
first one that is given directly counts, else the last one of the environment. Every setting at
fault is reported; names that are given directly and mean nothing are at fault too, names of the
environment are not.
-/

namespace SearchBridge

structure Settings where
  logLevel : String
  url : String
  keepAlive : String
  continuation : String
  batchSize : Int
  queueSize : Int
  enqueueTimeout : Binary64
  requestTimeout : Binary64
  deriving DecidableEq, Repr

namespace Settings

/-- The lower case of a character of a setting's name. Outside ASCII only the Kelvin sign has a
lower case inside it. -/
def foldChar (c : Char) : Char := if c = '\u212A' then 'k' else c.toLower

def foldName (name : String) : String := String.ofList (name.toList.map foldChar)

/-- The values that bindings give to a setting. -/
def valuesOf (bindings : List (String × Json)) (name : String) : List Json :=
  (bindings.filter fun b => foldName b.1 = foldName name).map (·.2)

/-- The names of the settings, in the order in which faults are reported. -/
def names : List String := [
  "log_level", "ES_URL", "SCROLL_KEEP_ALIVE", "SCROLL_CONTINUATION_KEEP_ALIVE", "BATCH_SIZE",
  "QUEUE_SIZE", "ENQUEUE_TIMEOUT", "REQUEST_TIMEOUT"]

/-- The names given directly that mean nothing, in order. -/
def unknown (given : List (String × Json)) : List Issue :=
  (given.filter fun b => !names.any fun n => foldName n = foldName b.1).map fun b =>
    ⟨b.1, .unknownField⟩

def read (given : List (String × Json)) (environment : List (String × String)) :
    Except (List Issue) Settings :=
  let value? (name : String) : Option Json :=
    (valuesOf given name).head?.or
      (valuesOf (environment.map fun b => (b.1, .string b.2)) name).getLast?
  let logLevel := defaulted Coercion.text "INFO" (value? "log_level")
  let url := required Coercion.connection (value? "ES_URL")
  let keepAlive := defaulted Coercion.text "10m" (value? "SCROLL_KEEP_ALIVE")
  let continuation := defaulted Coercion.text "1m" (value? "SCROLL_CONTINUATION_KEEP_ALIVE")
  let batchSize := defaulted (Coercion.integerFrom 1) 1000 (value? "BATCH_SIZE")
  let queueSize := defaulted (Coercion.integerFrom 1) 10 (value? "QUEUE_SIZE")
  let enqueueTimeout :=
    defaulted Coercion.positive (.ofDecimal false 1 0) (value? "ENQUEUE_TIMEOUT")
  let requestTimeout :=
    defaulted Coercion.positive (.ofDecimal false 30 0) (value? "REQUEST_TIMEOUT")
  match logLevel, url, keepAlive, continuation, batchSize, queueSize, enqueueTimeout,
      requestTimeout, unknown given with
  | .ok logLevel, .ok url, .ok keepAlive, .ok continuation, .ok batchSize, .ok queueSize,
      .ok enqueueTimeout, .ok requestTimeout, [] =>
    .ok ⟨logLevel, url, keepAlive, continuation, batchSize, queueSize, enqueueTimeout,
      requestTimeout⟩
  | _, _, _, _, _, _, _, _, unknown =>
    .error ([Issue.of? "log_level" logLevel, Issue.of? "ES_URL" url,
      Issue.of? "SCROLL_KEEP_ALIVE" keepAlive,
      Issue.of? "SCROLL_CONTINUATION_KEEP_ALIVE" continuation,
      Issue.of? "BATCH_SIZE" batchSize, Issue.of? "QUEUE_SIZE" queueSize,
      Issue.of? "ENQUEUE_TIMEOUT" enqueueTimeout,
      Issue.of? "REQUEST_TIMEOUT" requestTimeout].filterMap id ++ unknown)

def toMembers (s : Settings) : List (String × Json) := [
  ("log_level", .string s.logLevel), ("ES_URL", .string s.url),
  ("SCROLL_KEEP_ALIVE", .string s.keepAlive),
  ("SCROLL_CONTINUATION_KEEP_ALIVE", .string s.continuation),
  ("BATCH_SIZE", .int s.batchSize), ("QUEUE_SIZE", .int s.queueSize),
  ("ENQUEUE_TIMEOUT", .number (.real s.enqueueTimeout)),
  ("REQUEST_TIMEOUT", .number (.real s.requestTimeout))]

end Settings

end SearchBridge
