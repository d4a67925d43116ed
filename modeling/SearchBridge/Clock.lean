import SearchBridge.Json.Basic
import SearchBridge.Text.Numeral
import SearchBridge.Text.Quoted
/-!
The clock: a list of readings in milliseconds, of which the last one repeats. A reading may fail,
and then so does what needs it.
-/

namespace SearchBridge

/-- A reading that is no point in time. -/
inductive ClockFault where
  | infinite
  | notANumber
  /-- A text was read that is no numeral. -/
  | notNumeral (t : Text)
  | longNumeral (digits : Nat)
  /-- Neither a number nor a text was read. -/
  | notNumber (v : Json)
  deriving DecidableEq, Repr

def ClockFault.message : ClockFault → Text
  | .infinite => "cannot convert float infinity to integer"
  | .notANumber => "cannot convert float NaN to integer"
  | .notNumeral t =>
    "invalid literal for int() with base 10: " ++ String.ofList ((Text.quotedChars t).take 200)
  | .longNumeral digits => Text.Numeral.lengthMessage digits
  | .notNumber (.array _) =>
    "int() argument must be a string, a bytes-like object or a real number, not 'list'"
  | .notNumber (.object _) => "unsupported operand type(s) for *: 'dict' and 'int'"
  | .notNumber _ => "unsupported operand type(s) for *: 'NoneType' and 'int'"

abbrev ClockReading := Except ClockFault Int

structure Clock where
  current : ClockReading
  later : List ClockReading

namespace Clock

def start : Clock := ⟨.ok 0, []⟩

/-- Whole milliseconds of a number of seconds: exact for an integer, one rounded product
otherwise. -/
def millis : Number → ClockReading
  | .int t => .ok (t * 1000)
  | .real .nan => .error .notANumber
  | .real x => ((x.scale 1000).truncate?).elim (.error .infinite) .ok

/-- Whole milliseconds of a text: the numeral that it becomes when it is repeated as often as a
second has milliseconds. -/
def repeatedMillis (t : Text) : ClockReading :=
  let t : Text := (List.replicate 1000 t).flatten
  match Text.readInt? t with
  | some i => .ok i
  | none =>
    match (Text.chars? t).bind (Text.Numeral.digits? Text.digitValue?) with
    | some ds => .error (.longNumeral ds.length)
    | none => .error (.notNumeral t)

def reading : Json → ClockReading
  | .number n => millis n
  | .bool b => millis (.int b.toNat)
  | .string t => repeatedMillis t
  | v => .error (.notNumber v)

def read (c : Clock) : ClockReading × Clock :=
  (c.current, match c.later with
    | [] => c
    | t :: ts => ⟨t, ts⟩)

end Clock

end SearchBridge
