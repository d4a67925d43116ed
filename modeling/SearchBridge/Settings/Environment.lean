import SearchBridge.Bytes.Utf8
import SearchBridge.Text.Split
/-!
The variables of a process: which ones can be set, and reading them from one block of octets in
which `NAME=value` entries are each closed by a zero octet.
-/

namespace SearchBridge

inductive VariableFault where
  | zero
  | equalsSign
  | noName
  deriving DecidableEq, Repr

def VariableFault.message : VariableFault → String
  | .zero => "embedded null byte"
  | .equalsSign => "illegal environment variable name"
  | .noName => "Invalid argument"

namespace Environment

/-- A variable that can be set: it has a name without an equals sign and no zero character. -/
def binding (name value : String) : Except VariableFault (String × String) :=
  if name.toList.contains '\x00' || value.toList.contains '\x00' then .error .zero
  else if name.toList.contains '=' then .error .equalsSign
  else if name.isEmpty then .error .noName
  else .ok (name, value)

def entry? (cs : List Char) : Option (String × String) :=
  let name := cs.takeWhile (· ≠ '=')
  match cs.drop name.length with
  | _ :: value => some (String.ofList name, String.ofList value)
  | [] => none

/-- The variables of a block, in order. -/
def ofBlock (block : List UInt8) : List (String × String) :=
  (Text.splitOn '\x00' (Utf8.pieces false block).lossy.toDisplay.toList).filterMap entry?

end Environment

end SearchBridge
