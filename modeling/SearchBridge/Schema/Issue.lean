import SearchBridge.Connection
/-!
What can be wrong with a value given for a named field of a request or of the settings.
-/

namespace SearchBridge

inductive Complaint where
  | missing
  | notText
  | brokenText
  | notObject
  | notInteger
  | notIntegerText
  | fraction
  | notFinite
  | integerSize
  | notNumber
  | notNumberText
  | lessThan (least : Nat)
  | notAbove (limit : Nat)
  | badConnection (fault : ConnectionFault)
  | unknownField
  | readOnly
  deriving DecidableEq, Repr

namespace Complaint

def message : Complaint → String
  | .missing => "Field required"
  | .notText => "Input should be a valid string"
  | .brokenText =>
    "Input should be a valid string, unable to parse raw data as a unicode string"
  | .notObject => "Input should be a valid dictionary"
  | .notInteger => "Input should be a valid integer"
  | .notIntegerText => "Input should be a valid integer, unable to parse string as an integer"
  | .fraction => "Input should be a valid integer, got a number with a fractional part"
  | .notFinite => "Input should be a finite number"
  | .integerSize => "Unable to parse input string as an integer, exceeded maximum size"
  | .notNumber => "Input should be a valid number"
  | .notNumberText => "Input should be a valid number, unable to parse string as a number"
  | .lessThan least =>
    "Input should be greater than or equal to " ++ String.ofList (Nat.toDigits 10 least)
  | .notAbove limit => "Input should be greater than " ++ String.ofList (Nat.toDigits 10 limit)
  | .badConnection fault => "Value error, " ++ fault.message
  | .unknownField => "Extra inputs are not permitted"
  | .readOnly => "Instance is frozen"

def code : Complaint → String
  | .missing => "missing"
  | .notText => "string_type"
  | .brokenText => "string_unicode"
  | .notObject => "dict_type"
  | .notInteger => "int_type"
  | .notIntegerText => "int_parsing"
  | .fraction => "int_from_float"
  | .notFinite => "finite_number"
  | .integerSize => "int_parsing_size"
  | .notNumber => "float_type"
  | .notNumberText => "float_parsing"
  | .lessThan _ => "greater_than_equal"
  | .notAbove _ => "greater_than"
  | .badConnection _ => "value_error"
  | .unknownField => "extra_forbidden"
  | .readOnly => "frozen_instance"

end Complaint

structure Issue where
  field : String
  complaint : Complaint
  deriving DecidableEq, Repr

/-- The issue of a field that could not be read. -/
def Issue.of? {α : Type} (field : String) : Except Complaint α → Option Issue
  | .ok _ => none
  | .error c => some ⟨field, c⟩

end SearchBridge
