/-!
# Issues

What a value is found to lack when it is held against what is expected of it, and where.
-/

namespace Scaffold.Schema

/-- A step from a value to a part of it. -/
inductive Key where
  | field (name : String)
  | index (n : Nat)
  deriving DecidableEq, Repr

/-- What is wrong with a part of a value. -/
inductive Defect where
  | missing
  | extraField
  | notBool
  | unreadableBool
  | notInt
  | unreadableInt
  | tooLongInt
  | fractionalInt
  | notFinite
  | notFloat
  | unreadableFloat
  | notText
  | notList
  | notMap
  /-- The value should be a map with the fields of the named kind of record. -/
  | notRecord (kind : String)
  /-- The value, read from JSON, should be an object with the fields of a record. -/
  | notObject
  /-- The value, read from JSON, should be an object. -/
  | notJsonObject
  | notJsonArray
  | invalidJson (message : String)
  deriving DecidableEq, Repr

/-- The short name of a defect. -/
def Defect.code : Defect → String
  | missing => "missing"
  | extraField => "extra_forbidden"
  | notBool => "bool_type"
  | unreadableBool => "bool_parsing"
  | notInt => "int_type"
  | unreadableInt => "int_parsing"
  | tooLongInt => "int_parsing_size"
  | fractionalInt => "int_from_float"
  | notFinite => "finite_number"
  | notFloat => "float_type"
  | unreadableFloat => "float_parsing"
  | notText => "string_type"
  | notList => "list_type"
  | notJsonArray => "list_type"
  | notMap => "dict_type"
  | notJsonObject => "dict_type"
  | notRecord _ => "model_type"
  | notObject => "model_type"
  | invalidJson _ => "json_invalid"

/-- The words for a defect. -/
def Defect.message : Defect → String
  | missing => "Field required"
  | extraField => "Extra inputs are not permitted"
  | notBool => "Input should be a valid boolean"
  | unreadableBool => "Input should be a valid boolean, unable to interpret input"
  | notInt => "Input should be a valid integer"
  | unreadableInt => "Input should be a valid integer, unable to parse string as an integer"
  | tooLongInt => "Unable to parse input string as an integer, exceeded maximum size"
  | fractionalInt => "Input should be a valid integer, got a number with a fractional part"
  | notFinite => "Input should be a finite number"
  | notFloat => "Input should be a valid number"
  | unreadableFloat => "Input should be a valid number, unable to parse string as a number"
  | notText => "Input should be a valid string"
  | notList => "Input should be a valid list"
  | notJsonArray => "Input should be a valid array"
  | notMap => "Input should be a valid dictionary"
  | notJsonObject => "Input should be an object"
  | notRecord kind => "Input should be a valid dictionary or instance of " ++ kind
  | notObject => "Input should be an object"
  | invalidJson message => message

/-- A defect and the place where it was found. -/
structure Issue where
  defect : Defect
  place : List Key
  deriving DecidableEq, Repr

/-- The same issue seen from a value around it. -/
def Issue.within (key : Key) (i : Issue) : Issue := { i with place := key :: i.place }

end Scaffold.Schema
