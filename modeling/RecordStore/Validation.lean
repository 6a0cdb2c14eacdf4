/-
Validation of named fields: the ways in which a field can be wrong and the list of complaints a
rejected record carries, in the order of its fields.
-/
namespace RecordStore

/-- What is wrong with a field. -/
inductive Problem where
  | notInteger
  | negative
  | notText
  | notUnicode
  | blankOrder
  | notNumber
  | unreadableNumber
  | notBool
  | unreadableBool
  | notSettings
  /-- The settings that the field holds could not be built from what was given. -/
  | refused (why : String)
  deriving DecidableEq, Repr

namespace Problem

/-- The code a problem is reported under. -/
def code : Problem → String
  | .notInteger => "int_type"
  | .negative => "greater_than_equal"
  | .notText => "string_type"
  | .notUnicode => "string_unicode"
  | .blankOrder => "value_error"
  | .notNumber => "float_type"
  | .unreadableNumber => "float_parsing"
  | .notBool => "bool_type"
  | .unreadableBool => "bool_parsing"
  | .notSettings => "model_type"
  | .refused _ => "value_error"

/-- The explanation a problem is reported with. -/
def message : Problem → String
  | .notInteger => "Input should be a valid integer"
  | .negative => "Input should be greater than or equal to 0"
  | .notText => "Input should be a valid string"
  | .notUnicode => "Input should be a valid string, unable to parse raw data as a unicode string"
  | .blankOrder => "Value error, order_by must not be blank"
  | .notNumber => "Input should be a valid number"
  | .unreadableNumber => "Input should be a valid number, unable to parse string as a number"
  | .notBool => "Input should be a valid boolean"
  | .unreadableBool => "Input should be a valid boolean, unable to interpret input"
  | .notSettings => "Input should be a valid dictionary or instance of DatabaseSettings"
  | .refused why => "Value error, " ++ why

end Problem

/-- A problem and the path of the field that has it. -/
structure Complaint where
  path : List String
  problem : Problem
  deriving DecidableEq, Repr

/-- The complaint about a checked field, if it was rejected. -/
def complaints {α : Type} (field : String) : Except Problem α → List Complaint
  | .ok _ => []
  | .error p => [⟨[field], p⟩]

/-- The headline of a rejected record: how many complaints there are, and about what. -/
def complaintHeadline (cs : List Complaint) (what : String) : String :=
  let plural := if cs.length = 1 then "" else "s"
  toString cs.length ++ " validation error" ++ plural ++ " for " ++ what

end RecordStore
