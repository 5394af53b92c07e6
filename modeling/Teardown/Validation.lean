import Teardown.Json.Value

/-!
# Validation reports

A value that does not fit its model is answered by a report: one issue for each field at fault,
in the order of the fields, and after them one for each key that the model does not know. An
issue without a field concerns the document as a whole.
-/

namespace Teardown

/-- What is wrong with one field. -/
inductive Issue where
  | missing
  | unknownKey
  | notText
  | emptyText
  | notInteger
  | integerText
  | integerSize
  | integerFraction
  | notFinite
  | notNumber
  | numberText
  | notAbove (bound : Nat)
  | notAtLeast (bound : Nat)
  | notAtMost (bound : Nat)
  | notDictionary
  | notObjectField
  | notObject
  | malformed
  | rejected (reason : String)
deriving DecidableEq, Repr

namespace Issue

/-- The tag of an issue. -/
def tag : Issue → String
  | .missing => "missing"
  | .unknownKey => "extra_forbidden"
  | .notText => "string_type"
  | .emptyText => "string_too_short"
  | .notInteger => "int_type"
  | .integerText => "int_parsing"
  | .integerSize => "int_parsing_size"
  | .integerFraction => "int_from_float"
  | .notFinite => "finite_number"
  | .notNumber => "float_type"
  | .numberText => "float_parsing"
  | .notAbove _ => "greater_than"
  | .notAtLeast _ => "greater_than_equal"
  | .notAtMost _ => "less_than_equal"
  | .notDictionary => "dict_type"
  | .notObjectField => "dict_type"
  | .notObject => "model_type"
  | .malformed => "json_invalid"
  | .rejected _ => "value_error"

/-- The text of an issue. -/
def message : Issue → String
  | .missing => "Field required"
  | .unknownKey => "Extra inputs are not permitted"
  | .notText => "Input should be a valid string"
  | .emptyText => "String should have at least 1 character"
  | .notInteger => "Input should be a valid integer"
  | .integerText => "Input should be a valid integer, unable to parse string as an integer"
  | .integerSize => "Unable to parse input string as an integer, exceeded maximum size"
  | .integerFraction => "Input should be a valid integer, got a number with a fractional part"
  | .notFinite => "Input should be a finite number"
  | .notNumber => "Input should be a valid number"
  | .numberText => "Input should be a valid number, unable to parse string as a number"
  | .notAbove bound => "Input should be greater than " ++ toString bound
  | .notAtLeast bound => "Input should be greater than or equal to " ++ toString bound
  | .notAtMost bound => "Input should be less than or equal to " ++ toString bound
  | .notDictionary => "Input should be a valid dictionary"
  | .notObjectField => "Input should be an object"
  | .notObject => "Input should be an object"
  | .malformed => "Invalid JSON"
  | .rejected reason => "Value error, " ++ reason

end Issue

/-- Why a value does not fit the model of a given name. -/
structure Report where
  model : String
  issues : List (Option String × Issue)
deriving DecidableEq, Repr

namespace Report

/-- A report about a whole document. -/
def whole (model : String) (issue : Issue) : Report where
  model := model
  issues := [(none, issue)]

/-- One issue under the name of its field. -/
def line (entry : Option String × Issue) : String :=
  (match entry.1 with
    | some field => "\n" ++ field
    | none => "") ++
    "\n  " ++ entry.2.message ++ " [type=" ++ entry.2.tag ++ "]"

/-- The text of a report. -/
def text (r : Report) : String :=
  toString r.issues.length ++
    (if r.issues.length = 1 then " validation error for " else " validation errors for ") ++
    r.model ++ String.join (r.issues.map line)

end Report

/-- The outcome of reading one field under its name. -/
abbrev Field (α : Type) := String × Except Issue α

/-- The issues of a field, none when it was read. -/
def Field.issues {α : Type} (field : Field α) : List (Option String × Issue) :=
  match field.2 with
  | .ok _ => []
  | .error issue => [(some field.1, issue)]

end Teardown
