/-! What is wrong with the values of a configuration, and where.
-/

namespace RideQuestions.Config

/-- A step into a configuration: a field or key, or a place in a list. -/
inductive Step where
  | key (name : String)
  | index (i : Nat)
  deriving DecidableEq

inductive IssueKind where
  | missing
  | extraForbidden
  | intType
  | intParsing
  | intFromFloat
  | intParsingSize
  | finiteNumber
  | floatType
  | floatParsing
  | stringType
  | boolType
  | boolParsing
  | listType
  | mapType
  | formType
  | greaterThanEqual
  | lessThanEqual
  | frozenInstance
  | noSuchAttribute
  | valueError
  | enum
  deriving DecidableEq

/-- The code by which an issue is reported. -/
def IssueKind.code : IssueKind → String
  | missing => "missing"
  | extraForbidden => "extra_forbidden"
  | intType => "int_type"
  | intParsing => "int_parsing"
  | intFromFloat => "int_from_float"
  | intParsingSize => "int_parsing_size"
  | finiteNumber => "finite_number"
  | floatType => "float_type"
  | floatParsing => "float_parsing"
  | stringType => "string_type"
  | boolType => "bool_type"
  | boolParsing => "bool_parsing"
  | listType => "list_type"
  | mapType => "dict_type"
  | formType => "model_type"
  | greaterThanEqual => "greater_than_equal"
  | lessThanEqual => "less_than_equal"
  | frozenInstance => "frozen_instance"
  | noSuchAttribute => "no_such_attribute"
  | valueError => "value_error"
  | enum => "enum"

structure Issue where
  location : List Step
  kind : IssueKind
  deriving DecidableEq

/-- An issue of the value itself. -/
def Issue.here (kind : IssueKind) : Issue :=
  ⟨[], kind⟩

/-- The issue seen from one step further out. -/
def Issue.under (step : Step) (issue : Issue) : Issue :=
  { issue with location := step :: issue.location }

end RideQuestions.Config
