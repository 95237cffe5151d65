/-!
# Faults of form fields

* `FieldFault`: why a value does not do for a field, with the name by which it is reported.
* `FieldError`: a fault with the place of the value.
-/

namespace Electorate

/-- Why a value does not do for a field. -/
inductive FieldFault where
  | missing
  | wholeType | wholeSyntax | wholeSize | notWhole | notFinite
  | realType | realSyntax
  | textType
  | dateType | dateSyntax | dateInexact
  | idType | idSyntax
  | notAbove | notAtLeast | notAtMost
  | notListed
  /-- Refused with a reason. -/
  | refused (reason : String)
deriving DecidableEq, Repr

/-- The name of a fault. -/
def FieldFault.name : FieldFault → String
  | missing => "missing"
  | wholeType => "int_type"
  | wholeSyntax => "int_parsing"
  | wholeSize => "int_parsing_size"
  | notWhole => "int_from_float"
  | notFinite => "finite_number"
  | realType => "float_type"
  | realSyntax => "float_parsing"
  | textType => "string_type"
  | dateType => "date_type"
  | dateSyntax => "date_from_datetime_parsing"
  | dateInexact => "date_from_datetime_inexact"
  | idType => "uuid_type"
  | idSyntax => "uuid_parsing"
  | notAbove => "greater_than"
  | notAtLeast => "greater_than_equal"
  | notAtMost => "less_than_equal"
  | notListed => "enum"
  | refused _ => "value_error"

/-- The wording of a refusal. -/
def FieldFault.message? : FieldFault → Option String
  | refused reason => some ("Value error, " ++ reason)
  | _ => none

/-- A fault and the place of the value: names from the outside to the inside. -/
structure FieldError where
  place : List String
  fault : FieldFault
deriving DecidableEq, Repr

end Electorate
