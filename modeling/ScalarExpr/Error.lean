import ScalarExpr.Column.Type
/-!
Why building or evaluating an expression fails. An `Error` is an answer to the caller and has a
message; a `Fault` is a broken limit of the machine that no caller handles and that has none.
-/
namespace ScalarExpr

inductive ColumnError
  | castUnsupported (source target : ColumnType)
  | decimalCastScale (scale : Int8)
  | unrepresentableMoment (count : Int) (type : ColumnType)
  | unrepresentableDate (count : Int) (type : ColumnType)
  | unknownZone (zone : String)
  | scaleAboveLimit (scale : Int8)
  | scaleAbovePrecision (scale : Int8) (precision : UInt8)
  deriving DecidableEq

namespace ColumnError

def cast (what : String) : String := "Cast error: " ++ what

def invalidArgument (what : String) : String := "Invalid argument error: " ++ what

def message : ColumnError → String
  | castUnsupported source target =>
    cast ("Casting from " ++ source.text ++ " to " ++ target.text ++ " not supported")
  | decimalCastScale scale =>
    cast ("Cannot cast to \"Decimal128\". The scale " ++ toString scale.toInt
      ++ " causes overflow.")
  | unrepresentableMoment count type =>
    cast ("Failed to convert " ++ toString count ++ " to datetime for " ++ type.text)
  | unrepresentableDate count type =>
    cast ("Failed to convert " ++ toString count ++ " to temporal for " ++ type.text)
  | unknownZone zone =>
    "Parser error: Invalid timezone \"" ++ zone
      ++ "\": only offset based timezones supported without chrono-tz feature"
  | scaleAboveLimit scale =>
    invalidArgument ("scale " ++ toString scale.toInt ++ " is greater than max 38")
  | scaleAbovePrecision scale precision =>
    invalidArgument ("scale " ++ toString scale.toInt ++ " is greater than precision "
      ++ toString precision.toNat)

end ColumnError

inductive Error
  | missingReturnType
  | unknownFunction (name : String)
  | wrongArgumentCount (function expected : String) (actual : Nat)
  | typeMismatch (expected actual : String)
  | columnNotFound (which : String)
  | divisionByZero
  | outOfRange (typeName operands : String)
  | unsupported (operation : String)
  | evaluation (reason : String)
  | column (cause : ColumnError)
  deriving DecidableEq

namespace Error

/-- The function has no evaluator for the kind of values asked for. -/
def noEvaluator (function values : String) : Error :=
  unsupported (function ++ " does not support " ++ values ++ " evaluation")

def message : Error → String
  | missingReturnType => "RetType cannot be nil for ScalarFunction"
  | unknownFunction name => "FUNCTION " ++ name ++ " does not exist"
  | wrongArgumentCount function expected actual =>
    "Incorrect parameter count in the call to native function '" ++ function ++ "': expected "
      ++ expected ++ ", got " ++ toString actual
  | typeMismatch expected actual => "Type error: expected " ++ expected ++ ", got " ++ actual
  | columnNotFound which => "Can't find column " ++ which ++ " in schema"
  | divisionByZero => "Division by zero"
  | outOfRange typeName operands => typeName ++ " value is out of range in '" ++ operands ++ "'"
  | unsupported operation => "Unsupported operation: " ++ operation
  | evaluation reason => "Evaluation error: " ++ reason
  | column cause => "Arrow error: " ++ cause.message

end Error

/-- A limit of the machine: an integer result outside its width, a position outside a list, or a
column of a type that its buffer does not hold. -/
inductive Fault
  | integerOverflow
  | outOfBounds
  | foreignContent
  deriving DecidableEq

inductive Failure
  | error (cause : Error)
  | fault (cause : Fault)
  deriving DecidableEq

/-- A result that only a fault can prevent, among results that errors prevent too. -/
def Failure.ofFault {α : Type} : Except Fault α → Except Failure α
  | .ok a => .ok a
  | .error f => .error (.fault f)

end ScalarExpr
