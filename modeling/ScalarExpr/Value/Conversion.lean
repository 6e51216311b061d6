import ScalarExpr.Value.Text
/-!
The kinds of result of an evaluation by rows, and what each value is as a result of each kind.
-/
namespace ScalarExpr

inductive Kind
  | int
  | real
  | text
  deriving DecidableEq

namespace Kind

/-- An integer result is 64 bits, whose sign only the type of the expression decides. -/
@[reducible] def Item : Kind → Type
  | int => Int64
  | real => Binary64
  | text => String

def name : Kind → String
  | int => "int"
  | real => "real"
  | text => "string"

end Kind

namespace Value

def asInt : Value → Except Error (Option Int64)
  | null => .ok none
  | int n => .ok (some n)
  | uint n => .ok (some n.toInt64)
  | v => .error (.typeMismatch "INT64" v.kindName)

def asReal : Value → Except Error (Option Binary64)
  | null => .ok none
  | real x => .ok (some x)
  | int n => .ok (some (.ofInt n.toInt))
  | uint n => .ok (some (.ofInt n.toNat))
  | decimal n scale => .ok (some (.ofUnscaled n.toInt scale.toInt))
  | v => .error (.typeMismatch "FLOAT64" v.kindName)

def asText : Value → Except Fault (Option String)
  | null => .ok none
  | v => v.render.map some

/-- A value as a result of the given kind; NULL is none. -/
def as (v : Value) : (k : Kind) → Except Failure (Option k.Item)
  | .int => v.asInt.mapError .error
  | .real => v.asReal.mapError .error
  | .text => v.asText.mapError .fault

end Value
end ScalarExpr
