import ScalarExpr.Column.Buffer
import ScalarExpr.Column.Chunk
import ScalarExpr.Generators
/-!
What an expression means to the calls it is an argument of: its text in messages, its result for a
row as a value or as a kind, and its results for a chunk as a column.
-/
namespace ScalarExpr

/-- What evaluation reads besides rows: the values of columns of enclosing queries by slot, and the
time in microseconds from the epoch. -/
structure Env where
  slots : List Value := []
  clock : Int := 0
  deriving Inhabited

/-- The value in a slot; NULL until one is bound. -/
def Env.slot (env : Env) (i : Nat) : Value := env.slots.getD i .null

structure Meaning where
  label : Unit → Except Fault String
  value : Row → Eval Value
  row : Row → (k : Kind) → Eval (Option k.Item)
  /-- The column of results, by the evaluator for the given category. -/
  column : Category → Chunk → Eval Column

namespace Meaning

/-- A leaf: its value for a row gives the results of every kind, and its column is the same for the
evaluators of all categories. -/
def leaf (label : Unit → Except Fault String) (value : Row → Except Failure Value)
    (column : Chunk → Except Failure Column) : Meaning where
  label := label
  value r := Eval.lift (value r)
  row r k := Eval.lift (do (← value r).as k)
  column _ input := Eval.lift (column input)

/-- The results for a chunk in a new buffer of the category that asks for them. -/
def buffer (m : Meaning) (c : Category) (input : Chunk) : Eval Buffer := do
  Eval.lift ((Buffer.empty c).fill (← m.column c input))

def buffers (ms : List Meaning) (c : Category) (input : Chunk) : Eval (List Buffer) :=
  ms.mapM (·.buffer c input)

/-- Two columns of results; both are there before either is looked at. -/
def buffers₂ (x y : Meaning) (c : Category) (input : Chunk) : Eval (Buffer × Buffer) := do
  let a ← x.buffer c input
  let b ← y.buffer c input
  return (a, b)

/-- The texts of operands around a symbol, in parentheses. -/
def infixText (symbol : String) (ms : List Meaning) : Except Fault String := do
  let texts ← ms.mapM (·.label ())
  return "(" ++ (" " ++ symbol ++ " ").intercalate texts ++ ")"

/-- The result of an operation on operands is outside the type. -/
def outOfRange (type : SqlType) (symbol : String) (ms : List Meaning) : Failure :=
  let typeName := match type.category with
    | .int => if type.isUnsigned then "BIGINT UNSIGNED" else "BIGINT"
    | _ => "DOUBLE"
  match infixText symbol ms with
  | .ok operands => .error (.outOfRange typeName operands)
  | .error f => .fault f

end Meaning

/-- The result of an operation on two slots; NULL if either is. -/
def zipSlots {α β γ ε : Type} (f : α → β → Except ε (Option γ)) :
    List (Option α) → List (Option β) → Except ε (List (Option γ))
  | some a :: as, some b :: bs => do
    let c ← f a b
    let cs ← zipSlots f as bs
    return c :: cs
  | _ :: as, _ :: bs => do
    let cs ← zipSlots f as bs
    return none :: cs
  | _, _ => .ok []

end ScalarExpr
