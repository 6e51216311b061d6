import ScalarExpr.Evaluation.Expr
import ScalarExpr.Planning.Event
/-!
Constant folding: calls that are the same for every row give way to their values, innermost first.
A call that fails is kept, and reports its error when it is evaluated for a row.
-/
namespace ScalarExpr

/-- The categories of calls that are folded: those that rows are evaluated to. -/
def Category.isFolded : Category → Bool
  | .int | .real | .text => true
  | .decimal | .datetime | .duration => false

namespace Expr

/-- The literal of a call whose arguments are folded, or the call itself where it is not constant,
not of a folded category, or fails. -/
def settle (head : CallHead) (args : List Expr) : Traced Expr := do
  let e := call head args none
  if e.isConstant && head.type.category.isFolded then
    match e.constantValue with
    | .ok v =>
      Traced.record (.folded e v)
      return literal v head.type none
    | .error (.error cause) =>
      Traced.record (.kept e cause)
      return e
    | .error (.fault f) => Traced.lift (.error f)
  else return e

mutual

def fold : Expr → Traced Expr
  | call head args _ => do settle head (← foldAll args)
  | column c => return column c
  | outer c slot memo => return outer c slot memo
  | literal v t memo => return literal v t memo

def foldAll : List Expr → Traced (List Expr)
  | [] => return []
  | e :: es => do
    let e ← e.fold
    let es ← foldAll es
    return e :: es

end

end Expr
end ScalarExpr
