import ScalarExpr.Expr.Basic
import ScalarExpr.Value.Text
/-!
The text of an expression: names, literals, and calls with their arguments in parentheses.
-/
namespace ScalarExpr

/-- The name, or the identity of a column without one. -/
def ColumnRef.text (c : ColumnRef) : String :=
  if c.name.isEmpty then "Column#" ++ toString c.id.toInt else c.name

namespace Expr

mutual

def render : Expr → Except Fault String
  | column c => .ok c.text
  | outer c _ _ => .ok c.text
  | literal v _ _ => v.render
  | call head args _ => do
    let texts ← renderAll args
    return head.name.lower ++ "(" ++ ", ".intercalate texts ++ ")"

def renderAll : List Expr → Except Fault (List String)
  | [] => .ok []
  | e :: es => do
    let text ← e.render
    let texts ← renderAll es
    return text :: texts

end

end Expr
end ScalarExpr
