import ScalarExpr.Expr.Basic
/-!
Structural equality of expressions. Columns are equal by identity, literals by value and category,
calls by lowercase name, function and arguments.
-/
namespace ScalarExpr.Expr

mutual

def same : Expr → Expr → Bool
  | column c, column d => c.id = d.id
  | outer c _ _, outer d _ _ => c.id = d.id
  | literal v t _, literal w u _ => t.category = u.category && v.same w
  | call f args _, call g args' _ =>
    f.name.lower = g.name.lower && f.builtin.same g.builtin
      && (!f.builtin.comparesArguments || allSame args args')
  | _, _ => false

/-- Lists of one length, equal place by place. -/
def allSame : List Expr → List Expr → Bool
  | [], [] => true
  | a :: as, b :: bs => a.same b && allSame as bs
  | _, _ => false

end

end ScalarExpr.Expr
