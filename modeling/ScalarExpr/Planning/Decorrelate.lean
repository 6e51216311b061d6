import ScalarExpr.Planning.Event
import ScalarExpr.Schema
/-!
Decorrelation: columns of an enclosing query that a schema has become plain columns.
-/
namespace ScalarExpr.Expr

mutual

/-- Each such column is replaced in its own place; calls forget their keys. -/
def decorrelate (s : Schema) : Expr → Expr
  | outer c slot memo => if s.contains c.id then column c else outer c slot memo
  | call head args _ => call head (decorrelateAll s args) none
  | column c => column c
  | literal v t memo => literal v t memo

def decorrelateAll (s : Schema) : List Expr → List Expr
  | [] => []
  | e :: es => e.decorrelate s :: decorrelateAll s es

end

mutual

/-- The calls of a tree, each before those among its arguments. -/
def calls : Expr → List Expr
  | call head args memo => call head args memo :: allCalls args
  | _ => []

def allCalls : List Expr → List Expr
  | [] => []
  | e :: es => e.calls ++ allCalls es

end

/-- Decorrelation with an event for every call. Replacing a column does not change its text, so that
the events may hold the tree before. -/
def decorrelateTraced (s : Schema) (e : Expr) : Traced Expr := do
  for c in e.calls do
    Traced.record (.decorrelating c)
  return e.decorrelate s

end ScalarExpr.Expr
