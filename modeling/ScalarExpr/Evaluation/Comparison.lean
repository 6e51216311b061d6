import ScalarExpr.Evaluation.Meaning
import ScalarExpr.Expr.Builtin
/-!
Comparisons. Both operands are evaluated, and the result is NULL if either is. Text is compared by
code points and reals by their total order; integers of different sign are compared as numbers.
-/
namespace ScalarExpr.Evaluation

def compareTexts (s t : String) : Ordering := compare s t

def widen (isUnsigned : Bool) (n : Int64) : Int :=
  if isUnsigned then n.toUInt64.toNat else n.toInt

/-- The order of two results, if neither is NULL. -/
def orderOf {α : Type} (order : α → α → Ordering) : Option α → Option α → Option Ordering
  | some a, some b => some (order a b)
  | _, _ => none

def compareRow (s : CompareSignature) (x y : Meaning) (r : Row) : Eval (Option Ordering) :=
  match s with
  | .int u v => do
    let a ← x.row r .int
    let b ← y.row r .int
    return orderOf compare (a.map (widen u)) (b.map (widen v))
  | .text => do
    let a ← x.row r .text
    let b ← y.row r .text
    return orderOf compareTexts a b
  | .real => do
    let a ← x.row r .real
    let b ← y.row r .real
    return orderOf Binary64.compareTotal a b

def truth (b : Bool) : Int64 := if b then 1 else 0

def comparisonRow (op : CompareOp) (s : CompareSignature) (x y : Meaning) (r : Row) :
    Eval (Option Int64) := do
  return (← compareRow s x y r).map (truth ∘ op.holds)

def comparedColumn {α : Type} (op : CompareOp) (order : α → α → Ordering)
    (as bs : List (Option α)) : Column :=
  ⟨.boolean, List.zipWith (fun a b => (orderOf order a b).map op.holds) as bs⟩

/-- Integers of which one side is unsigned are compared row by row, all else column by column. -/
def comparisonColumn (op : CompareOp) (s : CompareSignature) (x y : Meaning) (input : Chunk) :
    Eval Column :=
  match s with
  | .int false false => do
    let (a, b) ← x.buffers₂ y .int input
    let as ← Eval.lift a.int64s
    let bs ← Eval.lift b.int64s
    return comparedColumn op (fun m n => compare m.toInt n.toInt) as bs
  | .int _ _ => do
    let orders ← input.rows.mapM (compareRow s x y)
    return ⟨.boolean, orders.map (·.map op.holds)⟩
  | .text => do
    let (a, b) ← x.buffers₂ y .text input
    let as ← Eval.lift a.strings
    let bs ← Eval.lift b.strings
    return comparedColumn op compareTexts as bs
  | .real => do
    let (a, b) ← x.buffers₂ y .real input
    let as ← Eval.lift a.float64s
    let bs ← Eval.lift b.float64s
    return comparedColumn op Binary64.compareTotal as bs

end ScalarExpr.Evaluation
