import ScalarExpr.Evaluation.Call
import ScalarExpr.Expr.Text
/-!
Evaluation of expressions, by rows and by chunks. The two are separate all the way down: a row asks
its arguments for values, a chunk asks them for columns.
-/
namespace ScalarExpr.Expr

mutual

def meaning (env : Env) : Expr → Meaning
  | column c =>
    .leaf (fun _ => .ok c.text) (fun r => r.get c.index c.type)
      (fun input => (input.column c.index).mapError .error)
  | outer c slot _ =>
    .leaf (fun _ => .ok c.text) (fun _ => .ok (env.slot slot))
      (fun input => (env.slot slot).broadcast c.type input.rowCount)
  | literal v t _ =>
    .leaf (fun _ => v.render) (fun _ => .ok v) (fun input => v.broadcast t input.rowCount)
  | call head args memo =>
    Evaluation.call env (fun _ => (call head args memo).render) head (meanings env args)

def meanings (env : Env) : List Expr → List Meaning
  | [] => []
  | e :: es => e.meaning env :: meanings env es

end

def eval (env : Env) (e : Expr) (r : Row) : Eval Value := (e.meaning env).value r

/-- The result for a row, by the evaluator of the given kind; NULL is none. -/
def evalAs (env : Env) (e : Expr) (r : Row) (k : Kind) : Eval (Option k.Item) :=
  (e.meaning env).row r k

/-- The results for a chunk by the evaluator of the given category, put into a buffer. -/
def fillBy (env : Env) (e : Expr) (evaluator : Category) (input : Chunk) (b : Buffer) :
    Eval Buffer := do
  Eval.lift (b.fill (← (e.meaning env).column evaluator input))

/-- The results for a chunk by the evaluator of the buffer's own category. -/
def fillBuffer (env : Env) (e : Expr) (input : Chunk) (b : Buffer) : Eval Buffer :=
  e.fillBy env b.category input b

/-- What evaluation gives where there are neither rows, outer values nor generators. -/
def standalone {α : Type} (m : Eval α) : Except Failure α := (m.run.run {}).1

def constantValue (e : Expr) : Except Failure Value := standalone (e.eval {} .empty)

def constantInt (e : Expr) : Except Failure (Option Int64) :=
  standalone (e.evalAs {} .empty .int)

end ScalarExpr.Expr
