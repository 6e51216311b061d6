import ScalarExpr.Error
import ScalarExpr.Expr.Text
import ScalarExpr.Schema
/-!
Index resolution: every column gets its place in a schema. It ends at the first column that the
schema lacks and leaves all later ones as they were.
-/
namespace ScalarExpr

/-- A tree, or a list of trees, as far as it was resolved, and the column that was not found. -/
structure Resolution (α : Type) where
  result : α
  missing : Option ColumnRef

def Resolution.map {α β : Type} (f : α → β) (r : Resolution α) : Resolution β :=
  ⟨f r.result, r.missing⟩

namespace Expr

mutual

def resolve (s : Schema) : Expr → Resolution Expr
  | column c =>
    match s.index? c.id with
    | some i => ⟨column { c with index := i }, none⟩
    | none => ⟨column c, some c⟩
  | call head args _ => (resolveAll s args).map (call head · none)
  | outer c slot memo => ⟨outer c slot memo, none⟩
  | literal v t memo => ⟨literal v t memo, none⟩

def resolveAll (s : Schema) : List Expr → Resolution (List Expr)
  | [] => ⟨[], none⟩
  | e :: es =>
    match e.resolve s with
    | ⟨e, some c⟩ => ⟨e :: es, some c⟩
    | ⟨e, none⟩ => (resolveAll s es).map (e :: ·)

end

end Expr

def ColumnRef.notFound (c : ColumnRef) : Error := .columnNotFound c.text

end ScalarExpr
