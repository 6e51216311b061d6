import ScalarExpr.Expr.Basic
/-!
Row layouts: the columns of a chunk in their places.
-/
namespace ScalarExpr

structure Schema where
  columns : List ColumnRef := []

namespace Schema

def size (s : Schema) : Nat := s.columns.length

def isEmpty (s : Schema) : Bool := s.columns.isEmpty

def append (s : Schema) (c : ColumnRef) : Schema := ⟨s.columns ++ [c]⟩

/-- The layout of columns that are appended one after another. -/
def ofColumns (columns : List ColumnRef) : Schema := columns.foldl append {}

/-- The first place of a column with the identity. -/
def index? (s : Schema) (id : Int64) : Option Nat := s.columns.findIdx? (·.id = id)

def contains (s : Schema) (id : Int64) : Bool := (s.index? id).isSome

end Schema
end ScalarExpr
