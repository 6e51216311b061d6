import ScalarExpr.Column.Basic
/-!
Batches of rows stored column by column, and their rows. A row may belong to no chunk: then it has
no columns.
-/
namespace ScalarExpr

structure Chunk where
  columns : List Column
  rowCount : Nat
  aligned : ∀ c ∈ columns, c.size = rowCount

namespace Chunk

/-- Columns of one length make a chunk; without columns its number of rows is free. -/
def ofColumns? (columns : List Column) (rows : Nat) : Option Chunk :=
  let n := match columns with
    | [] => rows
    | c :: _ => c.size
  if h : ∀ c ∈ columns, c.size = n then some ⟨columns, n, h⟩ else none

def empty : Chunk := ⟨[], 0, nofun⟩

def width (k : Chunk) : Nat := k.columns.length

def column (k : Chunk) (i : Nat) : Except Error Column :=
  match k.columns[i]? with
  | some c => .ok c
  | none => .error (.columnNotFound
      ("offset " ++ toString i ++ " (chunk has " ++ toString k.width ++ " columns)"))

end Chunk

structure Row where
  chunk : Option Chunk
  index : Nat

namespace Row

/-- The row of no chunk, on which constants are evaluated. -/
def empty : Row := ⟨none, 0⟩

/-- The value of the row in column `i`, for an expression of type `t`. -/
def get (r : Row) (i : Nat) (t : SqlType) : Except Failure Value :=
  match r.chunk with
  | none => .error (.error (.evaluation
      ("column offset " ++ toString i ++ " read from an empty row")))
  | some k => do
    let c ← (k.column i).mapError .error
    if r.index < c.size then c.read r.index t
    else .error (.error (.evaluation ("row " ++ toString r.index ++ " out of range for chunk of "
      ++ toString c.size ++ " rows")))

end Row

namespace Chunk

def row (k : Chunk) (i : Nat) : Row := ⟨some k, i⟩

def rows (k : Chunk) : List Row := (List.range k.rowCount).map k.row

end Chunk
end ScalarExpr
