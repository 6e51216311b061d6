import ScalarExpr.Evaluation.Meaning
import ScalarExpr.Text.CaseMapping
/-!
Functions of text: joining, case and length.
-/
namespace ScalarExpr.Evaluation

/-- Joins results behind `acc`, up to the first that is NULL. -/
def concatRow (acc : String) (r : Row) : List Meaning → Eval (Option String)
  | [] => return some acc
  | m :: ms => do
    let some s ← m.row r .text | return none
    concatRow (acc ++ s) r ms

/-- The slots at one place joined; NULL if one of them is. -/
def joinSlots (slots : List (Option String)) : Option String :=
  (slots.mapM id).map String.join

def concatColumn (ms : List Meaning) (input : Chunk) : Eval Column := do
  let bufs ← Meaning.buffers ms .text input
  let columns ← Eval.lift (bufs.mapM Buffer.strings)
  let slots ← Eval.lift ((List.range input.rowCount).mapM fun i =>
    columns.mapM fun xs =>
      match xs[i]? with
      | some slot => .ok slot
      | none => .error (.fault .outOfBounds))
  return ⟨.utf8, slots.map joinSlots⟩

def mapTextRow (f : String → String) (x : Meaning) (r : Row) : Eval (Option String) := do
  return (← x.row r .text).map f

def mapTextColumn (f : String → String) (x : Meaning) (input : Chunk) : Eval Column := do
  let a ← x.buffer .text input
  let as ← Eval.lift a.strings
  return ⟨.utf8, as.map (·.map f)⟩

def lengthRow (x : Meaning) (r : Row) : Eval (Option Int64) := do
  return (← x.row r .text).map fun s => Int64.ofNat s.utf8ByteSize

/-- Lengths are as wide as offsets into the texts: of 32 bits, or of 64 where a text is beyond the
capacity of the columns with the narrow ones. -/
def lengthColumn (x : Meaning) (input : Chunk) : Eval Column := do
  let a ← x.buffer .text input
  let as ← Eval.lift a.strings
  let lengths := as.map (·.map String.utf8ByteSize)
  return if lengths.all (·.all (· < ColumnType.textCapacity)) then
    ⟨.int32, lengths.map (·.map Int32.ofNat)⟩
  else ⟨.int64, lengths.map (·.map Int64.ofNat)⟩

end ScalarExpr.Evaluation
