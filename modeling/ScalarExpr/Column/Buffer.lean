import ScalarExpr.Column.Cast
/-!
The output buffer of a column at a time: it belongs to one category, and what it is filled with is
converted to a column type of that category.
-/
namespace ScalarExpr

structure Buffer where
  category : Category
  content : Option Column
  /-- There is a table of the NULL slots; without one, no slot is NULL. -/
  tabulated : Bool := false

namespace Buffer

def empty (category : Category) : Buffer := { category := category, content := none }

/-- Replaces what the buffer holds by the column, converted to the category if it does not hold the
type. The conversion comes first: one that fails ends this before anything is replaced. -/
def put (c : Column) : EStateM Failure Buffer Unit := do
  let b ← get
  if b.category.accepts c.type then
    set { b with content := some c, tabulated := c.hasNull }
  else
    let d ← MonadExcept.ofExcept (c.cast b.category)
    set { b with
      content := some d
      tabulated := d.hasNull || Column.castTabulates c.type b.category }

theorem put_run (b : Buffer) (c : Column) : (put c).run b =
    if b.category.accepts c.type then .ok () { b with content := some c, tabulated := c.hasNull }
    else match c.cast b.category with
      | .ok d => .ok () { b with
          content := some d
          tabulated := d.hasNull || Column.castTabulates c.type b.category }
      | .error f => .error f b := by
  show (ite _ _ _ : EStateM Failure Buffer Unit) b = _
  rw [apply_ite fun p : EStateM Failure Buffer Unit => p b]
  congr 1
  show EStateM.bind _ _ b = _
  cases c.cast b.category with
  | error f => rfl
  | ok d => rfl

/-- The buffer that is left where that does not fail. -/
def fill (b : Buffer) (c : Column) : Except Failure Buffer :=
  match (put c).run b with
  | .ok _ b' => .ok b'
  | .error f _ => .error f

theorem fill_eq (b : Buffer) (c : Column) : b.fill c =
    if b.category.accepts c.type then .ok { b with content := some c, tabulated := c.hasNull }
    else do
      let d ← c.cast b.category
      return { b with
        content := some d
        tabulated := d.hasNull || Column.castTabulates c.type b.category } := by
  rw [fill, put_run]
  by_cases ha : b.category.accepts c.type
  · rw [if_pos ha, if_pos ha]
  · rw [if_neg ha, if_neg ha]
    cases c.cast b.category with
    | error f => rfl
    | ok d => rfl

def reset (b : Buffer) : Buffer := { b with content := none }

def notFilled : Error := .evaluation "result column was not filled"

def take (b : Buffer) : Except Error (Column × Buffer) :=
  match b.content with
  | some c => .ok (c, b.reset)
  | none => .error notFilled

def size (b : Buffer) : Nat := (b.content.map Column.size).getD 0

def isEmpty (b : Buffer) : Bool := b.size = 0

/-- An empty buffer is NULL everywhere. Past the end of a filled one the table of the NULL slots, if
there is one, is at fault. -/
def isNull (b : Buffer) (i : Nat) : Except Fault Bool :=
  match b.content with
  | none => .ok true
  | some c =>
    match c.isNull? i with
    | some isNull => .ok isNull
    | none => if b.tabulated then .error .outOfBounds else .ok false

/-- The content, if the buffer is of the category asked for and filled. -/
def contentAs (b : Buffer) (expected : Category) : Except Error Column :=
  if b.category ≠ expected then .error (.typeMismatch expected.name b.category.name)
  else
    match b.content with
    | some c => .ok c
    | none => .error notFilled

/-- The content of an integer buffer; unsigned integers give their bits. -/
def int64s (b : Buffer) : Except Failure (List (Option Int64)) := do
  match ← (b.contentAs .int).mapError .error with
  | ⟨.int64, xs⟩ => .ok xs
  | ⟨.uint64, xs⟩ => .ok (xs.map (·.map UInt64.toInt64))
  | _ => .error (.fault .foreignContent)

def float64s (b : Buffer) : Except Failure (List (Option Binary64)) := do
  match ← (b.contentAs .real).mapError .error with
  | ⟨.float64, xs⟩ => .ok xs
  | _ => .error (.fault .foreignContent)

def strings (b : Buffer) : Except Failure (List (Option String)) := do
  match ← (b.contentAs .text).mapError .error with
  | ⟨.utf8, xs⟩ => .ok xs
  | _ => .error (.fault .foreignContent)

def decimals (b : Buffer) : Except Failure (List (Option Int128)) := do
  match ← (b.contentAs .decimal).mapError .error with
  | ⟨.decimal _ _, xs⟩ => .ok xs
  | _ => .error (.fault .foreignContent)

end Buffer
end ScalarExpr
