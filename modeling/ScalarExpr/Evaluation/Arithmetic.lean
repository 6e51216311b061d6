import ScalarExpr.Evaluation.Meaning
import ScalarExpr.Expr.Basic
/-!
Arithmetic. On rows an operation stops at a first operand that is NULL; on columns both operands are
there before it begins. A result outside its type is an error, an infinite real among them.
-/
namespace ScalarExpr

namespace ArithOp

def onInts : ArithOp → Int → Int → Int
  | plus, a, b => a + b
  | minus, a, b => a - b
  | times, a, b => a * b

def onSigned (op : ArithOp) (a b : Int64) : Option Int64 := int64? (op.onInts a.toInt b.toInt)

def onUnsigned (op : ArithOp) (a b : UInt64) : Option UInt64 :=
  let n := op.onInts a.toNat b.toNat
  if 0 ≤ n && n < Int.pow 2 64 then some (UInt64.ofNat n.toNat) else none

/-- The operation on 64 bits, read and written as unsigned or as signed numbers. -/
def onBits (op : ArithOp) (isUnsigned : Bool) (a b : Int64) : Option Int64 :=
  if isUnsigned then (op.onUnsigned a.toUInt64 b.toUInt64).map UInt64.toInt64 else op.onSigned a b

def onReals : ArithOp → Binary64 → Binary64 → Binary64
  | plus, x, y => x + y
  | minus, x, y => x - y
  | times, x, y => x * y

end ArithOp

namespace Evaluation

/-- The result of integer arithmetic, in range or not. -/
def intResult (op : ArithOp) (isUnsigned : Bool) (x y : Meaning) (a b : Int64) :
    Except Failure (Option Int64) :=
  match op.onBits isUnsigned a b with
  | some n => .ok (some n)
  | none =>
    .error (Meaning.outOfRange (Builtin.arithmetic op (.int isUnsigned)).type op.symbol [x, y])

def intRow (op : ArithOp) (isUnsigned : Bool) (x y : Meaning) (r : Row) : Eval (Option Int64) := do
  let some a ← x.row r .int | return none
  let some b ← y.row r .int | return none
  Eval.lift (intResult op isUnsigned x y a b)

def intColumn (op : ArithOp) (isUnsigned : Bool) (x y : Meaning) (input : Chunk) :
    Eval Column := do
  let (a, b) ← x.buffers₂ y .int input
  let as ← Eval.lift a.int64s
  let bs ← Eval.lift b.int64s
  let ns ← Eval.lift (zipSlots (intResult op isUnsigned x y) as bs)
  return ⟨.int64, ns⟩

/-- A real that is not infinite. -/
def finiteResult (symbol : String) (x y : Meaning) (z : Binary64) :
    Except Failure (Option Binary64) :=
  if z.isInfinite then .error (Meaning.outOfRange .double symbol [x, y]) else .ok (some z)

/-- What `div` makes of a zero divisor is up to the mode of the session: an error or NULL. -/
def quotient (s : Settings) (x y : Meaning) (a b : Binary64) : Except Failure (Option Binary64) :=
  if b.isZero then
    if s.hasMode .errorForDivisionByZero then .error (.error .divisionByZero) else .ok none
  else finiteResult "/" x y (a / b)

def realRow (f : Binary64 → Binary64 → Except Failure (Option Binary64)) (x y : Meaning) (r : Row) :
    Eval (Option Binary64) := do
  let some a ← x.row r .real | return none
  let some b ← y.row r .real | return none
  Eval.lift (f a b)

def realColumn (f : Binary64 → Binary64 → Except Failure (Option Binary64)) (x y : Meaning)
    (input : Chunk) : Eval Column := do
  let (a, b) ← x.buffers₂ y .real input
  let as ← Eval.lift a.float64s
  let bs ← Eval.lift b.float64s
  let zs ← Eval.lift (zipSlots f as bs)
  return ⟨.float64, zs⟩

def realResult (op : ArithOp) (x y : Meaning) (a b : Binary64) :
    Except Failure (Option Binary64) :=
  finiteResult op.symbol x y (op.onReals a b)

def bitNegRow (x : Meaning) (r : Row) : Eval (Option Int64) := do
  return (← x.row r .int).map (~~~ ·)

def bitNegColumn (x : Meaning) (input : Chunk) : Eval Column := do
  let a ← x.buffer .int input
  let as ← Eval.lift a.int64s
  return ⟨.int64, as.map (·.map (~~~ ·))⟩

end Evaluation
end ScalarExpr
