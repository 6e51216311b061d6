import ScalarExpr.Evaluation.Expr
/-!
Function classes: what a name in a registry stands for. A class checks the arguments of a call and
chooses the builtin for them.
-/
namespace ScalarExpr

/-- How many arguments a function takes; without `most`, as many as there are. -/
structure Arity where
  least : Nat
  most : Option Nat
  deriving DecidableEq

namespace Arity

def exactly (n : Nat) : Arity := ⟨n, some n⟩

def allows (a : Arity) (n : Nat) : Bool := a.least ≤ n && a.most.all (n ≤ ·)

def text : Arity → String
  | ⟨least, some most⟩ =>
    if most = least then toString most else toString least ++ "..=" ++ toString most
  | ⟨least, none⟩ => "at least " ++ toString least

def check (a : Arity) (function : String) (n : Nat) : Except Error Unit :=
  if a.allows n then .ok () else .error (.wrongArgumentCount function a.text n)

end Arity

inductive FunctionClass
  | arithmetic (op : ArithOp)
  | divide
  | compare (op : CompareOp)
  | bitNeg
  | concat
  | lower
  | upper
  | length
  | rand
  | now
  | unixTimestamp
  | secToTime
  /-- A function of the host; see `Builtin.fixed`. -/
  | fixed (name : String) (type : SqlType) (answer : Option Int64)
  deriving DecidableEq

namespace FunctionClass

/-- The classes of all functions but those of the host. -/
def builtins : List FunctionClass :=
  ArithOp.all.map arithmetic ++ [divide] ++ CompareOp.all.map compare
    ++ [bitNeg, concat, lower, upper, length, rand, now, unixTimestamp, secToTime]

def name : FunctionClass → String
  | arithmetic op => op.name
  | divide => "div"
  | compare op => op.name
  | bitNeg => "bitneg"
  | concat => "concat"
  | lower => "lower"
  | upper => "upper"
  | length => "length"
  | rand => "rand"
  | now => "now"
  | unixTimestamp => "unix_timestamp"
  | secToTime => "sec_to_time"
  | fixed name _ _ => name

def arity : FunctionClass → Arity
  | arithmetic _ | divide | compare _ => .exactly 2
  | bitNeg | lower | upper | length | secToTime => .exactly 1
  | now | unixTimestamp => .exactly 0
  | concat => ⟨1, none⟩
  | rand => ⟨0, some 1⟩
  | fixed _ _ _ => ⟨0, none⟩

def allOf (c : Category) (args : List Expr) : Bool := args.all (·.type.category = c)

def arithSignature (args : List Expr) : ArithSignature :=
  if allOf .int args then .int (args.any (·.type.isUnsigned)) else .real

def compareSignature (args : List Expr) : CompareSignature :=
  if allOf .int args then
    match args with
    | [x, y] => .int x.type.isUnsigned y.type.isUnsigned
    | _ => .int false false
  else if allOf .text args then .text
  else .real

/-- Without a seed no two calls draw alike; a constant seed fixes the numbers of the call, and NULL
counts as zero; any other seed is taken anew for each row. -/
def randomSource : List Expr → Eval RandomSource
  | [] => do return .generator (← Generators.addUnseeded)
  | seed :: _ =>
    if seed.isConstant then do
      let n ← Eval.lift seed.constantInt
      return .generator (← Generators.addSeeded (n.getD 0))
    else return .rowSeed

/-- The builtin for arguments of an allowed number. -/
def signature (args : List Expr) : FunctionClass → Eval Builtin
  | arithmetic op => return .arithmetic op (arithSignature args)
  | divide => return .divide
  | compare op => return .compare op (compareSignature args)
  | bitNeg => return .bitNeg
  | concat => return .concat
  | lower => return .lower
  | upper => return .upper
  | length => return .length
  | rand => do return .rand (← randomSource args)
  | now => return .now
  | unixTimestamp => return .unixTimestamp
  | secToTime => return .secToTime
  | fixed name type answer => return .fixed name type answer

def instantiate (c : FunctionClass) (args : List Expr) : Eval Builtin := do
  Eval.lift ((c.arity.check c.name args.length).mapError .error)
  c.signature args

end FunctionClass
end ScalarExpr
