import ScalarExpr.SqlType
/-!
The builtin functions as calls hold them: the operation together with the signature that was chosen
for its arguments when the call was built. Later changes of the arguments do not change it.
-/
namespace ScalarExpr

inductive ArithOp
  | plus
  | minus
  | times
  deriving DecidableEq

namespace ArithOp

def all : List ArithOp := [plus, minus, times]

def name : ArithOp → String
  | plus => "plus"
  | minus => "minus"
  | times => "mul"

def symbol : ArithOp → String
  | plus => "+"
  | minus => "-"
  | times => "*"

end ArithOp

inductive CompareOp
  | eq
  | ne
  | lt
  | le
  | gt
  | ge
  deriving DecidableEq

namespace CompareOp

def all : List CompareOp := [eq, ne, lt, le, gt, ge]

def name : CompareOp → String
  | eq => "eq"
  | ne => "ne"
  | lt => "lt"
  | le => "le"
  | gt => "gt"
  | ge => "ge"

/-- Whether operands in the given order satisfy the comparison. -/
def holds : CompareOp → Ordering → Bool
  | eq, o => o = .eq
  | ne, o => o ≠ .eq
  | lt, o => o = .lt
  | le, o => o ≠ .gt
  | gt, o => o = .gt
  | ge, o => o ≠ .lt

end CompareOp

/-- How arithmetic is done: on integers of 64 bits, unsigned or not, or on reals. -/
inductive ArithSignature
  | int (isUnsigned : Bool)
  | real
  deriving DecidableEq

/-- What operands are compared as; integers each by the sign that their type gives them. -/
inductive CompareSignature
  | int (leftUnsigned rightUnsigned : Bool)
  | text
  | real
  deriving DecidableEq

/-- Where random numbers come from: a generator of the call's own, or a new generator for each row
that the row's argument seeds. -/
inductive RandomSource
  | generator (index : Nat)
  | rowSeed
  deriving DecidableEq

inductive Builtin
  | arithmetic (op : ArithOp) (signature : ArithSignature)
  | divide
  | compare (op : CompareOp) (signature : CompareSignature)
  | bitNeg
  | concat
  | lower
  | upper
  | length
  | rand (source : RandomSource)
  | now
  | unixTimestamp
  | secToTime
  /-- A function of the host that answers one integer, or NULL, whatever its arguments are. -/
  | fixed (name : String) (type : SqlType) (answer : Option Int64)
  deriving DecidableEq

namespace Builtin

def name : Builtin → String
  | arithmetic op _ => op.name
  | divide => "div"
  | compare op _ => op.name
  | bitNeg => "bitneg"
  | concat => "concat"
  | lower => "lower"
  | upper => "upper"
  | length => "length"
  | rand _ => "rand"
  | now => "now"
  | unixTimestamp => "unix_timestamp"
  | secToTime => "sec_to_time"
  | fixed name _ _ => name

/-- The type of the results. -/
def type : Builtin → SqlType
  | arithmetic _ (.int isUnsigned) => if isUnsigned then .unsignedBigint else .bigint
  | arithmetic _ .real | divide | rand _ => .double
  | compare _ _ | length | unixTimestamp => .bigint
  | bitNeg => .unsignedBigint
  | concat | lower | upper => .varchar
  | now => .datetime
  | secToTime => .duration
  | fixed _ type _ => type

/-- The function has evaluators for columns. -/
def isVectorized : Builtin → Bool
  | fixed _ _ _ => false
  | _ => true

/-- Operation and signature agree. Signedness is no part of the signature here, and neither is the
state of a generator. -/
def same : Builtin → Builtin → Bool
  | arithmetic op (.int _), arithmetic op' (.int _) => op = op'
  | compare op (.int _ _), compare op' (.int _ _) => op = op'
  | rand _, rand _ => true
  | fixed _ _ answer, fixed _ _ answer' => answer = answer'
  | b, b' => b = b'

/-- Equality of calls looks at the arguments. -/
def comparesArguments : Builtin → Bool
  | fixed _ _ _ => false
  | _ => true

end Builtin
end ScalarExpr
