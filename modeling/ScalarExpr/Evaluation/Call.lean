import ScalarExpr.Evaluation.Arithmetic
import ScalarExpr.Evaluation.Comparison
import ScalarExpr.Evaluation.Strings
import ScalarExpr.Evaluation.Sources
/-!
What a call means, from the meanings of its arguments. A builtin has evaluators for some kinds of
results only; asking for another kind is an error that names the builtin.
-/
namespace ScalarExpr

namespace Builtin

/-- The kind that the builtin evaluates rows to. -/
def rowKind? : Builtin → Option Kind
  | arithmetic _ (.int _) | compare _ _ | bitNeg | length | unixTimestamp | fixed _ _ _ => some .int
  | arithmetic _ .real | divide | rand _ => some .real
  | concat | lower | upper => some .text
  | now | secToTime => none

/-- The category that the builtin evaluates chunks to. -/
def columnCategory? : Builtin → Option Category
  | arithmetic _ (.int _) | compare _ _ | bitNeg | length | unixTimestamp => some .int
  | arithmetic _ .real | divide | rand _ => some .real
  | concat | lower | upper => some .text
  | now => some .datetime
  | secToTime => some .duration
  | fixed _ _ _ => none

/-- The builtin is not evaluated to rows of this kind; where it is, an argument is missing. -/
def rowRefusal (b : Builtin) (k : Kind) : Failure :=
  if b.rowKind? = some k then .fault .outOfBounds else .error (.noEvaluator b.name k.name)

def columnEvaluator : Category → String
  | .datetime => "vectorized time"
  | c => "vectorized " ++ c.name

/-- The builtin is not evaluated to columns of this category; where it is, an argument is
missing. -/
def columnRefusal (b : Builtin) (c : Category) : Failure :=
  if b.columnCategory? = some c then .fault .outOfBounds
  else .error (.noEvaluator b.name (columnEvaluator c))

end Builtin

namespace Evaluation

def callInt (env : Env) (b : Builtin) (args : List Meaning) (r : Row) : Eval (Option Int64) :=
  match b, args with
  | .arithmetic op (.int u), [x, y] => intRow op u x y r
  | .compare op s, [x, y] => comparisonRow op s x y r
  | .compare _ _, _ => return none
  | .bitNeg, [x] => bitNegRow x r
  | .length, [x] => lengthRow x r
  | .unixTimestamp, _ => return some (unixSeconds env)
  | .fixed _ _ answer, _ => return answer
  | b, _ => Eval.lift (.error (b.rowRefusal .int))

def callReal (s : Settings) (b : Builtin) (args : List Meaning) (r : Row) :
    Eval (Option Binary64) :=
  match b, args with
  | .arithmetic op .real, [x, y] => realRow (realResult op x y) x y r
  | .divide, [x, y] => realRow (quotient s x y) x y r
  | .rand source, xs => return some (← randRow source xs r)
  | b, _ => Eval.lift (.error (b.rowRefusal .real))

def callText (b : Builtin) (args : List Meaning) (r : Row) : Eval (Option String) :=
  match b, args with
  | .concat, xs => concatRow "" r xs
  | .lower, [x] => mapTextRow Text.lower x r
  | .upper, [x] => mapTextRow Text.upper x r
  | b, _ => Eval.lift (.error (b.rowRefusal .text))

def callRow (env : Env) (head : CallHead) (args : List Meaning) (r : Row) :
    (k : Kind) → Eval (Option k.Item)
  | .int => callInt env head.builtin args r
  | .real => callReal head.settings head.builtin args r
  | .text => callText head.builtin args r

/-- The value of a call, of the kind that its type says. Calls of the other categories are NULL on
rows, and then no evaluator is asked. -/
def callValue (env : Env) (head : CallHead) (args : List Meaning) (r : Row) : Eval Value :=
  match head.type.category with
  | .int => do
    match ← callRow env head args r .int with
    | some n => return if head.type.isUnsigned then .uint n.toUInt64 else .int n
    | none => return .null
  | .real => do
    match ← callRow env head args r .real with
    | some x => return .real x
    | none => return .null
  | .text => do
    match ← callRow env head args r .text with
    | some s => return .text s
    | none => return .null
  | .decimal | .datetime | .duration => return .null

def callColumn (env : Env) (head : CallHead) (args : List Meaning) (c : Category)
    (input : Chunk) : Eval Column :=
  match c, head.builtin, args with
  | .int, .arithmetic op (.int u), [x, y] => intColumn op u x y input
  | .int, .compare op s, [x, y] => comparisonColumn op s x y input
  | .int, .bitNeg, [x] => bitNegColumn x input
  | .int, .length, [x] => lengthColumn x input
  | .int, .unixTimestamp, _ => unixTimestampColumn env input
  | .real, .arithmetic op .real, [x, y] => realColumn (realResult op x y) x y input
  | .real, .divide, [x, y] => realColumn (quotient head.settings x y) x y input
  | .real, .rand source, xs => randColumn source xs input
  | .text, .concat, xs => concatColumn xs input
  | .text, .lower, [x] => mapTextColumn Text.lower x input
  | .text, .upper, [x] => mapTextColumn Text.upper x input
  | .datetime, .now, _ => nowColumn env head.settings input
  | .duration, .secToTime, [x] => secToTimeColumn x input
  | c, b, _ => Eval.lift (.error (b.columnRefusal c))

def call (env : Env) (label : Unit → Except Fault String) (head : CallHead)
    (args : List Meaning) : Meaning where
  label := label
  value := callValue env head args
  row := callRow env head args
  column := callColumn env head args

end Evaluation
end ScalarExpr
