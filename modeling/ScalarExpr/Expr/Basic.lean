import ScalarExpr.Expr.Builtin
import ScalarExpr.Settings
import ScalarExpr.Value.Basic
import ScalarExpr.Text.CaseMapping
/-!
Expression trees: columns, columns of an enclosing query, literals, and calls of builtin functions.
Every node has room for its structural key, kept there once computed.
-/
namespace ScalarExpr

/-- A name as it is spelled, and in lowercase, by which names are compared. -/
structure CaseName where
  spelling : String
  lower : String
  deriving DecidableEq

def CaseName.ofString (s : String) : CaseName := ⟨s, Text.lower s⟩

/-- The structural key of a node, if it was computed since the node last changed. -/
abbrev Memo := Option Bytes

/-- A column by its identity in the query; `index` is its place in a chunk. -/
structure ColumnRef where
  id : Int64
  index : Nat
  type : SqlType
  name : String
  memo : Memo
  deriving DecidableEq

/-- What a call has besides its arguments. The type of the call can differ from that of the builtin,
where the builtin leaves it open. -/
structure CallHead where
  name : CaseName
  type : SqlType
  builtin : Builtin
  settings : Settings
  deriving DecidableEq

inductive Expr
  | column (c : ColumnRef)
  /-- A column of an enclosing query; copies of the node share the slot with its value. -/
  | outer (c : ColumnRef) (slot : Nat) (memo : Memo)
  | literal (v : Value) (type : SqlType) (memo : Memo)
  | call (head : CallHead) (args : List Expr) (memo : Memo)
  deriving Inhabited

/-- The type of a literal that declares none; a decimal then has the given number of digits. -/
def Value.literalType (digits : Int32) : Value → SqlType
  | null => .unspecified
  | int _ => .bigint
  | uint _ => .unsignedBigint
  | real _ => .double
  | text _ => .varchar
  | decimal _ scale => .decimal digits scale.toInt32
  | datetime _ => .datetime
  | duration _ => .duration

namespace Expr

def type : Expr → SqlType
  | column c => c.type
  | outer c _ _ => c.type
  | literal _ t _ => t
  | call head _ _ => head.type

/-- Functions whose calls are never folded, since their value may change between rows, evaluations
or statements. -/
def unfoldable : List String :=
  ["sysdate", "now", "current_timestamp", "unix_timestamp", "rand", "uuid", "sleep",
    "connection_id", "last_insert_id", "found_rows", "row_count", "getvar", "setvar", "values"]

mutual

/-- The value is the same for every row and may be folded. -/
def isConstant : Expr → Bool
  | column _ => false
  | outer _ _ _ => false
  | literal _ _ _ => true
  | call head args _ => !unfoldable.contains head.name.lower && areConstant args

def areConstant : List Expr → Bool
  | [] => true
  | e :: es => e.isConstant && areConstant es

end

mutual

/-- The tree reads a column of an enclosing query. -/
def isCorrelated : Expr → Bool
  | column _ => false
  | outer _ _ _ => true
  | literal _ _ _ => false
  | call _ args _ => areCorrelated args

def areCorrelated : List Expr → Bool
  | [] => false
  | e :: es => e.isCorrelated || areCorrelated es

end

mutual

/-- The tree can be evaluated a column at a time. -/
def isVectorized : Expr → Bool
  | call head args _ => head.builtin.isVectorized && areVectorized args
  | _ => true

def areVectorized : List Expr → Bool
  | [] => true
  | e :: es => e.isVectorized && areVectorized es

end

end Expr
end ScalarExpr
