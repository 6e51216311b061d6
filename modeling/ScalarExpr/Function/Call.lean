import ScalarExpr.Function.Registry
import ScalarExpr.Planning.Fold
/-!
Building calls by name. The causes of a refusal are tried in the order: no type, no such function,
arguments that the function does not take.
-/
namespace ScalarExpr

namespace Expr

/-- The type of a call: that of the builtin, unless the builtin leaves it open and the caller
does not. -/
def callType (builtin requested : SqlType) : SqlType :=
  if builtin.isUnspecified && !requested.isUnspecified then requested else builtin

/-- A call of the function with the name. -/
def newCall (r : FunctionRegistry) (s : Settings) (name : String) (type : Option SqlType)
    (args : List Expr) : Eval Expr := do
  let some type := type | Eval.fail .missingReturnType
  let some c := r.lookup name | Eval.fail (.unknownFunction name)
  let builtin ← c.instantiate args
  return call ⟨.ofString name, callType builtin.type type, builtin, s⟩ args none

/-- A call, to be folded. -/
def newFolded (r : FunctionRegistry) (s : Settings) (name : String) (type : Option SqlType)
    (args : List Expr) : Eval (Traced Expr) :=
  return (← newCall r s name type args).fold

/-- A call, to be folded, for arguments that are known to be right: a refusal goes to the log and
leaves nothing. -/
def newFolded? (r : FunctionRegistry) (s : Settings) (name : String) (type : Option SqlType)
    (args : List Expr) : Eval (Traced (Option Expr)) :=
  tryCatch (do return some <$> (← newFolded r s name type args)) fun
    | .error cause => return do
      Traced.record (.notBuilt name cause)
      return none
    | .fault f => Eval.fault f

end Expr
end ScalarExpr
