import ScalarExpr.Expr.Key
import ScalarExpr.Generators
/-!
Editing trees in place. A node is reached by a path of argument positions, and every call that is
passed on the way to a change forgets its key.
-/
namespace ScalarExpr.Expr

def at? : Expr → List Nat → Option Expr
  | e, [] => some e
  | call _ args _, i :: path => args[i]?.bind (·.at? path)
  | _, _ :: _ => none

/-- Changes the node at the end of a path. The calls passed forget their keys, also where the path
then leaves the tree. -/
def editAt (f : Expr → Expr) : List Nat → Expr → Expr
  | [], e => f e
  | i :: path, call head args _ => call head (args.modify i (editAt f path)) none
  | _ :: _, e => e

/-- Replaces the node at the end of a path by one that differs only in the keys it keeps, and so
nothing is forgotten on the way. -/
def visitAt (f : Expr → Expr) : List Nat → Expr → Expr
  | [], e => f e
  | i :: path, call head args memo => call head (args.modify i (visitAt f path)) memo
  | _ :: _, e => e

def setValue? (v : Value) : Expr → Option Expr
  | literal _ t _ => some (literal v t none)
  | _ => none

/-- A leaf with another type. The type is no part of a key, yet access to a column of an enclosing
query forgets it. -/
def setType? (t : SqlType) : Expr → Option Expr
  | literal v _ memo => some (literal v t memo)
  | column c => some (column { c with type := t })
  | outer c slot _ => some (outer { c with type := t } slot none)
  | call _ _ _ => none

def setId? (id : Int64) : Expr → Option Expr
  | column c => some (column { c with id := id, memo := none })
  | outer c slot _ => some (outer { c with id := id, memo := none } slot none)
  | _ => none

def setIndex? (i : Nat) : Expr → Option Expr
  | column c => some (column { c with index := i })
  | outer c slot _ => some (outer { c with index := i } slot none)
  | _ => none

/-- A call whose arguments were given out for change. -/
def touch? : Expr → Option Expr
  | call head args _ => some (call head args none)
  | _ => none

end Expr

/-- A builtin for a copy of its call: a generator goes on from where it is, on its own. -/
def Builtin.duplicate : Builtin → StateM Generators Builtin
  | .rand (.generator i) => do return .rand (.generator (← Generators.copy i))
  | b => return b

namespace Expr

mutual

/-- A copy of the tree, with the keys that its nodes have kept. -/
def duplicate : Expr → StateM Generators Expr
  | call head args memo => do
    let args ← duplicateAll args
    let builtin ← head.builtin.duplicate
    return call { head with builtin := builtin } args memo
  | column c => return column c
  | outer c slot memo => return outer c slot memo
  | literal v t memo => return literal v t memo

def duplicateAll : List Expr → StateM Generators (List Expr)
  | [] => return []
  | e :: es => do
    let e ← e.duplicate
    let es ← duplicateAll es
    return e :: es

end

end ScalarExpr.Expr
