import ScalarExpr.Expr.Basic
import ScalarExpr.Value.Encoding
/-!
Structural keys: a byte for the kind of node, then identity, value, or lowercase name and keys of
the arguments in order. `Expr.key` is the key of a tree; `Expr.hashCode` looks first at what the
nodes have kept, and keeps what it computes.
-/
namespace ScalarExpr

namespace ColumnRef

def key (c : ColumnRef) : Bytes := 1 :: Bytes.bigEndian 8 c.id.toBitVec.toNat

def outerKey (c : ColumnRef) : Bytes := 2 :: Bytes.bigEndian 8 c.id.toBitVec.toNat

end ColumnRef

namespace CallHead

/-- The key of a call whose arguments have the keys `args`, joined. -/
def key (head : CallHead) (args : Bytes) : Bytes :=
  3 :: Varint.encodeBytes head.name.lower.toUTF8.data.toList ++ args

end CallHead

namespace Expr

def literalKey (offsetSeconds : Int32) (v : Value) : Bytes := 0 :: v.encode offsetSeconds

mutual

/-- The key of a tree, for a statement with the given offset. -/
def key (offsetSeconds : Int32) : Expr → Bytes
  | column c => c.key
  | outer c _ _ => c.outerKey
  | literal v _ _ => literalKey offsetSeconds v
  | call head args _ => head.key (keys offsetSeconds args)

def keys (offsetSeconds : Int32) : List Expr → Bytes
  | [] => []
  | e :: es => e.key offsetSeconds ++ keys offsetSeconds es

end

/-- A kept key, or the one computed. -/
def remember (memo : Memo) (key : Bytes) : Bytes := memo.getD key

mutual

/-- The key that the node answers, and the node with it kept. A kept key is answered unchanged,
whatever the offset, and then nothing below the node is looked at. -/
def hashCode (offsetSeconds : Int32) : Expr → Bytes × Expr
  | column c =>
    let k := remember c.memo c.key
    (k, column { c with memo := some k })
  | outer c slot memo =>
    let k := remember memo c.outerKey
    (k, outer c slot (some k))
  | literal v t memo =>
    let k := remember memo (literalKey offsetSeconds v)
    (k, literal v t (some k))
  | call head args (some k) => (k, call head args (some k))
  | call head args none =>
    let (ks, args) := hashCodes offsetSeconds args
    let k := head.key ks
    (k, call head args (some k))

def hashCodes (offsetSeconds : Int32) : List Expr → Bytes × List Expr
  | [] => ([], [])
  | e :: es =>
    let (k, e) := e.hashCode offsetSeconds
    let (ks, es) := hashCodes offsetSeconds es
    (k ++ ks, e :: es)

end

mutual

/-- The tree with nothing kept. -/
def forget : Expr → Expr
  | column c => column { c with memo := none }
  | outer c slot _ => outer { c with memo := none } slot none
  | literal v t _ => literal v t none
  | call head args _ => call head (forgetAll args) none

def forgetAll : List Expr → List Expr
  | [] => []
  | e :: es => e.forget :: forgetAll es

end

end Expr
end ScalarExpr
