import ScalarExpr.Expr.Same
import ScalarExpr.Proofs.Evaluation.Deterministic
import ScalarExpr.Proofs.Expr.Kept
import ScalarExpr.Proofs.Value.Encoding
/-!
What a key says of a tree. The key is made from the skeleton of the tree, which equality keeps; and
where every name is called with one number of arguments, the key gives the skeleton back, whatever
follows it.
-/
namespace ScalarExpr

set_option autoImplicit true

/-- What the key of a tree says of a node. -/
inductive Label
  | column (id : Int64)
  | outer (id : Int64)
  | literal (v : Value)
  | call (name : String)
  deriving DecidableEq

inductive Skeleton
  | node (label : Label) (children : List Skeleton)

namespace Label

/-- The part of a key that is about the node alone. -/
def code (o : Int32) : Label → Bytes
  | column id => 1 :: Bytes.bigEndian 8 id.toBitVec.toNat
  | outer id => 2 :: Bytes.bigEndian 8 id.toBitVec.toNat
  | literal v => 0 :: v.encode o
  | call name => 3 :: Varint.encodeBytes name.toUTF8.data.toList

/-- Texts fit into memory and zeros have no sign. -/
def IsPlain : Label → Prop
  | literal v => v.FitsMemory ∧ v.dropZeroSign = v
  | call name => Text.FitsMemory name
  | _ => True

theorem code_append_inj {l m : Label} (hl : l.IsPlain) (hm : m.IsPlain)
    (h : l.code o ++ s = m.code o ++ t) : l = m ∧ s = t := by
  cases l with
  | column id =>
    cases m with
    | column id' =>
      obtain ⟨hid, hst⟩ := Bytes.bigEndian_toNat_append_inj (List.cons.inj h).2
      exact ⟨congrArg column (Int64.toBitVec_inj.1 hid), hst⟩
    | _ => exact absurd (List.cons.inj h).1 (by decide)
  | outer id =>
    cases m with
    | outer id' =>
      obtain ⟨hid, hst⟩ := Bytes.bigEndian_toNat_append_inj (List.cons.inj h).2
      exact ⟨congrArg outer (Int64.toBitVec_inj.1 hid), hst⟩
    | _ => exact absurd (List.cons.inj h).1 (by decide)
  | literal v =>
    cases m with
    | literal w =>
      obtain ⟨hvw, hst⟩ := Value.encode_append_inj hl.1 hm.1 (List.cons.inj h).2
      rw [hl.2, hm.2] at hvw
      exact ⟨congrArg literal hvw, hst⟩
    | _ => exact absurd (List.cons.inj h).1 (by decide)
  | call name =>
    cases m with
    | call name' =>
      obtain ⟨rfl, hst⟩ := Text.encodeBytes_append_inj hl hm (List.cons.inj h).2
      exact ⟨rfl, hst⟩
    | _ => exact absurd (List.cons.inj h).1 (by decide)

end Label

namespace Expr

variable {a b e : Expr} {args : List Expr} {head : CallHead} {memo : Memo} {o : Int32}

def label : Expr → Label
  | column c => .column c.id
  | outer c _ _ => .outer c.id
  | literal v _ _ => .literal v.dropZeroSign
  | call head _ _ => .call head.name.lower

def children : Expr → List Expr
  | call _ args _ => args
  | _ => []

mutual

/-- The tree of the labels. -/
def skeleton : Expr → Skeleton
  | call head args _ => .node (.call head.name.lower) (skeletons args)
  | column c => .node (.column c.id) []
  | outer c _ _ => .node (.outer c.id) []
  | literal v _ _ => .node (.literal v.dropZeroSign) []

def skeletons : List Expr → List Skeleton
  | [] => []
  | e :: es => e.skeleton :: skeletons es

end

theorem skeletons_eq_map (es : List Expr) : skeletons es = es.map skeleton := by
  induction es with
  | nil => rfl
  | cons e es ih => rw [skeletons, ih, List.map_cons]

theorem skeleton_eq (e : Expr) : e.skeleton = .node e.label (e.children.map skeleton) := by
  cases e with
  | call head args memo => rw [skeleton, skeletons_eq_map, label, children]
  | _ => rfl

theorem key_eq (e : Expr) (o : Int32) : e.key o = e.label.code o ++ keys o e.children := by
  cases e with
  | column | outer | call => rfl
  | literal v t memo =>
    rw [label, Label.code, Value.encode_dropZeroSign]
    exact (List.append_nil _).symm

/-- Induction where all nodes are alike. -/
theorem induct_children {motive : Expr → Prop}
    (h : ∀ e, (∀ x ∈ e.children, motive x) → motive e) (e : Expr) : motive e := by
  induction e with
  | call head args memo ih => exact h _ ih
  | _ => exact h _ (List.forall_mem_nil _)

theorem All.children {p : Expr → Prop} (h : e.All p) : ∀ x ∈ e.children, x.All p := by
  cases e with
  | call head args memo => exact (all_call.1 h).2
  | _ => exact List.forall_mem_nil _

/-- The key says nothing of a tree but its skeleton. -/
theorem key_eq_of_skeleton_eq (h : a.skeleton = b.skeleton) : a.key o = b.key o := by
  induction a using induct_children generalizing b with
  | h a ih =>
    rw [skeleton_eq a, skeleton_eq b] at h
    obtain ⟨hl, hc⟩ := Skeleton.node.inj h
    have hmem := forall₂_and_mem (map_eq_iff_forall₂.1 hc)
    have hk := keys_of_forall₂ (hmem.imp fun x y hxy => ih x hxy.1 hxy.2)
    rw [key_eq a, key_eq b, hl, hk]

/-! ### Equal trees -/

/-- The functions that are called are shipped ones. -/
def IsShipped (e : Expr) : Prop :=
  e.All fun
    | call head _ _ => head.builtin.functionClass ∈ FunctionClass.builtins
    | _ => True

theorem comparesArguments_of_mem {b : Builtin} (h : b.functionClass ∈ FunctionClass.builtins) :
    b.comparesArguments := by
  cases b with
  | fixed name type answer =>
    simp [Builtin.functionClass, FunctionClass.builtins, ArithOp.all, CompareOp.all] at h
  | _ => rfl

theorem allSame_iff {as bs : List Expr} :
    allSame as bs ↔ List.Forall₂ (fun a b => a.same b = true) as bs := by
  induction as generalizing bs with
  | nil => cases bs <;> simp [allSame]
  | cons a as ih => cases bs <;> simp [allSame, ih]

theorem IsShipped.skeleton_eq_of_same (ha : a.IsShipped) (h : a.same b) :
    a.skeleton = b.skeleton := by
  induction a generalizing b with
  | column c =>
    cases b with
    | column d =>
      have hid : c.id = d.id := of_decide_eq_true h
      rw [skeleton, skeleton, hid]
    | _ => cases h
  | outer c slot memo =>
    cases b with
    | outer d slot' memo' =>
      have hid : c.id = d.id := of_decide_eq_true h
      rw [skeleton, skeleton, hid]
    | _ => cases h
  | literal v t memo =>
    cases b with
    | literal w u memo' =>
      rw [same, Bool.and_eq_true] at h
      rw [skeleton, skeleton, Value.dropZeroSign_eq_of_same h.2]
    | _ => cases h
  | call f args memo ih =>
    cases b with
    | call g args' memo' =>
      obtain ⟨hf, ha⟩ := all_call.1 ha
      rw [same, comparesArguments_of_mem hf, Bool.and_eq_true, Bool.and_eq_true] at h
      obtain ⟨⟨hname, -⟩, hargs⟩ := h
      have hmem := forall₂_and_mem (allSame_iff.1 hargs)
      have hskel : args.map skeleton = args'.map skeleton :=
        map_eq_iff_forall₂.2 (hmem.imp fun x y hxy => ih x hxy.1 (ha x hxy.1) hxy.2)
      rw [skeleton, skeleton, of_decide_eq_true hname, skeletons_eq_map, skeletons_eq_map, hskel]
    | _ => cases h

/-- Trees that are equal have the same key. -/
theorem IsShipped.hashCode_eq_of_same (hs : a.IsShipped) (ha : a.IsFresh) (hb : b.IsFresh)
    (h : a.same b) (o : Int32) : (a.hashCode o).1 = (b.hashCode o).1 := by
  rw [ha.hashCode_eq, hb.hashCode_eq]
  exact key_eq_of_skeleton_eq (hs.skeleton_eq_of_same h)

/-- Sums that are spelled differently, of columns that differ in all but the id, and of the two
zeros. -/
theorem IsShipped.hashCode_eq_of_same_zeros :
    let a := (Builtin.arithmetic .plus .real).toCall
      [column ⟨1, 0, .double, "n", none⟩, literal (.real ⟨0⟩) .double none]
    let b := call ⟨⟨"PLUS", "plus"⟩, .bigint, .arithmetic .plus .real, {}⟩
      [column ⟨1, 3, .bigint, "m", none⟩, literal (.real ⟨0x8000000000000000⟩) .double none] none
    a.IsShipped ∧ a.IsFresh ∧ b.IsFresh ∧ a.same b ∧ (a.hashCode 0).1 = (b.hashCode 0).1 := by
  intro a b
  have hs : a.IsShipped := ⟨by decide, trivial, trivial, trivial⟩
  have ha : a.IsFresh := ⟨rfl, rfl, rfl, trivial⟩
  have hb : b.IsFresh := ⟨rfl, rfl, rfl, trivial⟩
  have h : a.same b := by decide
  exact ⟨hs, ha, hb, h, hs.hashCode_eq_of_same ha hb h 0⟩

/-! ### Reading a key -/

/-- The names and texts of the tree fit into memory. -/
def FitsMemory (e : Expr) : Prop :=
  e.All fun
    | literal v _ _ => v.FitsMemory
    | call head _ _ => Text.FitsMemory head.name.lower
    | _ => True

/-- The number of arguments of each call is the one that the name has. -/
def HasArity (arity : String → Nat) (e : Expr) : Prop :=
  e.All fun
    | call head args _ => args.length = arity head.name.lower
    | _ => True

theorem FitsMemory.label (h : e.FitsMemory) : e.label.IsPlain := by
  cases e with
  | column | outer => trivial
  | literal v t memo => exact ⟨Value.FitsMemory.dropZeroSign h, v.dropZeroSign_dropZeroSign⟩
  | call head args memo => exact (all_call.1 h).1

theorem HasArity.length_children {arity : String → Nat} (ha : a.HasArity arity)
    (hb : b.HasArity arity) (h : a.label = b.label) : a.children.length = b.children.length := by
  cases a with
  | call f args memo =>
    cases b with
    | call g args' memo' =>
      have hname : f.name.lower = g.name.lower := Label.call.inj h
      exact (all_call.1 ha).1.trans ((congrArg arity hname).trans (all_call.1 hb).1.symm)
    | _ => cases h
  | _ =>
    cases b with
    | call => cases h
    | _ => rfl

theorem skeletons_of_keys_append {p : Expr → Prop} {xs ys : List Expr}
    (h : ∀ x ∈ xs, ∀ y s t, p y → x.key o ++ s = y.key o ++ t → x.skeleton = y.skeleton ∧ s = t)
    (hl : xs.length = ys.length) (hp : ∀ y ∈ ys, p y) (hk : keys o xs ++ s = keys o ys ++ t) :
    xs.map skeleton = ys.map skeleton ∧ s = t := by
  induction xs generalizing ys with
  | nil =>
    obtain rfl := List.eq_nil_of_length_eq_zero hl.symm
    exact ⟨rfl, hk⟩
  | cons x xs ih =>
    cases ys with
    | nil => cases hl
    | cons y ys =>
      rw [keys, keys, List.append_assoc, List.append_assoc] at hk
      obtain ⟨hxy, hk⟩ := h x (by simp) y _ _ (hp y (by simp)) hk
      obtain ⟨hs, hst⟩ := ih (fun z hz => h z (by simp [hz])) (Nat.succ.inj hl)
        (fun z hz => hp z (by simp [hz])) hk
      rw [List.map_cons, List.map_cons, hxy, hs]
      exact ⟨rfl, hst⟩

theorem skeleton_of_key_append {arity : String → Nat} (ha : a.FitsMemory) (hb : b.FitsMemory)
    (hna : a.HasArity arity) (hnb : b.HasArity arity) (h : a.key o ++ s = b.key o ++ t) :
    a.skeleton = b.skeleton ∧ s = t := by
  induction a using induct_children generalizing b s t with
  | h a ih =>
    rw [key_eq a, key_eq b, List.append_assoc, List.append_assoc] at h
    obtain ⟨hlabel, h⟩ := Label.code_append_inj ha.label hb.label h
    have hlength := hna.length_children hnb hlabel
    have hchildren : ∀ y ∈ b.children, y.FitsMemory ∧ y.HasArity arity :=
      fun y hy => ⟨All.children hb y hy, All.children hnb y hy⟩
    obtain ⟨hskel, hst⟩ := skeletons_of_keys_append (fun x hx y s t hy hk =>
      ih x hx (All.children ha x hx) hy.1 (All.children hna x hx) hy.2 hk) hlength hchildren h
    rw [skeleton_eq a, skeleton_eq b, hlabel, hskel]
    exact ⟨rfl, hst⟩

/-- Where each name is called with one number of arguments, the key of a tree gives its skeleton,
whatever bytes follow it. -/
theorem HasArity.skeleton_of_hashCode_append {arity : String → Nat} (ha : a.IsFresh)
    (hb : b.IsFresh) (hma : a.FitsMemory) (hmb : b.FitsMemory) (hna : a.HasArity arity)
    (hnb : b.HasArity arity) (h : (a.hashCode o).1 ++ s = (b.hashCode o).1 ++ t) :
    a.skeleton = b.skeleton ∧ s = t := by
  rw [ha.hashCode_eq, hb.hashCode_eq] at h
  exact skeleton_of_key_append hma hmb hna hnb h

/-- A text in lowercase that is joined to itself, under two spellings, before the same byte. -/
theorem HasArity.skeleton_of_hashCode_append_concat :
    let s := column ⟨1, 0, .varchar, "s", none⟩
    let a := Builtin.concat.toCall [Builtin.lower.toCall [s], s]
    let b := call ⟨⟨"CONCAT", "concat"⟩, .varchar, .concat, {}⟩ [Builtin.lower.toCall [s], s] none
    let arity name := if name = "concat" then 2 else 1
    a.IsFresh ∧ b.IsFresh ∧ a.FitsMemory ∧ b.FitsMemory ∧ a.HasArity arity ∧ b.HasArity arity ∧
      (a.hashCode 0).1 ++ [7] = (b.hashCode 0).1 ++ [7] ∧ a.skeleton = b.skeleton := by
  intro s a b arity
  have ha : a.IsFresh := ⟨rfl, ⟨rfl, rfl, trivial⟩, rfl, trivial⟩
  have hb : b.IsFresh := ⟨rfl, ⟨rfl, rfl, trivial⟩, rfl, trivial⟩
  have hconcat : Text.FitsMemory "concat" := by decide
  have hlower : Text.FitsMemory "lower" := by decide
  have hma : a.FitsMemory := ⟨hconcat, ⟨hlower, trivial, trivial⟩, trivial, trivial⟩
  have hmb : b.FitsMemory := ⟨hconcat, ⟨hlower, trivial, trivial⟩, trivial, trivial⟩
  have hna : a.HasArity arity := ⟨rfl, ⟨rfl, trivial, trivial⟩, trivial, trivial⟩
  have hnb : b.HasArity arity := ⟨rfl, ⟨rfl, trivial, trivial⟩, trivial, trivial⟩
  have hk : (a.hashCode 0).1 = (b.hashCode 0).1 := rfl
  have h := congrArg (· ++ [7]) hk
  exact ⟨ha, hb, hma, hmb, hna, hnb, h, (hna.skeleton_of_hashCode_append ha hb hma hmb hnb h).1⟩

end Expr

end ScalarExpr
