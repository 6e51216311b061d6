import ScalarExpr.Proofs.Planning.Edit
/-!
Planning as a history of actions on the trees at hand: keys are asked for, nodes changed, trees
copied, resolved, decorrelated and folded, in any order. A key that is kept is never out of date.
-/
namespace ScalarExpr

set_option autoImplicit true

/-- The name of a column is no part of its key, yet access to a column of an enclosing query forgets
the key. -/
def Expr.setName? (name : String) : Expr → Option Expr
  | column c => some (column { c with name := name })
  | outer c slot _ => some (outer { c with name := name } slot none)
  | _ => none

/-- What planning has at hand: trees, the values bound for columns of enclosing queries, and the
random number generators of calls. -/
structure Workspace where
  trees : List Expr
  slots : List Value
  generators : Generators

theorem Expr.IsCurrent.setName? {e e' : Expr} (h : e.IsCurrent o) (hs : e.setName? s = some e') :
    e'.IsCurrent o := by
  cases e with
  | column c =>
    cases hs
    exact h
  | outer c slot memo =>
    cases hs
    exact ⟨h.1, .none⟩
  | _ => cases hs

namespace Workspace

/-- A change of one node. -/
inductive Change
  | value (v : Value)
  | type (t : SqlType)
  | id (id : Int64)
  | index (i : Nat)
  | name (s : String)
  /-- The arguments of a call are given out and left as they are. -/
  | touch

/-- The changed node, if it is of a kind that has such a change. -/
def Change.on? : Change → Expr → Option Expr
  | value v => Expr.setValue? v
  | type t => Expr.setType? t
  | id i => Expr.setId? i
  | index i => Expr.setIndex? i
  | name s => Expr.setName? s
  | touch => Expr.touch?

/-- An action on the tree at a place of the workspace, and there at the node at the end of a path. -/
inductive Action
  | build (e : Expr)
  | hash (tree : Nat) (path : List Nat)
  | change (tree : Nat) (path : List Nat) (c : Change)
  /-- The node changes places with another tree. -/
  | exchange (tree : Nat) (path : List Nat) (other : Nat)
  /-- The column inside a column of an enclosing query changes places with another tree, which is a
  column. -/
  | exchangeColumn (tree : Nat) (path : List Nat) (other : Nat)
  | bind (slot : Nat) (v : Value)
  | decorrelate (tree : Nat) (path : List Nat) (s : Schema)
  | resolve (tree : Nat) (path : List Nat) (s : Schema)
  | copy (tree : Nat) (path : List Nat)
  | fold (tree : Nat)

def node? (w : Workspace) (tree : Nat) (path : List Nat) : Option Expr :=
  w.trees[tree]?.bind (·.at? path)

/-- The workspace after an action, for statements with the offset. An action that does not apply
changes nothing, and neither does folding that ends with a fault. A new tree has nothing kept. Of
a resolved copy there is as much as was resolved. -/
def perform (o : Int32) (w : Workspace) : Action → Workspace
  | .build e => { w with trees := w.trees ++ [e.forget] }
  | .hash i path =>
    { w with trees := w.trees.modify i (·.visitAt (fun n => (n.hashCode o).2) path) }
  | .change i path c =>
    { w with trees := w.trees.modify i (·.editAt (fun n => (c.on? n).getD n) path) }
  | .exchange i path j =>
    match w.node? i path, w.trees[j]? with
    | some n, some e =>
      { w with trees := (w.trees.modify i (·.editAt (fun _ => e) path)).set j n }
    | _, _ => w
  | .exchangeColumn i path j =>
    match w.node? i path, w.trees[j]? with
    | some (.outer c slot _), some (.column d) =>
      let trees := w.trees.modify i (·.editAt (fun _ => .outer d slot none) path)
      { w with trees := trees.set j (.column c) }
    | _, _ => w
  | .bind slot v => { w with slots := w.slots.set slot v }
  | .decorrelate i path s =>
    { w with trees := w.trees.modify i (·.editAt (·.decorrelate s) path) }
  | .resolve i path s =>
    match w.node? i path with
    | some n =>
      let (e, gs) := n.duplicate.run w.generators
      { w with trees := w.trees ++ [(e.resolve s).result], generators := gs }
    | none => w
  | .copy i path =>
    match w.node? i path with
    | some n =>
      let (e, gs) := n.duplicate.run w.generators
      { w with trees := w.trees ++ [e], generators := gs }
    | none => w
  | .fold i =>
    match w.trees[i]? with
    | some e =>
      match e.fold.result with
      | .ok e => { w with trees := w.trees.set i e }
      | .error _ => w
    | none => w

def run (o : Int32) (w : Workspace) (actions : List Action) : Workspace :=
  actions.foldl (perform o) w

variable {w : Workspace} {e n : Expr} {o : Int32}

theorem Change.isCurrent (c : Change) (h : n.IsCurrent o) : ((c.on? n).getD n).IsCurrent o := by
  cases hc : c.on? n with
  | none => exact h
  | some n' =>
    cases c with
    | value v => exact h.setValue? hc
    | type t => exact h.setType? hc
    | id i => exact .setId? hc
    | index i => exact h.setIndex? hc
    | name s => exact h.setName? hc
    | touch => exact h.touch? hc

/-- All trees at hand are current. -/
def IsCurrent (o : Int32) (w : Workspace) : Prop := ∀ e ∈ w.trees, e.IsCurrent o

namespace IsCurrent

theorem node (h : w.IsCurrent o) (hn : w.node? i path = some n) : n.IsCurrent o := by
  obtain ⟨e, he, hn⟩ := Option.bind_eq_some_iff.1 hn
  exact (h e (List.mem_of_getElem? he)).at? hn

theorem append (h : w.IsCurrent o) (he : e.IsCurrent o) (slots : List Value) (gs : Generators) :
    IsCurrent o ⟨w.trees ++ [e], slots, gs⟩ := by
  intro x hx
  obtain hx | hx := List.mem_append.1 hx
  · exact h x hx
  · obtain rfl := List.mem_singleton.1 hx
    exact he

theorem modify {f : Expr → Expr} (h : w.IsCurrent o) (hf : ∀ e, e.IsCurrent o → (f e).IsCurrent o)
    (i : Nat) : IsCurrent o { w with trees := w.trees.modify i f } := by
  intro x hx
  obtain hx | ⟨e, he, rfl⟩ := exists_of_mem_modify hx
  · exact h x hx
  · exact hf e (h e he)

theorem set (h : w.IsCurrent o) (he : e.IsCurrent o) (i : Nat) :
    IsCurrent o { w with trees := w.trees.set i e } := by
  intro x hx
  obtain hx | rfl := List.mem_or_eq_of_mem_set hx
  · exact h x hx
  · exact he

theorem perform (h : w.IsCurrent o) (a : Action) : (w.perform o a).IsCurrent o := by
  cases a with
  | build e => exact h.append (e.forget_isFresh.isCurrent o) _ _
  | hash i path =>
    exact h.modify (fun e he =>
      he.visitAt (fun n hn => hn.hashCode) (fun n => n.key_hashCode o o) path) i
  | change i path c => exact h.modify (fun e he => he.editAt (fun n hn => c.isCurrent hn) path) i
  | exchange i path j =>
    rw [Workspace.perform]
    split
    case h_1 n e hn he =>
      have hnew : e.IsCurrent o := h e (List.mem_of_getElem? he)
      exact (h.modify (fun e he => he.editAt (fun _ _ => hnew) path) i).set (h.node hn) j
    case h_2 => exact h
  | exchangeColumn i path j =>
    rw [Workspace.perform]
    split
    case h_1 c slot memo d hn he =>
      have hd : (Expr.column d).IsCurrent o := h _ (List.mem_of_getElem? he)
      have hnew : (Expr.outer d slot none).IsCurrent o := ⟨hd, .none⟩
      have hc : (Expr.column c).IsCurrent o := (h.node hn).1
      exact (h.modify (fun e he => he.editAt (fun _ _ => hnew) path) i).set hc j
    case h_2 => exact h
  | bind slot v => exact h
  | decorrelate i path s =>
    exact h.modify (fun e he => he.editAt (fun n hn => hn.decorrelate s) path) i
  | resolve i path s =>
    rw [Workspace.perform]
    split
    case h_1 n hn => exact h.append (((h.node hn).duplicate _).1.resolve s) _ _
    case h_2 => exact h
  | copy i path =>
    rw [Workspace.perform]
    split
    case h_1 n hn => exact h.append ((h.node hn).duplicate _).1 _ _
    case h_2 => exact h
  | fold i =>
    rw [Workspace.perform]
    split
    case h_1 e he =>
      split
      case h_1 e' hf => exact h.set ((h e (List.mem_of_getElem? he)).fold hf) i
      case h_2 => exact h
    case h_2 => exact h

theorem run (h : w.IsCurrent o) (actions : List Action) : (w.run o actions).IsCurrent o := by
  induction actions generalizing w with
  | nil => exact h
  | cons a actions ih => exact ih (h.perform a)

end IsCurrent

/-- Whatever is done to trees in which nothing was kept, every key that is kept is that of its node,
and every node answers the key of a tree like it with nothing kept. -/
theorem keys_of_run (h : ∀ e ∈ w.trees, e.IsFresh) (actions : List Action)
    (he : e ∈ (w.run o actions).trees) :
    e.IsCurrent o ∧ ∀ path n, e.at? path = some n →
      (n.hashCode o).1 = n.key o ∧ (n.forget.hashCode o).1 = n.key o := by
  have hw : w.IsCurrent o := fun e he => (h e he).isCurrent o
  have hc := hw.run actions e he
  refine ⟨hc, ?_⟩
  intro path n hn
  have hnc : n.IsCurrent o := hc.at? hn
  refine ⟨hnc.hashCode_eq, ?_⟩
  rw [n.forget_isFresh.hashCode_eq, n.key_forget]

/-- A sum whose key was asked for, in a copy of which the literal is then another. -/
theorem keys_of_run_sum :
    let sum (n : Int64) := (Builtin.arithmetic .plus (.int false)).toCall
      [.column ⟨1, 0, .bigint, "n", none⟩, .literal (.int n) .bigint none]
    let w : Workspace := ⟨[sum 1], [], {}⟩
    let actions := [.hash 0 [], .copy 0 [], .change 1 [1] (.value (.int 2)), .hash 1 []]
    let changed := ((sum 2).hashCode 0).2
    (∀ e ∈ w.trees, e.IsFresh) ∧ (w.run 0 actions).trees = [((sum 1).hashCode 0).2, changed] ∧
      (changed.hashCode 0).1 = changed.key 0 := by
  intro sum w actions changed
  have hf : (sum 1).IsFresh := ⟨rfl, rfl, rfl, trivial⟩
  have hw : ∀ e ∈ w.trees, e.IsFresh := List.forall_mem_singleton.2 hf
  have hr : (w.run 0 actions).trees = [((sum 1).hashCode 0).2, changed] := rfl
  have he : changed ∈ (w.run 0 actions).trees := by
    rw [hr]
    simp
  obtain ⟨-, h⟩ := keys_of_run hw actions he
  exact ⟨hw, hr, (h [] changed rfl).1⟩

end Workspace

end ScalarExpr
