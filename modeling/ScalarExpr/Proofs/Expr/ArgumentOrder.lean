import ScalarExpr.Function.Call
import ScalarExpr.Proofs.Evaluation.Deterministic
import ScalarExpr.Proofs.Expr.Skeleton
/-!
What a key says of the order of arguments. The key of a call has the keys of the arguments one after
the other and nothing between them; exchanging two arguments leaves it as it is exactly if their
keys commute as words, and words commute only as powers of one word.
-/
namespace ScalarExpr

set_option autoImplicit true

/-! ### Words that commute -/

theorem flatten_replicate_comm (w : List α) (m n : Nat) :
    (List.replicate m w).flatten ++ (List.replicate n w).flatten =
      (List.replicate n w).flatten ++ (List.replicate m w).flatten := by
  rw [← List.flatten_append, ← List.flatten_append, List.replicate_append_replicate,
    List.replicate_append_replicate, Nat.add_comm]

/-- Two words that commute are powers of one word. -/
theorem exists_replicate_of_append_comm {x y : List α} (h : x ++ y = y ++ x) :
    ∃ w m n, x = (List.replicate m w).flatten ∧ y = (List.replicate n w).flatten := by
  induction hl : x.length + y.length using Nat.strongRecOn generalizing x y with
  | ind l ih =>
    subst hl
    by_cases hx : x = []
    · exact ⟨y, 0, 1, hx, by simp⟩
    by_cases hy : y = []
    · exact ⟨x, 1, 0, by simp, hy⟩
    have hx := List.length_pos_iff.2 hx
    have hy := List.length_pos_iff.2 hy
    -- the shorter word begins the longer one, and commutes with what is left of it
    obtain ⟨z, rfl, hz⟩ | ⟨z, rfl, hz⟩ := List.append_eq_append_iff.1 h
    · rw [List.length_append] at ih
      obtain ⟨w, m, n, rfl, rfl⟩ := ih _ (by omega) hz rfl
      refine ⟨w, m, m + n, rfl, ?_⟩
      rw [← List.flatten_append, List.replicate_append_replicate]
    · rw [List.length_append] at ih
      obtain ⟨w, m, n, rfl, rfl⟩ := ih _ (by omega) hz rfl
      refine ⟨w, m + n, m, ?_, rfl⟩
      rw [← List.flatten_append, List.replicate_append_replicate]

/-! ### The labels of a key -/

theorem Label.code_ne_nil (l : Label) (o : Int32) : l.code o ≠ [] := by
  cases l <;> exact List.cons_ne_nil _ _

theorem Label.codes_eq_iff {ls ms : List Label} (hl : ∀ l ∈ ls, l.IsPlain)
    (hm : ∀ m ∈ ms, m.IsPlain) : ls.flatMap (code o) = ms.flatMap (code o) ↔ ls = ms := by
  constructor
  · intro h
    induction ls generalizing ms with
    | nil =>
      cases ms with
      | nil => rfl
      | cons m ms => exact absurd (List.append_eq_nil_iff.1 h.symm).1 (m.code_ne_nil o)
    | cons l ls ih =>
      cases ms with
      | nil => exact absurd (List.append_eq_nil_iff.1 h).1 (l.code_ne_nil o)
      | cons m ms =>
        obtain ⟨hl, hls⟩ := List.forall_mem_cons.1 hl
        obtain ⟨hm, hms⟩ := List.forall_mem_cons.1 hm
        obtain ⟨rfl, hst⟩ := code_append_inj hl hm h
        rw [ih hls hms hst]
  · intro h
    rw [h]

namespace Skeleton

mutual

/-- The labels in the order of a key: a node, then its children. -/
def labels : Skeleton → List Label
  | node label children => label :: allLabels children

def allLabels : List Skeleton → List Label
  | [] => []
  | s :: ss => s.labels ++ allLabels ss

end

theorem allLabels_eq_flatMap (ss : List Skeleton) : allLabels ss = ss.flatMap labels := by
  induction ss with
  | nil => rfl
  | cons s ss ih => rw [allLabels, ih, List.flatMap_cons]

theorem labels_ne_nil (s : Skeleton) : s.labels ≠ [] := by
  cases s
  exact List.cons_ne_nil _ _

end Skeleton

namespace Expr

variable {a b e x y : Expr} {f g : CallHead} {o : Int32}

def labels (e : Expr) : List Label := e.skeleton.labels

theorem labels_eq (e : Expr) : e.labels = e.label :: e.children.flatMap labels := by
  rw [labels, skeleton_eq, Skeleton.labels, Skeleton.allLabels_eq_flatMap, List.flatMap_map]
  rfl

/-- The number of children of a node is not in the key. -/
theorem key_eq_flatMap_labels (e : Expr) (o : Int32) : e.key o = e.labels.flatMap (Label.code o) := by
  induction e using induct_children with
  | h e ih =>
    rw [key_eq, labels_eq, keys_eq_flatMap, List.flatMap_cons, List.flatMap_assoc,
      List.flatMap_congr ih]

theorem key_ne_nil (e : Expr) (o : Int32) : e.key o ≠ [] := by
  rw [key_eq]
  exact fun h => e.label.code_ne_nil o (List.append_eq_nil_iff.1 h).1

theorem FitsMemory.labels (h : e.FitsMemory) : ∀ l ∈ e.labels, l.IsPlain := by
  induction e using induct_children with
  | h e ih =>
    rw [labels_eq, List.forall_mem_cons, List.forall_mem_flatMap]
    exact ⟨h.label, fun x hx => ih x hx (All.children h x hx)⟩

theorem FitsMemory.key_eq_iff (ha : a.FitsMemory) (hb : b.FitsMemory) :
    a.key o = b.key o ↔ a.labels = b.labels := by
  rw [key_eq_flatMap_labels, key_eq_flatMap_labels, Label.codes_eq_iff ha.labels hb.labels]

theorem FitsMemory.key_comm_iff (hx : x.FitsMemory) (hy : y.FitsMemory) :
    x.key o ++ y.key o = y.key o ++ x.key o ↔ x.labels ++ y.labels = y.labels ++ x.labels := by
  rw [key_eq_flatMap_labels, key_eq_flatMap_labels, ← List.flatMap_append, ← List.flatMap_append,
    Label.codes_eq_iff (List.forall_mem_append.2 ⟨hx.labels, hy.labels⟩)
      (List.forall_mem_append.2 ⟨hy.labels, hx.labels⟩)]

/-! ### Exchanged arguments -/

theorem IsFresh.call (head : CallHead) (hx : x.IsFresh) (hy : y.IsFresh) :
    (call head [x, y] none).IsFresh :=
  ⟨rfl, hx, hy, trivial⟩

theorem swapped_key_eq_iff (h : f.name.lower = g.name.lower) :
    (call f [x, y] none).key o = (call g [y, x] none).key o ↔
      x.key o ++ y.key o = y.key o ++ x.key o := by
  rw [key_eq, key_eq, label, label, h, List.append_cancel_left_eq]
  simp only [children, keys, List.append_nil]

/-- Where each name is called with one number of arguments, trees whose labels are powers of one
word have the same power of it. -/
theorem HasArity.power_eq {arity : String → Nat} (hx : x.FitsMemory) (hy : y.FitsMemory)
    (hax : x.HasArity arity) (hay : y.HasArity arity) (hm : x.labels = (List.replicate m w).flatten)
    (hn : y.labels = (List.replicate n w).flatten) : m = n := by
  have hcomm : x.labels ++ y.labels = y.labels ++ x.labels := by
    rw [hm, hn, flatten_replicate_comm]
  have hkey := (hx.key_comm_iff (o := 0) hy).2 hcomm
  obtain ⟨hskel, -⟩ := skeleton_of_key_append hx hy hax hay hkey
  have hlabels : x.labels = y.labels := congrArg Skeleton.labels hskel
  have hlength := congrArg List.length hlabels
  rw [hm, hn, List.length_flatten, List.length_flatten] at hlength
  simp only [List.map_replicate, List.sum_replicate_nat] at hlength
  have hw : 0 < w.length := by
    apply List.length_pos_iff.2
    rintro rfl
    rw [List.flatten_replicate_nil] at hm
    exact x.skeleton.labels_ne_nil hm
  exact Nat.eq_of_mul_eq_mul_right hw hlength

/-- Exchanging the arguments of a call keeps the key exactly if the arguments have the same key, or
their labels are different powers of one word, and then no numbers of arguments for the names suit
both arguments. -/
theorem swapped_hashCode_eq_iff (hfg : f.name.lower = g.name.lower) (hx : x.IsFresh)
    (hy : y.IsFresh) (hmx : x.FitsMemory) (hmy : y.FitsMemory) :
    ((call f [x, y] none).hashCode o).1 = ((call g [y, x] none).hashCode o).1 ↔
      (x.hashCode o).1 = (y.hashCode o).1 ∨
        ∃ w m n, m ≠ n ∧ x.labels = (List.replicate m w).flatten ∧
          y.labels = (List.replicate n w).flatten ∧
          ∀ arity, x.HasArity arity → ¬ y.HasArity arity := by
  rw [(hx.call f hy).hashCode_eq, (hy.call g hx).hashCode_eq, hx.hashCode_eq, hy.hashCode_eq,
    swapped_key_eq_iff hfg]
  constructor
  · intro h
    obtain ⟨w, m, n, hm, hn⟩ := exists_replicate_of_append_comm ((hmx.key_comm_iff hmy).1 h)
    by_cases hmn : m = n
    · left
      rw [hmx.key_eq_iff hmy, hm, hn, hmn]
    · right
      exact ⟨w, m, n, hmn, hm, hn, fun arity hax hay =>
        hmn (hax.power_eq hmx hmy hay hm hn)⟩
  · rintro (h | ⟨w, m, n, -, hm, hn, -⟩)
    · rw [h]
    · rw [hmx.key_comm_iff hmy, hm, hn, flatten_replicate_comm]

/-- A text that is joined to nothing, and then to itself. -/
theorem swapped_hashCode_eq_iff_concat :
    let s := column ⟨1, 0, .varchar, "s", none⟩
    let x := Builtin.concat.toCall [s]
    let y := Builtin.concat.toCall [s, x]
    let less (a b : Expr) := (Builtin.compare .lt .text).toCall [a, b]
    x.IsFresh ∧ y.IsFresh ∧ x.FitsMemory ∧ y.FitsMemory ∧
      ((less x y).hashCode 0).1 = ((less y x).hashCode 0).1 := by
  intro s x y less
  have hx : x.IsFresh := ⟨rfl, rfl, trivial⟩
  have hy : y.IsFresh := ⟨rfl, rfl, hx, trivial⟩
  have hname : Text.FitsMemory "concat" := by decide
  have hmx : x.FitsMemory := ⟨hname, trivial, trivial⟩
  have hmy : y.FitsMemory := ⟨hname, trivial, hmx, trivial⟩
  refine ⟨hx, hy, hmx, hmy, (swapped_hashCode_eq_iff rfl hx hy hmx hmy).2 (.inr ?_)⟩
  refine ⟨[.call "concat", .column 1], 1, 2, by decide, rfl, rfl, ?_⟩
  intro arity hax hay
  have hone : 1 = arity "concat" := hax.1
  have htwo : 2 = arity "concat" := hay.1
  omega

/-- Arguments that have different keys are exchanged, which changes the result and not the key. -/
theorem swapped_hashCode_eq_concat :
    let s := column ⟨1, 0, .varchar, "s", none⟩
    let x := Builtin.concat.toCall [s]
    let y := Builtin.concat.toCall [s, x]
    let less (a b : Expr) := (Builtin.compare .lt .text).toCall [a, b]
    let input : Chunk := ⟨[⟨.utf8, [some "a"]⟩], 1, List.forall_mem_singleton.2 rfl⟩
    (newCall .builtins {} "concat" (some .varchar) [s]).run.run {} = (.ok x, {}) ∧
      (newCall .builtins {} "concat" (some .varchar) [s, x]).run.run {} = (.ok y, {}) ∧
      (newCall .builtins {} "lt" (some .bigint) [x, y]).run.run {} = (.ok (less x y), {}) ∧
      (newCall .builtins {} "lt" (some .bigint) [y, x]).run.run {} = (.ok (less y x), {}) ∧
      (x.hashCode 0).1 ≠ (y.hashCode 0).1 ∧
      ((less x y).hashCode 0).1 = ((less y x).hashCode 0).1 ∧
      ((less x y).eval {} (input.row 0)).run.run {} = (.ok (.int 1), {}) ∧
      ((less y x).eval {} (input.row 0)).run.run {} = (.ok (.int 0), {}) := by
  intro s x y less input
  have hx : x.IsFresh := ⟨rfl, rfl, trivial⟩
  have hy : y.IsFresh := ⟨rfl, rfl, hx, trivial⟩
  have hyx : y.key 0 = x.key 0 ++ x.key 0 := by
    rw [key_eq x, key_eq y]
    simp [x, y, Builtin.toCall, label, children, keys, key_eq (.call _ _ _)]
  refine ⟨rfl, rfl, rfl, rfl, ?_, ?_, rfl, rfl⟩
  · rw [hx.hashCode_eq, hy.hashCode_eq, hyx]
    exact fun h => x.key_ne_nil 0 (List.self_eq_append_right.1 h)
  · refine ((hx.call _ hy).hashCode_eq 0).trans (.trans ?_ ((hy.call _ hx).hashCode_eq 0).symm)
    rw [swapped_key_eq_iff rfl, hyx, List.append_assoc]

end Expr

end ScalarExpr
