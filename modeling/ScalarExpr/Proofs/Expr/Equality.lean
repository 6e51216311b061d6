import ScalarExpr.Proofs.Expr.Skeleton
import ScalarExpr.Proofs.Planning.Edit
import ScalarExpr.Proofs.Value.Equality
/-!
Equality of trees as a relation. It is symmetric and transitive, and a copy of a tree is equal to
what the tree is equal to; but a tree is equal to itself only if no literal in it is a NaN.
-/
namespace ScalarExpr

set_option autoImplicit true

/-! ### Equal builtins -/

namespace Builtin

/-- The builtin without what its equality does not look at. -/
def shape : Builtin → Builtin
  | arithmetic op (.int _) => arithmetic op (.int false)
  | compare op (.int _ _) => compare op (.int false false)
  | rand _ => rand .rowSeed
  | fixed _ _ answer => fixed "" .unspecified answer
  | b => b

theorem same_iff (b c : Builtin) : b.same c ↔ b.shape = c.shape := by
  unfold same
  split
  case h_5 =>
    rw [decide_eq_true_iff]
    refine ⟨fun h => h ▸ rfl, fun h => ?_⟩
    -- No two builtins of one shape are left but equal ones.
    unfold shape at h
    split at h <;> split at h <;> grind
  all_goals simp [shape]

theorem comparesArguments_shape (b : Builtin) :
    b.shape.comparesArguments = b.comparesArguments := by
  cases b with
  | arithmetic op s => cases s <;> rfl
  | compare op s => cases s <;> rfl
  | _ => rfl

theorem comparesArguments_eq {b c : Builtin} (h : b.shape = c.shape) :
    b.comparesArguments = c.comparesArguments := by
  rw [← comparesArguments_shape, h, comparesArguments_shape]

theorem shape_duplicate (b : Builtin) (g : Generators) : (b.duplicate.run g).1.shape = b.shape := by
  cases b with
  | rand source => cases source <;> rfl
  | _ => rfl

end Builtin

/-! ### Equal trees -/

namespace Expr

variable {a b c : Expr} {args args' : List Expr} {head head' : CallHead} {memo memo' : Memo}

theorem same_call_iff :
    (call head args memo).same (call head' args' memo') ↔
      head.name.lower = head'.name.lower ∧ head.builtin.shape = head'.builtin.shape ∧
        (head.builtin.comparesArguments →
          List.Forall₂ (fun a b => a.same b = true) args args') := by
  rw [same, Bool.and_eq_true, Bool.and_eq_true, decide_eq_true_iff, Builtin.same_iff, and_assoc,
    Bool.or_eq_true, Bool.not_eq_true', allSame_iff]
  cases head.builtin.comparesArguments <;> simp

theorem same_symm (h : a.same b) : b.same a := by
  induction a generalizing b with
  | column c =>
    cases b with
    | column d => exact decide_eq_true (of_decide_eq_true h).symm
    | _ => cases h
  | outer c slot memo =>
    cases b with
    | outer d slot' memo' => exact decide_eq_true (of_decide_eq_true h).symm
    | _ => cases h
  | literal v t memo =>
    cases b with
    | literal w u memo' =>
      rw [same, Bool.and_eq_true, decide_eq_true_iff] at h ⊢
      exact ⟨h.1.symm, Value.same_symm h.2⟩
    | _ => cases h
  | call head args memo ih =>
    cases b with
    | call head' args' memo' =>
      obtain ⟨hname, hshape, hargs⟩ := same_call_iff.1 h
      refine same_call_iff.2 ⟨hname.symm, hshape.symm, fun hc => ?_⟩
      have hmem := forall₂_and_mem (hargs (Builtin.comparesArguments_eq hshape ▸ hc))
      exact (hmem.imp fun x y hxy => ih x hxy.1 hxy.2).flip
    | _ => cases h

theorem same_trans (hab : a.same b) (hbc : b.same c) : a.same c := by
  induction a generalizing b c with
  | column =>
    cases b with
    | column =>
      cases c with
      | column => exact decide_eq_true ((of_decide_eq_true hab).trans (of_decide_eq_true hbc))
      | _ => cases hbc
    | _ => cases hab
  | outer =>
    cases b with
    | outer =>
      cases c with
      | outer => exact decide_eq_true ((of_decide_eq_true hab).trans (of_decide_eq_true hbc))
      | _ => cases hbc
    | _ => cases hab
  | literal v t memo =>
    cases b with
    | literal =>
      cases c with
      | literal =>
        rw [same, Bool.and_eq_true, decide_eq_true_iff] at hab hbc ⊢
        exact ⟨hab.1.trans hbc.1, Value.same_trans hab.2 hbc.2⟩
      | _ => cases hbc
    | _ => cases hab
  | call head args memo ih =>
    cases b with
    | call =>
      cases c with
      | call =>
        obtain ⟨hname, hshape, hargs⟩ := same_call_iff.1 hab
        obtain ⟨hname', hshape', hargs'⟩ := same_call_iff.1 hbc
        refine same_call_iff.2 ⟨hname.trans hname', hshape.trans hshape', fun hc => ?_⟩
        have hmem := forall₂_and_mem (hargs hc)
        exact forall₂_comp (fun x y z hxy hyz => ih x hxy.1 hxy.2 hyz) hmem
          (hargs' (Builtin.comparesArguments_eq hshape ▸ hc))
      | _ => cases hbc
    | _ => cases hab

/-- A copy is equal to all that the tree is equal to. -/
theorem duplicate_same (g : Generators) (h : a.same b) : (a.duplicate.run g).1.same b := by
  induction a generalizing b g with
  | column | outer | literal => exact h
  | call head args memo ih =>
    cases b with
    | call head' args' memo' =>
      obtain ⟨hname, hshape, hargs⟩ := same_call_iff.1 h
      obtain ⟨g', hcopy⟩ := exists_duplicate_call head args memo g
      rw [hcopy]
      have hcopied := Builtin.shape_duplicate head.builtin g'
      refine same_call_iff.2 ⟨hname, hcopied.trans hshape, fun hc => ?_⟩
      have hargs := hargs (Builtin.comparesArguments_eq hcopied ▸ hc)
      have hcopies := forall₂_duplicateAll (R := fun x y => ∀ b, x.same b → y.same b)
        (fun x hx g b => ih x hx g) g
      exact forall₂_comp (fun x y z hxy hyz => hxy z hyz) hcopies.flip hargs
    | _ => cases h

theorem duplicate_same_self (a : Expr) (g : Generators) :
    (a.duplicate.run g).1.same a ↔ a.same a :=
  ⟨fun h => same_trans (same_symm h) h, duplicate_same g⟩

/-- No literal of the tree is a NaN. -/
def HasNoNaN (e : Expr) : Prop :=
  e.All fun
    | literal v _ _ => ¬ v.isNaN
    | _ => True

theorem IsShipped.same_self (ha : a.IsShipped) : a.same a ↔ a.HasNoNaN := by
  induction a with
  | column | outer => exact iff_of_true (decide_eq_true rfl) trivial
  | literal v t memo =>
    rw [same, decide_eq_true rfl, Bool.true_and]
    exact v.same_self
  | call head args memo ih =>
    obtain ⟨hhead, ha⟩ := all_call.1 ha
    have hargs : List.Forall₂ (fun a b => a.same b = true) args args ↔ ∀ e ∈ args, e.HasNoNaN :=
      List.forall₂_same.trans (forall₂_congr fun e he => ih e he (ha e he))
    rw [same_call_iff, HasNoNaN, all_call, forall_prop_of_true (comparesArguments_of_mem hhead),
      hargs]
    simp only [true_and]
    rfl

/-- Equality is symmetric and transitive. The trees that it is reflexive on, themselves and in
copies, are those without a NaN among their literals. -/
theorem IsShipped.same_equivalence (ha : a.IsShipped) :
    (a.same a ↔ a.HasNoNaN) ∧ (∀ g, (a.duplicate.run g).1.same a ↔ a.HasNoNaN) ∧
      (∀ b, a.same b → b.same a) ∧ ∀ b c, a.same b → b.same c → a.same c :=
  ⟨ha.same_self, fun g => (duplicate_same_self a g).trans ha.same_self, fun _ => same_symm,
    fun _ _ => same_trans⟩

/-- A random number, and a column of an enclosing query below it, compared to a zero. -/
theorem IsShipped.same_equivalence_comparison :
    let tree source zero := (Builtin.compare .lt .real).toCall
      [(Builtin.rand source).toCall [outer ⟨1, 0, .bigint, "n", none⟩ 0 none],
        literal (.real ⟨zero⟩) .double none]
    let a := tree (.generator 0) 0
    let b := tree .rowSeed 0x8000000000000000
    a.IsShipped ∧ a.HasNoNaN ∧ a.same a ∧ (a.duplicate.run {}).1.same a ∧ a.same b ∧ b.same a := by
  intro tree a b
  have hs : a.IsShipped := ⟨by decide, ⟨by decide, trivial, trivial⟩, trivial, trivial⟩
  have hn : a.HasNoNaN := ⟨trivial, ⟨trivial, trivial, trivial⟩, Bool.false_ne_true, trivial⟩
  have hab : a.same b := by decide
  obtain ⟨hself, hcopy, hsymm, -⟩ := hs.same_equivalence
  exact ⟨hs, hn, hself.2 hn, (hcopy {}).2 hn, hab, hsymm b hab⟩

/-- A NaN is not equal to itself, and a copy of it is not equal to it. -/
theorem IsShipped.not_same_nan :
    let a := literal (.real .nan) .double none
    a.IsShipped ∧ a.same a = false ∧ ∀ g, (a.duplicate.run g).1.same a = false := by
  intro a
  have ha : a.same a = false := by decide
  exact ⟨trivial, ha, fun _ => ha⟩

end Expr

end ScalarExpr
