import ScalarExpr.Planning.Edit
import ScalarExpr.Proofs.Evaluation.Agreement
import ScalarExpr.Proofs.Evaluation.Integers
import ScalarExpr.Proofs.Evaluation.Outcome
import ScalarExpr.Proofs.Expr.Skeleton
import ScalarExpr.Proofs.Expr.Texts
import ScalarExpr.Proofs.Function.Call
/-!
Evaluation of equal trees. Equality overlooks the sign of zeros and the signs that a call has chosen
for integers; trees that are alike in both have one outcome on every row.
-/
namespace ScalarExpr

set_option autoImplicit true

/-- Where a query has its columns, and the settings of its session. -/
structure Scope where
  /-- The place and type of a column, by its id. -/
  column : Int64 → Nat × SqlType
  /-- The slot and type of a column of an enclosing query, by its id. -/
  outer : Int64 → Nat × SqlType
  settings : Settings

theorem Binary64.eq_of_isZero {x y : Binary64} (hx : x.isZero) (hy : y.isZero)
    (h : x.isNegative = y.isNegative) : x = y := by
  have hx : x.bits.toNat % 9223372036854775808 = 0 := of_decide_eq_true hx
  have hy : y.bits.toNat % 9223372036854775808 = 0 := of_decide_eq_true hy
  have hsign : 9223372036854775808 ≤ x.bits.toNat ↔ 9223372036854775808 ≤ y.bits.toNat :=
    decide_eq_decide.1 h
  have hlx := x.bits.toNat_lt
  have hly := y.bits.toNat_lt
  exact congrArg Binary64.mk (UInt64.toNat_inj.1 (by omega))

def Value.isNegativeZero : Value → Bool
  | real x => x.isZero && x.isNegative
  | _ => false

theorem Value.eq_of_same {v w : Value} (h : v.same w) (hz : v.isNegativeZero = w.isNegativeZero) :
    v = w := by
  by_contra hvw
  obtain ⟨x, y, rfl, rfl, hx, hy, hxy⟩ := areOppositeZeros_of_same h hvw
  rw [isNegativeZero, isNegativeZero, hx, hy, Bool.true_and, Bool.true_and] at hz
  exact hxy (Binary64.eq_of_isZero hx hy hz)

theorem Builtin.comparesArguments_of_isDeterministic {b : Builtin} (h : b.isDeterministic) :
    b.comparesArguments := by
  cases b with
  | fixed => cases h
  | _ => rfl

/-- Builtins that are the same differ at most in the signs of their integers. -/
theorem Builtin.same_cases {b c : Builtin} (h : b.same c) (hd : b.isDeterministic) :
    b = c ∨ (∃ op u v, b = .arithmetic op (.int u) ∧ c = .arithmetic op (.int v)) ∨
      ∃ op u₁ u₂ v₁ v₂, b = .compare op (.int u₁ u₂) ∧ c = .compare op (.int v₁ v₂) := by
  unfold same at h
  split at h
  · obtain rfl := of_decide_eq_true h
    exact .inr (.inl ⟨_, _, _, rfl, rfl⟩)
  · obtain rfl := of_decide_eq_true h
    exact .inr (.inr ⟨_, _, _, _, _, rfl, rfl⟩)
  · cases hd
  · cases hd
  · exact .inl (of_decide_eq_true h)

theorem Builtin.category_eq_of_same {b c : Builtin} (h : b.same c) (hd : b.isDeterministic) :
    b.type.category = c.type.category := by
  obtain rfl | ⟨op, u, v, rfl, rfl⟩ | ⟨op, u₁, u₂, v₁, v₂, rfl, rfl⟩ := same_cases h hd
  · rfl
  · cases u <;> cases v <;> rfl
  · rfl

namespace FunctionClass

/-- The types are of one category and sign. -/
def TypedAlike (x y : Expr) : Prop :=
  x.type.category = y.type.category ∧ x.type.isUnsigned = y.type.isUnsigned

variable {xs ys : List Expr} (h : List.Forall₂ TypedAlike xs ys)

include h

theorem allOf_congr (c : Category) : allOf c xs = allOf c ys := by
  induction h with
  | nil => rfl
  | cons hxy _ ih =>
    simp only [allOf, List.all_cons] at ih ⊢
    rw [hxy.1, ih]

theorem arithSignature_congr : arithSignature xs = arithSignature ys := by
  have hu : xs.any (·.type.isUnsigned) = ys.any (·.type.isUnsigned) := by
    induction h with
    | nil => rfl
    | cons hxy _ ih => rw [List.any_cons, List.any_cons, hxy.2, ih]
  rw [arithSignature, arithSignature, allOf_congr h, hu]

theorem compareSignature_congr : compareSignature xs = compareSignature ys := by
  unfold compareSignature
  rw [allOf_congr h, allOf_congr h]
  rcases h with _ | ⟨hx, _ | ⟨hy, _ | _⟩⟩
  · rfl
  · rfl
  · dsimp only
    rw [hx.2, hy.2]
  · rfl

end FunctionClass

/-- The signature is chosen by category and sign of the arguments. -/
theorem CallHead.IsChosenFor.builtin_eq {f g : CallHead} (hf : f.IsChosenFor xs)
    (hg : g.IsChosenFor ys) (h : List.Forall₂ FunctionClass.TypedAlike xs ys)
    (hs : f.builtin.same g.builtin) (hd : f.builtin.isDeterministic) : f.builtin = g.builtin := by
  unfold IsChosenFor at hf hg
  obtain hb | ⟨op, u, v, hb, hc⟩ | ⟨op, u₁, u₂, v₁, v₂, hb, hc⟩ := Builtin.same_cases hs hd
  · exact hb
  · rw [hb] at hf ⊢
    rw [hc] at hg ⊢
    have hf := Eval.pure_inj.1 hf
    have hg := Eval.pure_inj.1 hg
    rw [← hf, ← hg, FunctionClass.arithSignature_congr h]
  · rw [hb] at hf ⊢
    rw [hc] at hg ⊢
    have hf := Eval.pure_inj.1 hf
    have hg := Eval.pure_inj.1 hg
    rw [← hf, ← hg, FunctionClass.compareSignature_congr h]

namespace Expr

open Evaluation

variable {a b e : Expr} {f g : CallHead} {args args' : List Expr} {env : Env} {r : Row}

/-- Columns are where they are in the scope, calls have its settings, and literals fit their
types. -/
def IsIn (σ : Scope) (e : Expr) : Prop :=
  e.All fun
    | column c => (c.index, c.type) = σ.column c.id
    | outer c slot _ => (slot, c.type) = σ.outer c.id
    | literal v t _ => v.fits t
    | call head args _ => head.IsDeterministic args.length ∧ head.settings = σ.settings

/-- Zeros at the same place have the same sign, and so have integers as calls at the same place read
them, unless each call reads them as its arguments ask for. -/
inductive Alike : Expr → Expr → Prop
  | column (c d : ColumnRef) : Alike (column c) (column d)
  | outer (c d : ColumnRef) (slot slot' : Nat) (memo memo' : Memo) :
    Alike (outer c slot memo) (outer d slot' memo')
  | literal {v w : Value} {t u : SqlType} {memo memo' : Memo}
    (h : v.isNegativeZero = w.isNegativeZero) : Alike (literal v t memo) (literal w u memo')
  | call {f g : CallHead} {args args' : List Expr} {memo memo' : Memo}
    (h : f.builtin = g.builtin ∨ f.IsChosenFor args ∧ g.IsChosenFor args')
    (ha : List.Forall₂ Alike args args') : Alike (call f args memo) (call g args' memo')

/-- What the trees give for a row is the same up to the texts of operands. -/
structure Interchange (env : Env) (r : Row) (a b : Expr) : Prop where
  category : a.type.category = b.type.category
  /-- The types may differ in sign where there is no integer. -/
  sign : ∀ n, a.result env r .int = .ok (some n) → a.type.isUnsigned = b.type.isUnsigned
  label : FailsAlike a.render b.render
  result : ∀ k, SameOutcome (a.result env r k) (b.result env r k)
  value : SameOutcome (a.value env r) (b.value env r)

theorem interchange_of_value (hv : a.value env r = b.value env r)
    (ha : ∀ k, a.result env r k = a.value env r >>= (·.as k))
    (hb : ∀ k, b.result env r k = b.value env r >>= (·.as k))
    (hc : a.type.category = b.type.category)
    (hs : ∀ n, a.value env r >>= (·.as .int) = .ok (some n) → a.type.isUnsigned = b.type.isUnsigned)
    (hl : FailsAlike a.render b.render) : Interchange env r a b where
  category := hc
  sign n h := hs n (ha .int ▸ h)
  label := hl
  result k := .of_eq (by rw [ha, hb, hv])
  value := .of_eq hv

/-- A literal that is an integer has the sign of its type. -/
theorem isUnsigned_of_fits {v : Value} (ht : v.fits t) (hu : v.fits u)
    (h : v.as .int = .ok (some n)) : t.isUnsigned = u.isUnsigned := by
  cases v with
  | int m =>
    simp only [Value.fits, Bool.and_eq_true, Bool.not_eq_true'] at ht hu
    rw [ht.2, hu.2]
  | uint m =>
    simp only [Value.fits, Bool.and_eq_true] at ht hu
    rw [ht.2, hu.2]
  | null | real | text | decimal | datetime | duration => cases h

/-- Values of calls are the results, boxed by the types, which agree where there is an integer. -/
theorem sameOutcome_value (hc : f.type.category = g.type.category)
    (hs : ∀ n, (call f args memo).result env r .int = .ok (some n) →
      f.type.isUnsigned = g.type.isUnsigned)
    (hr : ∀ k, SameOutcome ((call f args memo).result env r k)
      ((call g args' memo').result env r k)) :
    SameOutcome ((call f args memo).value env r) ((call g args' memo').value env r) := by
  cases hk : f.type.category.kind? with
  | none =>
    rw [value_call_null hk, value_call_null (hc ▸ hk)]
    exact .ok _
  | some k =>
    rw [value_call hk, value_call (hc ▸ hk)]
    apply (hr k).map_congr
    intro a ha
    cases k with
    | int =>
      cases a with
      | none => rfl
      | some n => rw [Kind.box, Kind.box, hs n ha]
    | real | text => cases a <;> rfl

section Call

variable (hda : (call f args memo).IsDeterministic)
  (hdb : (call g args' memo').IsDeterministic) (ha : List.Forall₂ (Interchange env r) args args')

include ha

theorem label_call : FailsAlike (call f args memo).render (call g args' memo').render := by
  rw [render, render, renderAll_eq_mapM, renderAll_eq_mapM]
  exact (FailsAlike.mapM (ha.imp fun _ _ h => h.label)).bind fun _ _ => .ok _ _

theorem labelledAlike_meanings :
    List.Forall₂ Meaning.LabelledAlike (args.map (·.meaning env)) (args'.map (·.meaning env)) := by
  rw [List.forall₂_map_left_iff, List.forall₂_map_right_iff]
  refine ha.imp fun x y h => ?_
  rw [Meaning.LabelledAlike, meaning_label, meaning_label]
  exact h.label

theorem sameOutcome_results (k : Kind) :
    List.Forall₂ SameOutcome (args.map (·.result env r k)) (args'.map (·.result env r k)) := by
  rw [List.forall₂_map_left_iff, List.forall₂_map_right_iff]
  exact ha.imp fun _ _ h => h.result k

/-- Where all arguments are integers, their types have the same signs. -/
theorem typedAlike_of_operands
    (h : Operation.operands stops (args.map (·.result env r .int)) = .ok (some as)) :
    List.Forall₂ FunctionClass.TypedAlike args args' := by
  have hsome := Operation.forall₂_of_operands h
  rw [List.forall₂_map_left_iff] at hsome
  have hmem := forall₂_and_mem ha
  refine hmem.imp fun x y hxy => ⟨hxy.2.category, ?_⟩
  obtain ⟨n, -, hn⟩ := exists_left_of_forall₂ (R := fun n x => x.result env r .int = .ok (some n))
    hsome.flip hxy.1
  exact hxy.2.sign n hn

theorem builtin_eq_of_operands (hc : f.IsChosenFor args ∧ g.IsChosenFor args')
    (hs : f.builtin.same g.builtin) (hd : f.builtin.isDeterministic)
    (h : Operation.operands stops (args.map (·.result env r .int)) = .ok (some as)) :
    f.builtin = g.builtin :=
  hc.1.builtin_eq hc.2 (typedAlike_of_operands ha h) hs hd

include hda

/-- Where a call has an integer, the types have the same sign. -/
theorem sign_of_chosen (hc : f.IsChosenFor args ∧ g.IsChosenFor args')
    (hs : f.builtin.same g.builtin)
    (hr : (call f args memo).result env r .int = .ok (some n)) :
    f.builtin.type.isUnsigned = g.builtin.type.isUnsigned := by
  have hd := hda.of_head.builtin
  obtain heq | ⟨op, u, v, hf, hg⟩ | ⟨op, u₁, u₂, v₁, v₂, hf, hg⟩ := Builtin.same_cases hs hd
  · rw [heq]
  · rw [hda.result_call (o := .onBits op u) (by rw [hf]; rfl), Operation.run_eq] at hr
    obtain ⟨as, has, hr⟩ := bind_ok_iff.1 hr
    cases as with
    | none => cases hr
    | some as => rw [builtin_eq_of_operands ha hc hs hd has]
  · rw [hf, hg]
    rfl

include hdb

theorem sameOutcome_of_builtin_eq (hb : f.builtin = g.builtin) (hs : f.settings = g.settings)
    (k : Kind) :
    SameOutcome ((call f args memo).result env r k) ((call g args' memo').result env r k) := by
  by_cases hk : f.builtin.rowKind? = some k
  · obtain ⟨o, ho, rfl⟩ := Builtin.exists_operation hda.of_head.builtin hk f.settings
    rw [hda.result_call ho, hdb.result_call (o := o) (by rw [← hb, ← hs, ho]), Operation.run_eq,
      Operation.run_eq]
    exact Operation.sameOutcome_of_apply (sameOutcome_results ha o.operand) fun as _ =>
      Builtin.apply_sameOutcome ho (labelledAlike_meanings ha) as
  · rw [result_refused hk, result_refused (hb ▸ hk), hb]
    exact .refl _

theorem sameOutcome_of_chosen (hc : f.IsChosenFor args ∧ g.IsChosenFor args')
    (hs : f.builtin.same g.builtin) (hset : f.settings = g.settings) (k : Kind) :
    SameOutcome ((call f args memo).result env r k) ((call g args' memo').result env r k) := by
  have hd := hda.of_head.builtin
  -- Signatures can differ only where an operand is missing, and then neither is used.
  obtain heq | ⟨op, u, v, hf, hg⟩ | ⟨op, u₁, u₂, v₁, v₂, hf, hg⟩ := Builtin.same_cases hs hd
  · exact sameOutcome_of_builtin_eq hda hdb ha heq hset k
  · cases k with
    | int =>
      rw [hda.result_call (o := .onBits op u) (by rw [hf]; rfl),
        hdb.result_call (o := .onBits op v) (by rw [hg]; rfl), Operation.run_eq, Operation.run_eq]
      apply Operation.sameOutcome_of_apply (sameOutcome_results ha .int)
      intro as has
      obtain rfl : u = v := by
        simpa [hf, hg] using builtin_eq_of_operands ha hc hs hd has
      exact Operation.checked_sameOutcome (fun hl => intResult_sameOutcome hl op u)
        (labelledAlike_meanings ha) as
    | real | text =>
      rw [result_refused (by rw [hf]; nofun), result_refused (by rw [hg]; nofun), hf, hg]
      exact .refl _
  · cases k with
    | int =>
      rw [hda.result_call (o := .comparison op (.int u₁ u₂)) (by rw [hf]; rfl),
        hdb.result_call (o := .comparison op (.int v₁ v₂)) (by rw [hg]; rfl), Operation.run_eq,
        Operation.run_eq]
      apply Operation.sameOutcome_of_apply (sameOutcome_results ha .int)
      intro as has
      obtain ⟨rfl, rfl⟩ : u₁ = v₁ ∧ u₂ = v₂ := by
        simpa [hf, hg] using builtin_eq_of_operands ha hc hs hd has
      exact .refl _
    | real | text =>
      rw [result_refused (by rw [hf]; nofun), result_refused (by rw [hg]; nofun), hf, hg]
      exact .refl _

theorem interchange_call (hc : f.builtin = g.builtin ∨ f.IsChosenFor args ∧ g.IsChosenFor args')
    (hs : f.builtin.same g.builtin) (hset : f.settings = g.settings) :
    Interchange env r (call f args memo) (call g args' memo') := by
  have hcat : f.type.category = g.type.category := by
    rw [hda.of_head.type, hdb.of_head.type]
    exact Builtin.category_eq_of_same hs hda.of_head.builtin
  have hsign : ∀ n, (call f args memo).result env r .int = .ok (some n) →
      f.type.isUnsigned = g.type.isUnsigned := by
    intro n hr
    rw [hda.of_head.type, hdb.of_head.type]
    obtain heq | hc := hc
    · rw [heq]
    · exact sign_of_chosen hda ha hc hs hr
  have hres : ∀ k, SameOutcome ((call f args memo).result env r k)
      ((call g args' memo').result env r k) := by
    intro k
    obtain heq | hc := hc
    · exact sameOutcome_of_builtin_eq hda hdb ha heq hset k
    · exact sameOutcome_of_chosen hda hdb ha hc hs hset k
  exact ⟨hcat, hsign, label_call ha, hres, sameOutcome_value hcat hsign hres⟩

end Call

theorem IsIn.isDeterministic (h : e.IsIn σ) : e.IsDeterministic :=
  .of_all (fun _ _ _ hc => hc.1) h

theorem forall₂_of_allSame {p : Expr → Prop}
    (h : ∀ x ∈ args, ∀ y, p y → x.same y → x.Alike y → Interchange env r x y)
    (hp : ∀ y ∈ args', p y) (hs : allSame args args') (ha : List.Forall₂ Alike args args') :
    List.Forall₂ (Interchange env r) args args' := by
  induction ha with
  | nil => exact .nil
  | @cons x y xs ys hxy _ ih =>
    rw [allSame, Bool.and_eq_true] at hs
    exact .cons (h x (by simp) y (hp y (by simp)) hs.1 hxy)
      (ih (fun z hz => h z (by simp [hz])) (fun z hz => hp z (by simp [hz])) hs.2)

/-- Trees of one scope that are equal and alike are interchangeable on every row. -/
theorem IsIn.interchange (ha : a.IsIn σ) (hb : b.IsIn σ) (hs : a.same b) (h : a.Alike b) :
    Interchange env r a b := by
  induction a generalizing b with
  | column c =>
    cases h with
    | column _ d =>
      have hid : c.id = d.id := of_decide_eq_true hs
      have hcd : (c.index, c.type) = (d.index, d.type) := by
        rw [show _ = σ.column c.id from ha, show _ = σ.column d.id from hb, hid]
      obtain ⟨hi, ht⟩ := Prod.mk.inj hcd
      refine interchange_of_value ?_ (fun _ => rfl) (fun _ => rfl) (congrArg _ ht)
        (fun _ _ => congrArg _ ht) (.ok _ _)
      show r.get c.index c.type = r.get d.index d.type
      rw [hi, ht]
  | outer c slot memo =>
    cases h with
    | outer _ d _ slot' =>
      have hid : c.id = d.id := of_decide_eq_true hs
      have hcd : (slot, c.type) = (slot', d.type) := by
        rw [show _ = σ.outer c.id from ha, show _ = σ.outer d.id from hb, hid]
      obtain ⟨rfl, ht⟩ := Prod.mk.inj hcd
      exact interchange_of_value rfl (fun _ => rfl) (fun _ => rfl) (congrArg _ ht)
        (fun _ _ => congrArg _ ht) (.ok _ _)
  | literal v t memo =>
    cases h with
    | @literal _ w _ u _ _ hz =>
      rw [same, Bool.and_eq_true] at hs
      obtain rfl := Value.eq_of_same hs.2 hz
      exact interchange_of_value rfl (fun _ => rfl) (fun _ => rfl) (of_decide_eq_true hs.1)
        (fun _ hn => isUnsigned_of_fits ha hb hn) (.refl _)
  | call f args memo ih =>
    cases h with
    | @call _ g _ args' _ _ hc hargs =>
      obtain ⟨⟨hda, hfs⟩, ha'⟩ := all_call.1 ha
      obtain ⟨⟨-, hgs⟩, hb'⟩ := all_call.1 hb
      rw [same, Builtin.comparesArguments_of_isDeterministic hda.builtin, Bool.and_eq_true,
        Bool.and_eq_true] at hs
      obtain ⟨⟨-, hbuiltin⟩, hs⟩ := hs
      have hall := forall₂_of_allSame (fun x hx y hy => ih x hx (ha' x hx) hy) hb' hs hargs
      exact interchange_call ha.isDeterministic hb.isDeterministic hall hc hbuiltin
        (hfs.trans hgs.symm)

/-- Trees of one scope that are equal and alike have one outcome on every row, as values and as
results of every kind. -/
theorem IsIn.eval_sameOutcome (ha : a.IsIn σ) (hb : b.IsIn σ) (hs : a.same b) (h : a.Alike b)
    (env : Env) (r : Row) (g : Generators) :
    (∃ x y, (a.eval env r).run.run g = (x, g) ∧ (b.eval env r).run.run g = (y, g) ∧
        SameOutcome x y) ∧
      ∀ k, ∃ x y, (a.evalAs env r k).run.run g = (x, g) ∧ (b.evalAs env r k).run.run g = (y, g) ∧
        SameOutcome x y := by
  have hi : Interchange env r a b := ha.interchange hb hs h
  have hda := ha.isDeterministic
  have hdb := hb.isDeterministic
  exact ⟨⟨_, _, hda.eval_run env r g, hdb.eval_run env r g, hi.value⟩,
    fun k => ⟨_, _, hda.evalAs_run env r k g, hdb.evalAs_run env r k g, hi.result k⟩⟩

/-- Two spellings of a comparison whose left side overflows; to its right a NULL is unsigned in one
and signed in the other. -/
theorem IsIn.eval_sameOutcome_overflow :
    let n name := column ⟨1, 0, .bigint, name, none⟩
    let one := literal (.int 1) .bigint none
    let plus u := (Builtin.arithmetic .plus (.int u)).toCall
    let a := (Builtin.compare .eq (.int false true)).toCall
      [plus false [n "n", one], plus true [n "n", literal .null .unsignedBigint none]]
    let b := (Builtin.compare .eq (.int false false)).toCall
      [plus false [n "k", one], plus false [n "k", literal .null .bigint none]]
    let σ : Scope := ⟨fun _ => (0, .bigint), fun _ => (0, .bigint), {}⟩
    let input : Chunk := ⟨[⟨.int64, [some 9223372036854775807]⟩], 1,
      List.forall_mem_singleton.2 rfl⟩
    a.IsIn σ ∧ b.IsIn σ ∧ a.same b ∧ a.Alike b ∧
      (a.eval {} (input.row 0)).run.run {} =
        (.error (.error (.outOfRange "BIGINT" "(n + 1)")), {}) ∧
      ∃ y, (b.eval {} (input.row 0)).run.run {} = (y, {}) ∧
        SameOutcome (.error (.error (.outOfRange "BIGINT" "(n + 1)"))) y := by
  intro n one plus a b σ input
  have hone : Value.fits .bigint (.int 1) := by decide
  have ha : a.IsIn σ :=
    ⟨⟨⟨rfl, rfl, rfl⟩, rfl⟩, ⟨⟨⟨rfl, rfl, rfl⟩, rfl⟩, rfl, hone, trivial⟩,
      ⟨⟨⟨rfl, rfl, rfl⟩, rfl⟩, rfl, rfl, trivial⟩, trivial⟩
  have hb : b.IsIn σ :=
    ⟨⟨⟨rfl, rfl, rfl⟩, rfl⟩, ⟨⟨⟨rfl, rfl, rfl⟩, rfl⟩, rfl, hone, trivial⟩,
      ⟨⟨⟨rfl, rfl, rfl⟩, rfl⟩, rfl, rfl, trivial⟩, trivial⟩
  have hs : a.same b := by decide
  have hab : a.Alike b :=
    .call (.inr ⟨Eval.pure_inj.2 (by decide), Eval.pure_inj.2 (by decide)⟩)
      (.cons (.call (.inl rfl) (.cons (.column _ _) (.cons (.literal rfl) .nil)))
        (.cons (.call (.inr ⟨Eval.pure_inj.2 (by decide), Eval.pure_inj.2 (by decide)⟩)
          (.cons (.column _ _) (.cons (.literal rfl) .nil))) .nil))
  obtain ⟨⟨x, y, hx, hy, hxy⟩, -⟩ := ha.eval_sameOutcome hb hs hab {} (input.row 0) {}
  have hr : (a.eval {} (input.row 0)).run.run {} =
      (.error (.error (.outOfRange "BIGINT" "(n + 1)")), {}) := rfl
  cases hx.symm.trans hr
  exact ⟨ha, hb, hs, hab, hr, y, hy, hxy⟩

/-- Trees that are equal and not alike: a comparison with the other zero, and a sum that was built
for an unsigned number and then given a signed one. -/
theorem IsIn.eval_ne_of_same :
    let x := column ⟨1, 0, .double, "x", none⟩
    let isZero bits := (Builtin.compare .eq .real).toCall [x, literal (.real ⟨bits⟩) .double none]
    let one := literal (.int 1) .bigint none
    let plus u n := (Builtin.arithmetic .plus (.int u)).toCall [n, literal (.int (-1)) .bigint none]
    let edited := (plus true (literal (.uint 1) .unsignedBigint none)).editAt (fun _ => one) [0]
    let σ : Scope := ⟨fun _ => (0, .double), fun _ => (0, .double), {}⟩
    let input : Chunk := ⟨[⟨.float64, [some ⟨0⟩]⟩], 1, List.forall_mem_singleton.2 rfl⟩
    ((isZero 0).IsIn σ ∧ (isZero 0x8000000000000000).IsIn σ ∧
      (isZero 0).same (isZero 0x8000000000000000) ∧
      ((isZero 0).eval {} (input.row 0)).run.run {} = (.ok (.int 1), {}) ∧
      ((isZero 0x8000000000000000).eval {} (input.row 0)).run.run {} = (.ok (.int 0), {})) ∧
    (plus false one).IsIn σ ∧ edited.IsIn σ ∧ (plus false one).same edited ∧
      ((plus false one).eval {} .empty).run.run {} = (.ok (.int 0), {}) ∧
      (edited.eval {} .empty).run.run {} =
        (.error (.error (.outOfRange "BIGINT UNSIGNED" "(1 + -1)")), {}) := by
  intro x isZero one plus edited σ input
  have hint (n : Int64) : Value.fits .bigint (.int n) := by
    show (decide (SqlType.category .bigint = .int) && !SqlType.isUnsigned .bigint) = true
    decide
  have hreal (bits : UInt64) : (isZero bits).IsIn σ :=
    ⟨⟨⟨rfl, rfl, rfl⟩, rfl⟩, rfl, rfl, trivial⟩
  have hplus (u : Bool) : (plus u one).IsIn σ :=
    ⟨⟨⟨rfl, rfl, rfl⟩, rfl⟩, hint 1, hint (-1), trivial⟩
  exact ⟨⟨hreal 0, hreal _, by decide, rfl, rfl⟩, hplus false, hplus true, by decide, rfl, rfl⟩

end Expr

end ScalarExpr
