import ScalarExpr.Proofs.Evaluation.Agreement
import ScalarExpr.Proofs.Evaluation.Integers
import ScalarExpr.Proofs.Expr.Texts
import ScalarExpr.Proofs.Function.Call
/-!
Trees of integer arithmetic, complements and comparisons. Their evaluation works on bits, whose sign
changes from node to node; the value of a row is the integer that the tree means.
-/
namespace ScalarExpr

set_option autoImplicit true

/-- The integer that a value is, if it is one. -/
def Value.integer? : Value → Option Int
  | int n => some n.toInt
  | uint n => some n.toNat
  | _ => none

theorem Value.integer?_box (t : SqlType) (a : Option Int64) :
    (Kind.int.box t a).integer? = a.map (Evaluation.widen t.isUnsigned) := by
  cases a with
  | none => rfl
  | some n =>
    rw [Kind.box]
    split
    case isTrue h =>
      rw [h]
      rfl
    case isFalse h =>
      rw [eq_false_of_ne_true h]
      rfl

/-! ### Integers with NULL and errors -/

namespace Integral

/-- An integer of the type, or the error that it is out of range. -/
def inRange (t : SqlType) (operands : String) (n : Int) : Except Failure (Option Int) :=
  if InRange t.isUnsigned n then .ok (some n)
  else .error (.error (.outOfRange (if t.isUnsigned then "BIGINT UNSIGNED" else "BIGINT") operands))

/-- Behind a first operand that is NULL the second one is not looked at. -/
def arithmetic (op : ArithOp) (t : SqlType) (operands : String)
    (x y : Except Failure (Option Int)) : Except Failure (Option Int) := do
  let some m ← x | return none
  let some n ← y | return none
  inRange t operands (op.onInts m n)

def complement (x : Except Failure (Option Int)) : Except Failure (Option Int) := do
  let some n ← x | return none
  return some ((-1 - n) % Int.pow 2 64)

/-- Both operands are looked at, NULL or not. -/
def comparison (op : CompareOp) (x y : Except Failure (Option Int)) :
    Except Failure (Option Int) := do
  let m ← x
  let n ← y
  match m, n with
  | some m, some n => return some (if op.holds (compare m n) then 1 else 0)
  | _, _ => return none

/-- A call of the builtin, on the integers that its arguments mean. -/
def call (b : Builtin) (t : SqlType) (texts : List String)
    (xs : List (Except Failure (Option Int))) : Except Failure (Option Int) :=
  match b, xs with
  | .arithmetic op _, [x, y] =>
    arithmetic op t ("(" ++ (" " ++ op.symbol ++ " ").intercalate texts ++ ")") x y
  | .bitNeg, [x] => complement x
  | .compare op _, [x, y] => comparison op x y
  | _, _ => .ok none

end Integral

namespace Expr

mutual

/-- The integer that a tree means for a row; each node is read by its own type. -/
def integer (env : Env) (r : Row) : Expr → Except Failure (Option Int)
  | column c => Value.integer? <$> r.get c.index c.type
  | outer _ slot _ => .ok (env.slot slot).integer?
  | literal v _ _ => .ok v.integer?
  | call head args _ => Integral.call head.builtin head.type (args.map text) (integers env r args)

def integers (env : Env) (r : Row) : List Expr → List (Except Failure (Option Int))
  | [] => []
  | e :: es => e.integer env r :: integers env r es

end

/-- Columns and literals are integers of the sign that their type says, and calls are arithmetic of
operands of one sign, complements, and comparisons. -/
def IsIntegral (env : Env) (r : Row) (e : Expr) : Prop :=
  e.All fun
    | column c => c.type.category = .int ∧ ∀ v, r.get c.index c.type = .ok v → v.fits c.type
    | outer c slot _ => c.type.category = .int ∧ (env.slot slot).fits c.type
    | literal v t _ => t.category = .int ∧ v.fits t
    | call head args _ => head.IsDeterministic args.length ∧ head.IsChosenFor args ∧
        match head.builtin with
        | .arithmetic _ _ => ∀ x ∈ args, ∀ y ∈ args, x.type.isUnsigned = y.type.isUnsigned
        | .bitNeg | .compare _ _ => True
        | _ => False

end Expr

/-! ### Integers and bits -/

theorem Value.exists_render_of_fits {v : Value} (ht : t.category = .int) (hv : v.fits t) :
    ∃ s, v.render = .ok s := by
  cases v with
  | null | int | uint => exact ⟨_, rfl⟩
  | real | text | decimal | datetime | duration => simp [fits, ht] at hv

namespace Integral

open Evaluation Operation

variable {a b : Except Failure (Option Int64)}

theorem arithmetic_widen {op : ArithOp} {t : SqlType} {x y : Meaning} {text : String}
    (ht : t = (Builtin.arithmetic op (.int u)).type)
    (hs : Meaning.infixText op.symbol [x, y] = .ok text) :
    arithmetic op t text (Option.map (widen u) <$> a) (Option.map (widen u) <$> b) =
      Option.map (widen u) <$> (onBits op u).run [x, y] [a, b] := by
  rcases a with f | _ | a
  · rfl
  · rfl
  rcases b with f | _ | b
  · rfl
  · rfl
  show inRange t text (op.onInts (widen u a) (widen u b)) =
    Option.map (widen u) <$> intResult op u x y a b
  have hu : t.isUnsigned = u := ht ▸ Builtin.isUnsigned_arithmetic op u
  have hc : t.category = .int := by
    subst ht
    cases u <;> rfl
  rw [intResult_eq, inRange, ← ht, hu]
  by_cases h : InRange u (op.onInts (widen u a) (widen u b))
  · rw [if_pos h, if_pos h]
    exact congrArg (Except.ok ∘ some) (widen_ofInt h).symm
  · rw [if_neg h, if_neg h, Meaning.outOfRange, hs, hc, hu]
    rfl

theorem complement_widen (u : Bool) (ms : List Meaning) :
    complement (Option.map (widen u) <$> a) =
      Option.map (widen true) <$>
        (total .int .int true fun as => as.head?.map (~~~ ·)).run ms [a] := by
  rcases a with f | _ | a
  · rfl
  · rfl
  · exact congrArg (Except.ok ∘ some) (widen_not u a).symm

theorem comparison_widen (op : CompareOp) (u v : Bool) (ms : List Meaning) :
    comparison op (Option.map (widen u) <$> a) (Option.map (widen v) <$> b) =
      Option.map (widen false) <$> (Operation.comparison op (.int u v)).run ms [a, b] := by
  rcases a with f | _ | a
  · rfl
  · rcases b with f | _ | b <;> rfl
  rcases b with f | _ | b
  · rfl
  · rfl
  show Except.ok (some (if op.holds (compare (widen u a) (widen v b)) then 1 else 0)) =
    Except.ok (some (widen false (truth (op.holds (compare (widen u a) (widen v b))))))
  cases op.holds (compare (widen u a) (widen v b)) <;> rfl

end Integral

namespace Expr

open Evaluation

variable {e : Expr} {env : Env} {r : Row} {head : CallHead} {args : List Expr} {memo : Memo}

theorem integers_eq_map (es : List Expr) : integers env r es = es.map (integer env r) := by
  induction es with
  | nil => rfl
  | cons e es ih => rw [integers, ih, List.map_cons]

theorem IsIntegral.hasTexts (h : e.IsIntegral env r) : e.HasTexts := by
  apply All.imp _ h
  intro e he
  cases e with
  | literal v t memo => exact Value.exists_render_of_fits he.1 he.2
  | column | outer | call => trivial

theorem IsIntegral.isDeterministic (h : e.IsIntegral env r) : e.IsDeterministic :=
  .of_all (fun _ _ _ hc => hc.1) h

/-- What the evaluation of a tree gives are the bits of the integer that it means. -/
structure MeansInteger (env : Env) (r : Row) (e : Expr) : Prop where
  category : e.type.category = .int
  integer : e.integer env r = Option.map (widen e.type.isUnsigned) <$> e.result env r .int
  value : e.value env r = Kind.int.box e.type <$> e.result env r .int

theorem meansInteger_of_value (hc : e.type.category = .int)
    (hi : e.integer env r = Value.integer? <$> e.value env r)
    (hr : e.result env r .int = e.value env r >>= (·.as .int))
    (hv : ∀ v, e.value env r = .ok v → v.fits e.type) : e.MeansInteger env r := by
  cases h : e.value env r with
  | error f =>
    rw [h] at hi hr
    exact ⟨hc, by rw [hi, hr]; rfl, by rw [h, hr]; rfl⟩
  | ok v =>
    obtain ⟨a, rfl⟩ := Value.eq_box_of_fits (k := .int) (hv v h) hc
    rw [h] at hi hr
    have ha : e.result env r .int = .ok a := hr.trans (Kind.as_box e.type .int a)
    refine ⟨hc, ?_, by rw [ha, h]; rfl⟩
    rw [hi, ha]
    exact congrArg Except.ok (Value.integer?_box e.type a)

section Call

variable {x y : Expr}

theorem meansInteger_of_result (hc : head.type.category = .int)
    (hr : Integral.call head.builtin head.type (args.map text) (args.map (integer env r)) =
      Option.map (widen head.type.isUnsigned) <$> (call head args memo).result env r .int) :
    (call head args memo).MeansInteger env r where
  category := hc
  integer := by
    rw [integer, integers_eq_map, type_call]
    exact hr
  value := value_call (Category.kind?_eq_some_iff.2 hc) env r

theorem meansInteger_arithmetic (hd : (call head [x, y] memo).IsDeterministic)
    (hb : head.builtin = .arithmetic op (.int u)) (hx : x.MeansInteger env r)
    (hy : y.MeansInteger env r) (hxu : x.type.isUnsigned = u) (hyu : y.type.isUnsigned = u)
    (ht : ∀ e ∈ [x, y], e.HasTexts) : (call head [x, y] memo).MeansInteger env r := by
  have htype : head.type = (Builtin.arithmetic op (.int u)).type := hb ▸ hd.of_head.type
  have hc : head.type.category = .int := by
    rw [htype]
    cases u <;> rfl
  have hu : head.type.isUnsigned = u := htype ▸ Builtin.isUnsigned_arithmetic op u
  have hs : Meaning.infixText op.symbol [x.meaning env, y.meaning env] =
      .ok ("(" ++ (" " ++ op.symbol ++ " ").intercalate [x.text, y.text] ++ ")") := by
    have hi := infixText_meanings op.symbol [x, y] env
    rw [List.mapM_cons, List.mapM_cons, (ht x (by simp)).render_eq, (ht y (by simp)).render_eq] at hi
    exact hi
  apply meansInteger_of_result hc
  rw [hu, hb, hd.result_call (o := .onBits op u) (by rw [hb]; rfl)]
  have hw := Integral.arithmetic_widen (a := x.result env r .int) (b := y.result env r .int) htype hs
  rw [← hxu, ← hx.integer, hxu, ← hyu, ← hy.integer, hyu] at hw
  exact hw

theorem meansInteger_bitNeg (hd : (call head [x] memo).IsDeterministic)
    (hb : head.builtin = .bitNeg) (hx : x.MeansInteger env r) :
    (call head [x] memo).MeansInteger env r := by
  have htype : head.type = .unsignedBigint := hd.of_head.type.trans (congrArg Builtin.type hb)
  apply meansInteger_of_result (by rw [htype]; rfl)
  rw [htype, SqlType.isUnsigned_unsignedBigint, hb,
    hd.result_call (o := .total .int .int true fun as => as.head?.map (~~~ ·)) (by rw [hb]; rfl)]
  have hw := Integral.complement_widen (a := x.result env r .int) x.type.isUnsigned
    [x.meaning env]
  rw [← hx.integer] at hw
  exact hw

theorem meansInteger_compare (hd : (call head [x, y] memo).IsDeterministic)
    (hb : head.builtin = .compare op (.int x.type.isUnsigned y.type.isUnsigned))
    (hx : x.MeansInteger env r) (hy : y.MeansInteger env r) :
    (call head [x, y] memo).MeansInteger env r := by
  have htype : head.type = .bigint := hd.of_head.type.trans (congrArg Builtin.type hb)
  apply meansInteger_of_result (by rw [htype]; rfl)
  rw [htype, SqlType.isUnsigned_bigint, hb,
    hd.result_call (o := .comparison op (.int x.type.isUnsigned y.type.isUnsigned))
      (by rw [hb]; rfl)]
  have hw := Integral.comparison_widen (a := x.result env r .int) (b := y.result env r .int) op
    x.type.isUnsigned y.type.isUnsigned [x.meaning env, y.meaning env]
  rw [← hx.integer, ← hy.integer] at hw
  exact hw

end Call

theorem IsIntegral.meansInteger (h : e.IsIntegral env r) : e.MeansInteger env r := by
  induction e with
  | column c => exact meansInteger_of_value h.1 rfl rfl h.2
  | outer c slot memo =>
    refine meansInteger_of_value h.1 rfl rfl fun v hv => ?_
    cases hv
    exact h.2
  | literal v t memo =>
    refine meansInteger_of_value h.1 rfl rfl fun v hv => ?_
    cases hv
    exact h.2
  | call head args memo ih =>
    have hd := h.isDeterministic
    have ht := h.hasTexts.of_mem
    obtain ⟨⟨hn, hc, hb⟩, ha⟩ := all_call.1 h
    have hm := fun e he => ih e he (ha e he)
    unfold CallHead.IsChosenFor at hc
    have hn := hn.arity
    cases hbuiltin : head.builtin with
    | arithmetic op signature =>
      rw [hbuiltin] at hn hc hb
      obtain ⟨x, y, rfl, hx, hy⟩ := Arity.exists_pair hn hm
      have hu := hb x (by simp) y (by simp)
      have hs := (Builtin.arithmetic.inj (Eval.pure_inj.1 hc)).2
      rw [FunctionClass.arithSignature_pair hx.category hy.category, hu, Bool.or_self] at hs
      exact meansInteger_arithmetic hd (hs ▸ hbuiltin) hx hy hu rfl ht
    | bitNeg =>
      rw [hbuiltin] at hn
      obtain ⟨x, rfl, hx⟩ := Arity.exists_single hn hm
      exact meansInteger_bitNeg hd hbuiltin hx
    | compare op signature =>
      rw [hbuiltin] at hn hc
      obtain ⟨x, y, rfl, hx, hy⟩ := Arity.exists_pair hn hm
      have hs := (Builtin.compare.inj (Eval.pure_inj.1 hc)).2
      rw [FunctionClass.compareSignature_pair hx.category hy.category] at hs
      exact meansInteger_compare hd (hs ▸ hbuiltin) hx hy
    | _ =>
      rw [hbuiltin] at hb
      exact hb.elim

/-- The value of a tree for a row is the integer that it means, which its type has room for. -/
theorem IsIntegral.eval_eq_integer (h : e.IsIntegral env r) (g : Generators) :
    (e.eval env r).run.run g =
        ((fun n => n.elim .null (Value.ofInteger e.type)) <$> e.integer env r, g) ∧
      ∀ n, e.integer env r = .ok (some n) → InRange e.type.isUnsigned n := by
  have hm := h.meansInteger
  rw [h.isDeterministic.eval_run, hm.integer, hm.value]
  constructor
  · rcases e.result env r .int with f | _ | a
    · rfl
    · rfl
    · exact congrArg (Except.ok · , g) (ofInteger_widen e.type a).symm
  · intro n hn
    obtain ⟨a, -, ha⟩ := map_ok_iff.1 hn
    obtain ⟨b, -, rfl⟩ := Option.map_eq_some_iff.1 ha
    exact widen_inRange _ b

/-- Minus three is below an unsigned difference with the same bits. -/
theorem IsIntegral.eval_eq_integer_difference :
    let n := column ⟨1, 0, .bigint, "n", none⟩
    let u := column ⟨2, 1, .unsignedBigint, "u", none⟩
    let e := (Builtin.compare .lt (.int false true)).toCall
      [n, (Builtin.arithmetic .minus (.int true)).toCall [u, Builtin.bitNeg.toCall [n]]]
    let input : Chunk := ⟨[⟨.int64, [some (-3)]⟩, ⟨.uint64, [some 18446744073709551615]⟩], 1,
      List.forall_mem_cons.2 ⟨rfl, List.forall_mem_singleton.2 rfl⟩⟩
    e.IsIntegral {} (input.row 0) ∧ e.integer {} (input.row 0) = .ok (some 1) ∧
      (e.eval {} (input.row 0)).run.run {} = (.ok (.int 1), {}) := by
  intro n u e input
  have hn : n.IsIntegral {} (input.row 0) := by
    refine ⟨rfl, fun v hv => ?_⟩
    cases hv
    decide
  have hu : u.IsIntegral {} (input.row 0) := by
    refine ⟨rfl, fun v hv => ?_⟩
    cases hv
    decide
  have hsigns : ∀ x ∈ [u, Builtin.bitNeg.toCall [n]], ∀ y ∈ [u, Builtin.bitNeg.toCall [n]],
      x.type.isUnsigned = y.type.isUnsigned := by
    decide
  have he : e.IsIntegral {} (input.row 0) :=
    ⟨⟨⟨rfl, rfl, rfl⟩, Eval.pure_inj.2 (by decide), trivial⟩, hn,
      ⟨⟨⟨rfl, rfl, rfl⟩, Eval.pure_inj.2 (by decide), hsigns⟩, hu,
        ⟨⟨⟨rfl, rfl, rfl⟩, rfl, trivial⟩, hn, trivial⟩, trivial⟩, trivial⟩
  have hi : e.integer {} (input.row 0) = .ok (some 1) := rfl
  have hone : Value.ofInteger e.type 1 = .int 1 := by decide
  have hv := (he.eval_eq_integer {}).1
  rw [hi] at hv
  exact ⟨he, hi, hone ▸ hv⟩

end Expr

end ScalarExpr
