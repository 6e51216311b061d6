import ScalarExpr.Proofs.Function.Call
import ScalarExpr.Proofs.Evaluation.Agreement
import ScalarExpr.Proofs.Evaluation.Reach
/-!
Arithmetic and comparisons over integers and reals. The signature of a call is chosen by the types
of its arguments, and one call with a real signature asks all its arguments for reals. Columns and
literals of integers give them; a call with an integer signature refuses.
-/
namespace ScalarExpr

set_option autoImplicit true

def Category.isNumeric : Category → Bool
  | int | real => true
  | _ => false

/-- The classes of arithmetic and of comparisons. -/
def FunctionClass.isNumeric : FunctionClass → Bool
  | arithmetic _ | divide | compare _ => true
  | _ => false

theorem FunctionClass.isDeterministic_of_isNumeric {c : FunctionClass} (h : c.isNumeric) :
    c.isDeterministic := by
  cases c with
  | arithmetic | divide | compare => rfl
  | _ => cases h

namespace Expr

/-- The trees of arithmetic and comparisons that are built over columns and literals of numbers. -/
inductive IsNumeric : Expr → Prop
  | ofColumn (ht : c.type.category.isNumeric) : IsNumeric (column c)
  | ofLiteral (ht : t.category.isNumeric) (hv : v.fits t) : IsNumeric (literal v t memo)
  | ofCall {args : List Expr} {type : Option SqlType} {e : Expr}
    (hl : FunctionRegistry.builtins.lookup name = some c) (hc : c.isNumeric)
    (ha : ∀ e ∈ args, IsNumeric e)
    (h : (newCall .builtins s name type args).run.run g = (.ok e, g')) : IsNumeric e

/-- Reals may be asked of any number, integers of one that is an integer. -/
def Suits (e : Expr) (k : Kind) : Prop := k = .real ∨ k = .int ∧ e.type.category = .int

end Expr

namespace FunctionClass

open ScalarExpr.Expr

theorem category_of_allOf {args : List Expr} (h : allOf c args) :
    ∀ e ∈ args, e.type.category = c := by
  intro e he
  exact of_decide_eq_true (List.all_eq_true.1 h e he)

/-- The signature is chosen so that the arguments suit its operands. -/
theorem suits_of_signature {c : FunctionClass} {args : List Expr} {b : Builtin} {o : Operation}
    (hc : c.isNumeric) (hn : c.arity.allows args.length)
    (ha : ∀ e ∈ args, e.type.category.isNumeric) (hb : c.signature args = pure b)
    (ho : b.operation? s = some o) : ∀ e ∈ args, e.Suits o.operand := by
  intro e he
  cases c with
  | arithmetic op =>
    obtain rfl : Builtin.arithmetic op (arithSignature args) = b := Eval.pure_inj.1 hb
    by_cases hi : allOf .int args
    · rw [arithSignature, if_pos hi] at ho
      cases ho
      exact .inr ⟨rfl, category_of_allOf hi e he⟩
    · rw [arithSignature, if_neg hi] at ho
      cases ho
      exact .inl rfl
  | divide =>
    obtain rfl : Builtin.divide = b := Eval.pure_inj.1 hb
    cases ho
    exact .inl rfl
  | compare op =>
    obtain rfl : Builtin.compare op (compareSignature args) = b := Eval.pure_inj.1 hb
    obtain ⟨x, y, rfl⟩ := List.length_eq_two.1 (Arity.allows_exactly.1 hn)
    by_cases hi : allOf .int [x, y]
    · rw [compareSignature, if_pos hi] at ho
      cases ho
      exact .inr ⟨rfl, category_of_allOf hi e he⟩
    · have ht : ¬allOf .text [x, y] := by
        intro ht
        have hx := ha x (by simp)
        rw [category_of_allOf ht x (by simp)] at hx
        cases hx
      rw [compareSignature, if_neg hi, if_neg ht] at ho
      cases ho
      exact .inl rfl
  | _ => cases hc

theorem isNumeric_type {c : FunctionClass} {b : Builtin} (hc : c.isNumeric)
    (hb : c.signature args = pure b) : b.type.category.isNumeric := by
  cases c with
  | arithmetic op =>
    obtain rfl : Builtin.arithmetic op (arithSignature args) = b := Eval.pure_inj.1 hb
    cases arithSignature args with
    | int u => cases u <;> rfl
    | real => rfl
  | divide =>
    obtain rfl : Builtin.divide = b := Eval.pure_inj.1 hb
    rfl
  | compare op =>
    obtain rfl : Builtin.compare op (compareSignature args) = b := Eval.pure_inj.1 hb
    rfl
  | _ => cases hc

end FunctionClass

namespace Expr

variable {e : Expr} {args : List Expr} {head : CallHead} {memo : Memo} {k k' : Kind}

theorem newCall_of_isNumeric {c : FunctionClass} {type : Option SqlType}
    (h : (newCall .builtins s name type args).run.run g = (.ok e, g'))
    (hl : FunctionRegistry.builtins.lookup name = some c) (hc : c.isNumeric) :
    ∃ b, c.signature args = pure b ∧ b.isDeterministic ∧ c.arity.allows args.length ∧
      e = call ⟨.ofString name, b.type, b, s⟩ args none := by
  have hcd := FunctionClass.isDeterministic_of_isNumeric hc
  obtain ⟨b, hb, hd, -, hn, he⟩ := newCall_builtin h hl hcd
  exact ⟨b, hb, hd, hn, he⟩

theorem IsNumeric.isDeterministic (h : e.IsNumeric) : e.IsDeterministic := by
  induction h with
  | ofColumn | ofLiteral => trivial
  | ofCall hl hc ha h ih =>
    exact newCall_isDeterministic h hl (FunctionClass.isDeterministic_of_isNumeric hc) ih

theorem IsNumeric.type (h : e.IsNumeric) : e.type.category.isNumeric := by
  cases h with
  | ofColumn ht => exact ht
  | ofLiteral ht => exact ht
  | ofCall hl hc ha h =>
    obtain ⟨b, hb, -, -, rfl⟩ := newCall_of_isNumeric h hl hc
    exact FunctionClass.isNumeric_type hc hb

theorem IsNumeric.of_call (h : (call head args memo).IsNumeric) :
    (∀ e ∈ args, e.IsNumeric) ∧
      ∀ o, head.builtin.operation? head.settings = some o → ∀ e ∈ args, e.Suits o.operand := by
  generalize he : call head args memo = e at h
  cases h with
  | ofColumn | ofLiteral => cases he
  | ofCall hl hc ha h =>
    obtain ⟨b, hb, -, hn, rfl⟩ := newCall_of_isNumeric h hl hc
    cases he
    refine ⟨ha, ?_⟩
    intro o ho
    exact FunctionClass.suits_of_signature hc hn (fun e he => (ha e he).type) hb ho

/-- What is reached in a tree of numbers is a number and suits what is asked of it. -/
theorem IsNumeric.of_reaches (h : Reaches env e k i x k' i') (hn : e.IsNumeric) (hs : e.Suits k) :
    x.IsNumeric ∧ x.Suits k' := by
  induction h with
  | here => exact ⟨hn, hs⟩
  | argument before ho hi hb hx ih =>
    obtain ⟨ha, hs⟩ := hn.of_call
    exact ih (ha _ (by simp)) (hs _ ho _ (by simp))
  | byRow ho hb hj hp hx ih => exact ih hn hs

/-- Columns of the tree that the chunk has are of the column type of their type. -/
def IsTyped (input : Chunk) (e : Expr) : Prop :=
  e.All fun
    | column c => ∀ d, input.columns[c.index]? = some d → d.type = c.type.columnType
    | _ => True

def IsTypedOn (e : Expr) : Input → Prop
  | .row r => ∀ input, r.chunk = some input → e.IsTyped input
  | .chunk input => e.IsTyped input

theorem IsTypedOn.of_reaches (h : Reaches env e k i x k' i') (ht : e.IsTypedOn i) :
    x.IsTypedOn i' := by
  induction h with
  | here => exact ht
  | @argument i x k i' head o before after memo y ho hi hb hx ih =>
    apply ih
    cases i with
    | row r => exact fun input hr => (all_call.1 (ht input hr)).2 y (by simp)
    | chunk input =>
      have ht : (call head (before ++ y :: after) memo).IsTyped input := ht
      exact (all_call.1 ht).2 y (by simp)
  | @byRow j x k i' head o args memo input ho hb hj hp hx ih =>
    apply ih
    intro input h
    cases h
    exact ht

end Expr

theorem Category.exists_kind {c : Category} (h : c.isNumeric) :
    ∃ k : Kind, c = k.category ∧ k ≠ .text := by
  cases c with
  | int => exact ⟨.int, rfl, nofun⟩
  | real => exact ⟨.real, rfl, nofun⟩
  | _ => cases h

theorem Kind.exists_as_box {κ : Kind} (hκ : κ ≠ .text) (hk : k = .real ∨ k = .int ∧ κ = .int)
    (t : SqlType) (a : Option κ.Item) : ∃ b, (κ.box t a).as k = .ok b := by
  obtain rfl | ⟨rfl, rfl⟩ := hk
  · cases κ with
    | int =>
      cases a with
      | none => exact ⟨none, rfl⟩
      | some n =>
        rw [box]
        split <;> exact ⟨_, rfl⟩
    | real => exact ⟨a, as_box _ _ _⟩
    | text => exact (hκ rfl).elim
  · exact ⟨a, as_box _ _ _⟩

/-- Access to a column of its type gives a value of that type, or fails for want of a place. -/
theorem Row.get_cases {r : Row} {t : SqlType} {κ : Kind} (hκ : t.category = κ.category)
    (hr : ∀ input, r.chunk = some input → ∀ d, input.columns[i]? = some d → d.type = t.columnType) :
    (∃ f, r.get i t = .error f ∧ f.isRefusal = false) ∨ ∃ a, r.get i t = .ok (κ.box t a) := by
  unfold get
  cases hc : r.chunk with
  | none => exact .inl ⟨_, rfl, rfl⟩
  | some input =>
    dsimp only
    rw [Chunk.column]
    cases hd : input.columns[i]? with
    | none => exact .inl ⟨_, rfl, rfl⟩
    | some d =>
      show (∃ f, (if r.index < d.size then d.read r.index t else _) = .error f ∧ _) ∨
        ∃ a, (if r.index < d.size then d.read r.index t else _) = .ok _
      split
      case isTrue hi =>
        have ht := hr input hc d hd
        have ha : κ.category.accepts d.type := ht ▸ SqlType.accepts_columnType hκ
        obtain ⟨xs, hs⟩ := Column.exists_slots_of_accepts ha
        refine .inr ⟨_, Column.read_of_accepts ha hs ?_ ?_⟩
        · rw [ht]
          exact SqlType.isUnsigned_of_columnType
        · rw [(Column.converts_slots d κ).length xs hs]
          exact hi
      case isFalse => exact .inl ⟨_, rfl, rfl⟩

namespace Expr

variable {e x : Expr} {args : List Expr} {head : CallHead} {memo : Memo} {k k' : Kind}
  {i i' : Input}
  {f : Failure} {r : Row} {input : Chunk} {env : Env}

theorem Suits.kind {κ : Kind} (h : e.Suits k) (hκ : e.type.category = κ.category) :
    k = .real ∨ k = .int ∧ κ = .int := by
  refine h.imp_right fun ⟨hk, hi⟩ => ⟨hk, ?_⟩
  rw [hκ] at hi
  cases κ with
  | int => rfl
  | real | text => cases hi

theorem column_not_refused {c : ColumnRef} (ht : c.type.category.isNumeric)
    (hs : (column c).Suits k) (hi : (column c).IsTypedOn i) (hf : (column c).Fails env k f i) :
    f.isRefusal = false := by
  obtain ⟨κ, hκ, hne⟩ := Category.exists_kind ht
  cases i with
  | row r =>
    have hr : r.get c.index c.type >>= (·.as k) = .error f := hf
    obtain ⟨f', hg, hf'⟩ | ⟨a, hg⟩ := Row.get_cases hκ hi
    · rw [hg] at hr
      cases hr
      exact hf'
    · obtain ⟨b, hb⟩ := Kind.exists_as_box hne (hs.kind hκ) c.type a
      rw [hg] at hr
      cases hb.symm.trans hr
  | chunk input =>
    have hc : ((input.column c.index).mapError Failure.error) >>= (·.slots k) = .error f := hf
    obtain hc | ⟨d, -, hd⟩ := bind_error_iff.1 hc
    · rw [Chunk.column] at hc
      cases hd : input.columns[c.index]? with
      | none =>
        rw [hd] at hc
        cases hc
        rfl
      | some d =>
        rw [hd] at hc
        cases hc
    · exact Failure.isRefusal_of_isOfColumn ((Column.converts_slots d k).failure f hd)

theorem literal_not_refused {v : Value} (ht : t.category.isNumeric) (hv : v.fits t)
    (hs : (literal v t memo).Suits k) (hf : (literal v t memo).Fails env k f i) :
    f.isRefusal = false := by
  obtain ⟨κ, hκ, hne⟩ := Category.exists_kind ht
  obtain ⟨a, rfl⟩ := Value.eq_box_of_fits hv hκ
  cases i with
  | row r =>
    obtain ⟨b, hb⟩ := Kind.exists_as_box hne (hs.kind hκ) t a
    cases hb.symm.trans hf
  | chunk input =>
    have hc : (κ.box t a).broadcast t input.rowCount >>= (·.slots k) = .error f := hf
    obtain hc | ⟨d, -, hd⟩ := bind_error_iff.1 hc
    · have hb := Kind.broadcast_box hκ input.rowCount a
      rw [hc] at hb
      cases hb
    · exact Failure.isRefusal_of_isOfColumn ((Column.converts_slots d k).failure f hd)

theorem IsNumeric.suits (h : e.IsNumeric) (hk : e.type.category = k.category) : e.Suits k := by
  have hnum := h.type
  rw [hk] at hnum
  cases k with
  | int => exact .inr ⟨rfl, hk⟩
  | real => exact .inl rfl
  | text => cases hnum

theorem IsNumeric.not_outer {c : ColumnRef} (h : (outer c slot memo).IsNumeric) : False := by
  generalize he : outer c slot memo = e at h
  cases h with
  | ofColumn | ofLiteral => cases he
  | ofCall hl hc ha h =>
    obtain ⟨b, -, -, -, rfl⟩ := newCall_of_isNumeric h hl hc
    cases he

theorem IsNumeric.fits {v : Value} (h : (literal v t memo).IsNumeric) : v.fits t := by
  generalize he : literal v t memo = e at h
  cases h with
  | ofColumn => cases he
  | ofLiteral ht hv =>
    cases he
    exact hv
  | ofCall hl hc ha h =>
    obtain ⟨b, -, -, -, rfl⟩ := newCall_of_isNumeric h hl hc
    cases he

/-- Among numbers only a call that gives integers refuses, where a real is asked of it. -/
theorem IsNumeric.isOrigin_iff (hn : e.IsNumeric) (hs : e.Suits k) (ht : e.IsTypedOn i) :
    (∃ f, e.IsOrigin env k f i ∧ f.isRefusal) ↔
      k = .real ∧ ∃ head args memo, e = call head args memo ∧ head.type.category = .int := by
  constructor
  · intro h
    obtain ⟨f, ⟨hf, ho⟩, hr⟩ := h
    cases e with
    | column c =>
      rw [column_not_refused hn.type hs ht hf] at hr
      cases hr
    | outer c slot memo => exact hn.not_outer.elim
    | literal v t memo =>
      rw [literal_not_refused hn.type hn.fits hs hf] at hr
      cases hr
    | call head args memo =>
      have ho : head.builtin.rowKind? ≠ some k := ho
      rw [← hn.isDeterministic.of_head.kind?_eq, Ne, Category.kind?_eq_some_iff] at ho
      have hnum : head.type.category.isNumeric := hn.type
      obtain rfl | ⟨rfl, hi⟩ := hs
      · refine ⟨rfl, head, args, memo, rfl, ?_⟩
        cases hc : head.type.category with
        | int => rfl
        | real => exact (ho hc).elim
        | _ => rw [hc] at hnum; cases hnum
      · exact (ho hi).elim
  · intro h
    obtain ⟨rfl, head, args, memo, rfl, hi⟩ := h
    have hd := hn.isDeterministic.of_head
    have hk : head.builtin.rowKind? ≠ some .real := by
      rw [← hd.kind?_eq, hi]
      nofun
    cases i with
    | row r => exact ⟨_, ⟨result_refused hk env r, hk⟩, rfl⟩
    | chunk input => exact ⟨_, ⟨slots_refused hd.builtin hk env input, hk⟩, rfl⟩

/-- The evaluation of a tree asks a call that gives integers for a real. -/
def AsksForReal (e : Expr) (env : Env) (k : Kind) (i : Input) : Prop :=
  ∃ head args memo i', Reaches env e k i (call head args memo) .real i' ∧
    head.type.category = .int

/-- If the tree is a call and a real is asked of it, it gives reals. -/
def GivesReal (e : Expr) (k : Kind) : Prop :=
  k = .real → ∀ head args memo, e = call head args memo → head.type.category = .real

/-- Calls that are arguments of a call with a real signature give reals themselves. -/
def AsksCallsForReals (e : Expr) : Prop :=
  e.All fun
    | call head args _ => head.builtin.operandKind? = some .real → ∀ e ∈ args, e.GivesReal .real
    | _ => True

theorem AsksCallsForReals.of_reaches (hx : Reaches env e k i x k' i') (h : e.AsksCallsForReals)
    (hk : e.GivesReal k) : x.AsksCallsForReals ∧ x.GivesReal k' := by
  induction hx with
  | here => exact ⟨h, hk⟩
  | argument before ho hi hb hx ih =>
    obtain ⟨hc, ha⟩ := all_call.1 h
    apply ih (ha _ (by simp))
    intro hr
    exact hc (by rw [Builtin.operandKind?_of_operation? ho, hr]) _ (by simp) rfl
  | byRow ho hb hj hp hx ih => exact ih h hk

/-- Where reals are asked of calls that give them only, no evaluation asks another call for one. -/
theorem AsksCallsForReals.not_asksForReal (h : e.AsksCallsForReals)
    (hk : e.type.category = k.category) : ¬e.AsksForReal env k i := by
  intro h
  obtain ⟨head, args, memo, i', hx, hi⟩ := h
  have hg : e.GivesReal k := by
    intro hreal head args memo he
    subst hreal he
    exact hk
  have hr := (h.of_reaches hx hg).2 rfl head args memo rfl
  cases hi.symm.trans hr

theorem IsNumeric.fails_iff (hn : e.IsNumeric) (hs : e.Suits k) (ht : e.IsTypedOn i) :
    (∃ f, e.Fails env k f i ∧ f.isRefusal) ↔ e.AsksForReal env k i := by
  constructor
  · intro h
    obtain ⟨f, hf, hr⟩ := h
    obtain ⟨x, k', i', hx, ho⟩ := exists_origin hn.isDeterministic hf hr
    obtain ⟨hn', hs'⟩ := hn.of_reaches hx hs
    obtain ⟨rfl, head, args, memo, rfl, hi⟩ :=
      (hn'.isOrigin_iff hs' (ht.of_reaches hx)).1 ⟨f, ho, hr⟩
    exact ⟨head, args, memo, i', hx, hi⟩
  · intro h
    obtain ⟨head, args, memo, i', hx, hi⟩ := h
    obtain ⟨hn', hs'⟩ := hn.of_reaches hx hs
    obtain ⟨f, ⟨hf, -⟩, hr⟩ :=
      (hn'.isOrigin_iff hs' (ht.of_reaches hx)).2 ⟨rfl, head, args, memo, rfl, hi⟩
    exact ⟨f, hx.fails hn.isDeterministic hf, hr⟩

theorem IsNumeric.isVectorized (h : e.IsNumeric) : e.isVectorized := by
  induction h with
  | ofColumn | ofLiteral => rfl
  | ofCall hl hc ha h ih =>
    obtain ⟨b, -, hd, -, rfl⟩ := newCall_of_isNumeric h hl hc
    rw [Expr.isVectorized, Bool.and_eq_true, areVectorized_iff]
    refine ⟨?_, ih⟩
    cases b with
    | fixed => cases hd
    | _ => rfl

theorem IsNumeric.value_refused_iff (hn : e.IsNumeric) (hk : e.type.category = k.category)
    (ht : e.IsTypedOn (.row r)) :
    (∃ f, e.value env r = .error f ∧ f.isRefusal) ↔
      ∃ f, e.result env r k = .error f ∧ f.isRefusal := by
  have hs := hn.suits hk
  have hleaf (hl : e.result env r k = e.value env r >>= (·.as k))
      (ho : ∀ f, e.Fails env k f (.row r) → f.isRefusal = false) :
      (∃ f, e.value env r = .error f ∧ f.isRefusal) ↔
        ∃ f, e.result env r k = .error f ∧ f.isRefusal := by
    constructor
    · intro h
      obtain ⟨f, hf, hr⟩ := h
      exact ⟨f, by rw [hl, hf]; rfl, hr⟩
    · intro h
      obtain ⟨f, hf, hr⟩ := h
      rw [ho f hf] at hr
      cases hr
  cases e with
  | column c => exact hleaf rfl fun f => column_not_refused hn.type hs ht
  | outer c slot memo => exact hn.not_outer.elim
  | literal v t memo => exact hleaf rfl fun f => literal_not_refused hn.type hn.fits hs
  | call head args memo =>
    simp only [value_call (Category.kind?_eq_some_iff.2 hk), map_error_iff]

/-- A tree of numbers counts as vectorized, and its evaluation for a row or a chunk is refused
exactly where it asks a call that gives integers for a real. Nowhere is one asked if the calls that
are arguments of calls with a real signature give reals. -/
theorem IsNumeric.refused_iff (hn : e.IsNumeric) (hk : e.type.category = k.category) :
    e.isVectorized ∧ (e.AsksCallsForReals → ∀ env i, ¬e.AsksForReal env k i) ∧
      (∀ env r g, (∀ input, r.chunk = some input → e.IsTyped input) →
        ((∃ f g', (e.eval env r).run.run g = (.error f, g') ∧ f.isRefusal) ↔
          e.AsksForReal env k (.row r))) ∧
      ∀ env input b g, e.IsTyped input → b.category = e.type.category →
        ((∃ f g', (e.fillBuffer env input b).run.run g = (.error f, g') ∧ f.isRefusal) ↔
          e.AsksForReal env k (.chunk input)) := by
  have hd := hn.isDeterministic
  refine ⟨hn.isVectorized, fun ha env i => ha.not_asksForReal hk, ?_, ?_⟩
  · intro env r g ht
    rw [← hn.fails_iff (i := .row r) (hn.suits hk) ht]
    simp only [exists_and_right, hd.eval_run_error_iff]
    exact hn.value_refused_iff hk ht
  · intro env input b g ht hb
    rw [← hn.fails_iff (i := .chunk input) (hn.suits hk) ht]
    simp only [exists_and_right, hd.fillBuffer_run_error_iff (hb.trans hk)]
    rfl

/-- A sum of integers compared with a real. -/
theorem IsNumeric.refused_iff_comparison :
    let n := column ⟨1, 0, .bigint, "n", none⟩
    let sum := (Builtin.arithmetic .plus (.int false)).toCall [n, n]
    let zero := literal (.real .zero) .double none
    let e := (Builtin.compare .lt .real).toCall [sum, zero]
    e.IsNumeric ∧ e.type.category = Kind.category .int ∧ e.AsksForReal {} .int (.row .empty) ∧
      ∃ f g', (e.eval {} .empty).run.run {} = (.error f, g') ∧ f.isRefusal := by
  intro n sum zero e
  have hn : n.IsNumeric := .ofColumn rfl
  have hz : zero.IsNumeric := .ofLiteral rfl rfl
  have hb : (newCall .builtins {} "plus" (some .bigint) [n, n]).run.run {} = (.ok sum, {}) := by
    simp only [n, sum]
    rfl
  have hs : sum.IsNumeric := .ofCall rfl rfl (by simpa using hn) hb
  have hb : (newCall .builtins {} "lt" (some .bigint) [sum, zero]).run.run {} = (.ok e, {}) := rfl
  have he : e.IsNumeric := .ofCall rfl rfl (by simpa using ⟨hs, hz⟩) hb
  have hsum : Reaches {} e .int (.row .empty) sum .real (.row .empty) :=
    .first (o := .comparison .lt .real) rfl nofun (.here sum .real (.row .empty))
  have ha : e.AsksForReal {} .int (.row .empty) := ⟨_, _, _, _, hsum, rfl⟩
  have hr := (he.refused_iff (k := .int) rfl).2.2.1 {} .empty {} fun _ h => by cases h
  exact ⟨he, rfl, ha, hr.2 ha⟩

/-- Half of a sum of integers is built and counts as vectorized, and is refused for rows and for
chunks. -/
theorem IsNumeric.refused_half_of_sum :
    let one := literal (.int 1) .bigint none
    let two := literal (.int 2) .bigint none
    let sum := (Builtin.arithmetic .plus (.int false)).toCall [one, two]
    let e := Builtin.divide.toCall [sum, two]
    let input : Chunk := ⟨[], 1, List.forall_mem_nil _⟩
    e.IsNumeric ∧ e.isVectorized ∧ e.IsTyped input ∧
      (e.eval {} .empty).run.run {} =
        (.error (.error (.unsupported "plus does not support real evaluation")), {}) ∧
      (e.fillBuffer {} input (.empty .real)).run.run {} = (.error (.error
        (.unsupported "plus does not support vectorized real evaluation")), {}) := by
  intro one two sum e input
  have h1 : one.IsNumeric := .ofLiteral rfl rfl
  have h2 : two.IsNumeric := .ofLiteral rfl rfl
  have hb : (newCall .builtins {} "plus" (some .bigint) [one, two]).run.run {} = (.ok sum, {}) := by
    simp only [one, two, sum]
    rfl
  have hs : sum.IsNumeric := .ofCall rfl rfl (by simpa using ⟨h1, h2⟩) hb
  have hb : (newCall .builtins {} "div" (some .double) [sum, two]).run.run {} = (.ok e, {}) := rfl
  have he : e.IsNumeric := .ofCall rfl rfl (by simpa using ⟨hs, h2⟩) hb
  exact ⟨he, rfl, ⟨trivial, ⟨trivial, trivial, trivial, trivial⟩, trivial, trivial⟩, rfl, rfl⟩

end Expr

end ScalarExpr
