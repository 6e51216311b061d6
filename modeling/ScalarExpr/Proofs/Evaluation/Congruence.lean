import ScalarExpr.Proofs.Evaluation.Columns
import ScalarExpr.Proofs.Evaluation.Tolerance
import ScalarExpr.Proofs.Expr.Texts
/-!
Calls of arguments that agree. All evaluators of all builtins give evaluations that agree, those
that draw random numbers among them, and so trees agree as soon as their leaves do.
-/
namespace ScalarExpr

set_option autoImplicit true

variable {T : Tolerance} {r r' : Row} {input input' : Chunk} {x x' y y' : Meaning}

namespace Meaning

/-- Evaluation of the one for a row and of the other for another row agree. -/
structure AgreeOn (T : Tolerance) (r r' : Row) (m m' : Meaning) : Prop where
  label : T.texts (m.label ()) (m'.label ())
  value : T.Agree (m.value r) (m'.value r')
  row : ∀ k, T.Agree (m.row r k) (m'.row r' k)

/-- Evaluation for two chunks agrees, for each of their rows and as columns. -/
structure AgreeOnChunks (T : Tolerance) (input input' : Chunk) (m m' : Meaning) : Prop where
  rows : ∀ i, AgreeOn T (input.row i) (input'.row i) m m'
  column : ∀ c, T.Agree (m.column c input) (m'.column c input')

namespace AgreeOn

theorem labels (hx : AgreeOn T r r' x x') (hy : AgreeOn T r r' y y') :
    List.Forall₂ (fun x y => T.texts (x.label ()) (y.label ())) [x, y] [x', y'] :=
  .cons hx.label (.cons hy.label .nil)

theorem leaf {label label' : Unit → Except Fault String} {value value' : Row → Except Failure Value}
    {column column' : Chunk → Except Failure Column} (hl : T.texts (label ()) (label' ()))
    (hv : value r = value' r') :
    AgreeOn T r r' (.leaf label value column) (.leaf label' value' column') where
  label := hl
  value := .lift (hv ▸ .refl _)
  row k := .lift (by rw [hv]; exact .refl _)

end AgreeOn

namespace AgreeOnChunks

theorem buffer (h : AgreeOnChunks T input input' m m') (c : Category) :
    T.Agree (m.buffer c input) (m'.buffer c input') :=
  (h.column c).bind fun _ => .refl _

theorem buffers₂ (hx : AgreeOnChunks T input input' x x') (hy : AgreeOnChunks T input input' y y')
    (c : Category) : T.Agree (Meaning.buffers₂ x y c input) (Meaning.buffers₂ x' y' c input') :=
  (hx.buffer c).bind fun _ => (hy.buffer c).bind fun _ => .refl _

theorem labels (hx : AgreeOnChunks T input input' x x') (hy : AgreeOnChunks T input input' y y') :
    List.Forall₂ (fun x y => T.texts (x.label ()) (y.label ())) [x, y] [x', y'] :=
  (hx.rows 0).labels (hy.rows 0)

theorem leaf {label label' : Unit → Except Fault String} {value value' : Row → Except Failure Value}
    {column column' : Chunk → Except Failure Column} (hl : T.texts (label ()) (label' ()))
    (hv : ∀ i, value (input.row i) = value' (input'.row i)) (hc : column input = column' input') :
    AgreeOnChunks T input input' (.leaf label value column) (.leaf label' value' column') where
  rows i := .leaf hl (hv i)
  column _ := .lift (hc ▸ .refl _)

end AgreeOnChunks

end Meaning

theorem zipSlots_results {f f' : α → β → Except Failure (Option γ)}
    (h : ∀ a b, T.Results (f a b) (f' a b)) (as : List (Option α)) (bs : List (Option β)) :
    T.Results (zipSlots f as bs) (zipSlots f' as bs) := by
  induction as generalizing bs with
  | nil => cases bs <;> exact .refl _
  | cons a as ih =>
    cases bs with
    | nil => cases a <;> exact .refl _
    | cons b bs =>
      cases a with
      | none => exact (ih bs).bind fun _ => .refl _
      | some a =>
        cases b with
        | none => exact (ih bs).bind fun _ => .refl _
        | some b => exact (h a b).bind fun _ => (ih bs).bind fun _ => .refl _

namespace Evaluation

open Meaning

/-! ### Rows -/

section Rows

variable (hx : AgreeOn T r r' x x') (hy : AgreeOn T r r' y y')

include hx hy

theorem intRow_agree (op : ArithOp) (u : Bool) :
    T.Agree (intRow op u x y r) (intRow op u x' y' r') := by
  refine (hx.row .int).bind fun a => ?_
  cases a with
  | none => exact .refl _
  | some a =>
    refine (hy.row .int).bind fun b => ?_
    cases b with
    | none => exact .refl _
    | some b => exact .lift (intResult_results (hx.labels hy) op u a b)

theorem realRow_agree {f f' : Binary64 → Binary64 → Except Failure (Option Binary64)}
    (h : ∀ a b, T.Results (f a b) (f' a b)) : T.Agree (realRow f x y r) (realRow f' x' y' r') := by
  refine (hx.row .real).bind fun a => ?_
  cases a with
  | none => exact .refl _
  | some a =>
    refine (hy.row .real).bind fun b => ?_
    cases b with
    | none => exact .refl _
    | some b => exact .lift (h a b)

theorem compareRow_agree (s : CompareSignature) :
    T.Agree (compareRow s x y r) (compareRow s x' y' r') := by
  cases s with
  | int => exact (hx.row .int).bind fun _ => (hy.row .int).bind fun _ => .refl _
  | text => exact (hx.row .text).bind fun _ => (hy.row .text).bind fun _ => .refl _
  | real => exact (hx.row .real).bind fun _ => (hy.row .real).bind fun _ => .refl _

end Rows

theorem concatRow_agree (h : List.Forall₂ (AgreeOn T r r') ms ms') (acc : String) :
    T.Agree (concatRow acc r ms) (concatRow acc r' ms') := by
  induction h generalizing acc with
  | nil => exact .refl _
  | cons hx _ ih =>
    refine (hx.row .text).bind fun s => ?_
    cases s with
    | none => exact .refl _
    | some s => exact ih (acc ++ s)

theorem randRow_agree (h : List.Forall₂ (AgreeOn T r r') ms ms') (source : RandomSource) :
    T.Agree (randRow source ms r) (randRow source ms' r') := by
  cases source with
  | generator i => exact .refl _
  | rowSeed =>
    cases h with
    | nil => exact .refl _
    | cons hx _ => exact (hx.row .int).bind fun _ => .refl _

theorem callRow_agree {head : CallHead} (h : List.Forall₂ (AgreeOn T r r') ms ms') (env : Env)
    (k : Kind) : T.Agree (callRow env head ms r k) (callRow env head ms' r' k) := by
  -- A kind or a number of arguments that the builtin does not take is refused on both sides alike.
  by_cases hk : head.builtin.rowKind? = some k
  case neg =>
    rw [callRow_refused hk, callRow_refused hk]
    exact .refl _
  obtain ⟨name, type, builtin, settings⟩ := head
  cases builtin with
  | arithmetic op s =>
    cases s with
    | int u =>
      cases hk
      rcases h with _ | ⟨hx, _ | ⟨hy, _ | _⟩⟩
      · exact .refl _
      · exact .refl _
      · exact intRow_agree hx hy op u
      · exact .refl _
    | real =>
      cases hk
      rcases h with _ | ⟨hx, _ | ⟨hy, _ | _⟩⟩
      · exact .refl _
      · exact .refl _
      · exact realRow_agree hx hy fun _ _ => finiteResult_results (hx.labels hy) _ _
      · exact .refl _
  | divide =>
    cases hk
    rcases h with _ | ⟨hx, _ | ⟨hy, _ | _⟩⟩
    · exact .refl _
    · exact .refl _
    · exact realRow_agree hx hy (quotient_results (hx.labels hy) settings)
    · exact .refl _
  | compare op s =>
    cases hk
    rcases h with _ | ⟨hx, _ | ⟨hy, _ | _⟩⟩
    · exact .refl _
    · exact .refl _
    · exact (compareRow_agree hx hy s).bind fun _ => .refl _
    · exact .refl _
  | bitNeg =>
    cases hk
    rcases h with _ | ⟨hx, _ | _⟩
    · exact .refl _
    · exact (hx.row .int).bind fun _ => .refl _
    · exact .refl _
  | concat =>
    cases hk
    exact concatRow_agree h ""
  | lower | upper | length =>
    cases hk
    rcases h with _ | ⟨hx, _ | _⟩
    · exact .refl _
    · exact (hx.row .text).bind fun _ => .refl _
    · exact .refl _
  | rand source =>
    cases hk
    exact (randRow_agree h source).bind fun _ => .refl _
  | unixTimestamp | fixed =>
    cases hk
    exact .refl _
  | now | secToTime => cases hk

theorem callValue_agree {head : CallHead} (h : List.Forall₂ (AgreeOn T r r') ms ms') (env : Env) :
    T.Agree (callValue env head ms r) (callValue env head ms' r') := by
  cases hk : head.type.category.kind? with
  | none =>
    rw [callValue_eq_null hk, callValue_eq_null hk]
    exact .refl _
  | some k =>
    rw [callValue_eq hk, callValue_eq hk]
    exact (callRow_agree h env k).map _

/-! ### Columns -/

section Columns

variable (hx : AgreeOnChunks T input input' x x') (hy : AgreeOnChunks T input input' y y')

include hx hy

theorem intColumn_agree (op : ArithOp) (u : Bool) :
    T.Agree (intColumn op u x y input) (intColumn op u x' y' input') := by
  have hz := intResult_results (hx.labels hy) op u
  exact (hx.buffers₂ hy .int).bind fun _ => .bind (.refl _) fun as => .bind (.refl _) fun bs =>
    .bind (.lift (zipSlots_results hz as bs)) fun _ => .refl _

theorem realColumn_agree {f f' : Binary64 → Binary64 → Except Failure (Option Binary64)}
    (h : ∀ a b, T.Results (f a b) (f' a b)) :
    T.Agree (realColumn f x y input) (realColumn f' x' y' input') :=
  (hx.buffers₂ hy .real).bind fun _ => .bind (.refl _) fun as => .bind (.refl _) fun bs =>
    .bind (.lift (zipSlots_results h as bs)) fun _ => .refl _

end Columns

theorem agree_mapM_rows {f f' : Row → Eval α} (hn : input.rowCount = input'.rowCount)
    (h : ∀ i, T.Agree (f (input.row i)) (f' (input'.row i))) :
    T.Agree (input.rows.mapM f) (input'.rows.mapM f') := by
  rw [Chunk.rows, Chunk.rows, List.mapM_map, List.mapM_map, hn]
  exact .mapM (List.forall₂_same.2 fun i _ => h i)

theorem comparisonColumn_agree (hn : input.rowCount = input'.rowCount)
    (hx : AgreeOnChunks T input input' x x') (hy : AgreeOnChunks T input input' y y')
    (op : CompareOp) (s : CompareSignature) :
    T.Agree (comparisonColumn op s x y input) (comparisonColumn op s x' y' input') := by
  have hrows (s : CompareSignature) := agree_mapM_rows hn fun i =>
    compareRow_agree (hx.rows i) (hy.rows i) s
  unfold comparisonColumn
  split
  · exact (hx.buffers₂ hy .int).bind fun _ => .refl _
  · exact (hrows _).bind fun _ => .refl _
  · exact (hx.buffers₂ hy .text).bind fun _ => .refl _
  · exact (hx.buffers₂ hy .real).bind fun _ => .refl _

theorem concatColumn_agree (hn : input.rowCount = input'.rowCount)
    (h : List.Forall₂ (AgreeOnChunks T input input') ms ms') :
    T.Agree (concatColumn ms input) (concatColumn ms' input') := by
  unfold concatColumn
  rw [hn]
  exact (Tolerance.Agree.mapM (h.imp fun _ _ hm => hm.buffer .text)).bind fun _ => .refl _

theorem callColumn_agree {head : CallHead} (hn : input.rowCount = input'.rowCount)
    (h : List.Forall₂ (AgreeOnChunks T input input') ms ms') (env : Env) (c : Category) :
    T.Agree (callColumn env head ms c input) (callColumn env head ms' c input') := by
  by_cases hc : head.builtin.columnCategory? = some c
  case neg =>
    rw [callColumn_refused hc, callColumn_refused hc]
    exact .refl _
  obtain ⟨name, type, builtin, settings⟩ := head
  cases builtin with
  | arithmetic op s =>
    cases s with
    | int u =>
      cases hc
      rcases h with _ | ⟨hx, _ | ⟨hy, _ | _⟩⟩
      · exact .refl _
      · exact .refl _
      · exact intColumn_agree hx hy op u
      · exact .refl _
    | real =>
      cases hc
      rcases h with _ | ⟨hx, _ | ⟨hy, _ | _⟩⟩
      · exact .refl _
      · exact .refl _
      · exact realColumn_agree hx hy fun _ _ =>
          finiteResult_results (hx.labels hy) _ _
      · exact .refl _
  | divide =>
    cases hc
    rcases h with _ | ⟨hx, _ | ⟨hy, _ | _⟩⟩
    · exact .refl _
    · exact .refl _
    · exact realColumn_agree hx hy (quotient_results (hx.labels hy) settings)
    · exact .refl _
  | compare op s =>
    cases hc
    rcases h with _ | ⟨hx, _ | ⟨hy, _ | _⟩⟩
    · exact .refl _
    · exact .refl _
    · exact comparisonColumn_agree hn hx hy op s
    · exact .refl _
  | bitNeg | secToTime =>
    cases hc
    rcases h with _ | ⟨hx, _ | _⟩
    · exact .refl _
    · exact (hx.buffer .int).bind fun _ => .refl _
    · exact .refl _
  | concat =>
    cases hc
    exact concatColumn_agree hn h
  | lower | upper | length =>
    cases hc
    rcases h with _ | ⟨hx, _ | _⟩
    · exact .refl _
    · exact (hx.buffer .text).bind fun _ => .refl _
    · exact .refl _
  | rand source =>
    cases hc
    exact (agree_mapM_rows hn fun i => randRow_agree (h.imp fun _ _ hm => hm.rows i) source).bind
      fun _ => .refl _
  | now =>
    cases hc
    show T.Agree (nowColumn env settings input) (nowColumn env settings input')
    rw [nowColumn, nowColumn, hn]
    exact .refl _
  | unixTimestamp =>
    cases hc
    show T.Agree (unixTimestampColumn env input) (unixTimestampColumn env input')
    rw [unixTimestampColumn, unixTimestampColumn, hn]
    exact .refl _
  | fixed => cases hc

end Evaluation

namespace Expr

variable {args args' : List Expr} {e e' : Expr} {env env' : Env}

theorem render_call_texts (h : List.Forall₂ (fun x y => T.texts x.render y.render) args args')
    (memo memo' : Memo) : T.texts (call head args memo).render (call head args' memo').render := by
  have hr (args : List Expr) (memo : Memo) : (call head args memo).render =
      (fun texts => head.name.lower ++ "(" ++ ", ".intercalate texts ++ ")") <$>
        (args.map render).mapM id := by
    rw [render, renderAll_eq_mapM, List.mapM_map]
    rfl
  rw [hr, hr]
  exact T.joined ((List.forall₂_map_right_iff (R := T.texts)).2 (List.forall₂_map_left_iff.2 h)) _

theorem forall₂_meanings {R : Meaning → Meaning → Prop} :
    List.Forall₂ R (meanings env args) (meanings env args') ↔
      List.Forall₂ (fun x y => R (x.meaning env) (y.meaning env)) args args' := by
  rw [meanings_eq_map, meanings_eq_map, List.forall₂_map_left_iff, List.forall₂_map_right_iff]

/-- Calls of one function agree on a row if their arguments do. -/
theorem agreeOn_call (h : List.Forall₂ (fun x y => Meaning.AgreeOn T r r' (x.meaning env)
      (y.meaning env)) args args') :
    Meaning.AgreeOn T r r' ((call head args memo).meaning env)
      ((call head args' memo').meaning env) := by
  have hl := h.imp fun x y hxy => meaning_label x env ▸ meaning_label y env ▸ hxy.label
  have hm := forall₂_meanings.2 h
  exact ⟨render_call_texts hl memo memo', Evaluation.callValue_agree hm env,
    Evaluation.callRow_agree hm env⟩

/-- Calls of one function agree on chunks if their arguments do. -/
theorem agreeOnChunks_call (hn : input.rowCount = input'.rowCount)
    (h : List.Forall₂ (fun x y => Meaning.AgreeOnChunks T input input' (x.meaning env)
      (y.meaning env)) args args') :
    Meaning.AgreeOnChunks T input input' ((call head args memo).meaning env)
      ((call head args' memo').meaning env) := by
  exact ⟨fun i => agreeOn_call (h.imp fun _ _ hxy => hxy.rows i),
    Evaluation.callColumn_agree hn (forall₂_meanings.2 h) env⟩

theorem fillBuffer_agree (h : Meaning.AgreeOnChunks T input input' (e.meaning env) (e'.meaning env))
    (b : Buffer) : T.Agree (e.fillBuffer env input b) (e'.fillBuffer env input' b) :=
  (h.column b.category).bind fun _ => .refl _

end Expr

end ScalarExpr
