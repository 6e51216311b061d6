import ScalarExpr.Proofs.Evaluation.Operation
/-!
Evaluation of calls for rows. A call of a deterministic builtin runs the operation of the builtin on
the results of its arguments, and refuses every other kind of result.
-/
namespace ScalarExpr

set_option autoImplicit true

theorem Chunk.length_rows (input : Chunk) : input.rows.length = input.rowCount := by
  rw [rows, List.length_map, List.length_range]

/-- The category of a kind of result. -/
def Kind.category : Kind → Category
  | int => .int
  | real => .real
  | text => .text

/-- The kind of result that calls of the category are evaluated to for a row. -/
def Category.kind? : Category → Option Kind
  | int => some .int
  | real => some .real
  | text => some .text
  | decimal | datetime | duration => none

theorem Category.kind?_eq_some_iff {c : Category} {k : Kind} :
    c.kind? = some k ↔ c = k.category := by
  cases c <;> cases k <;> simp [kind?, Kind.category]

/-- A result as a value of the given type. -/
def Kind.box (t : SqlType) : (k : Kind) → Option k.Item → Value
  | int, some n => if t.isUnsigned then .uint n.toUInt64 else .int n
  | real, some x => .real x
  | text, some s => .text s
  | int, none | real, none | text, none => .null

theorem Kind.as_box (t : SqlType) (k : Kind) (a : Option k.Item) : (k.box t a).as k = .ok a := by
  cases k with
  | int =>
    cases a with
    | none => rfl
    | some n =>
      by_cases h : t.isUnsigned
      · simp [Kind.box, h, Value.as, Value.asInt, Except.mapError]
      · simp [Kind.box, h, Value.as, Value.asInt, Except.mapError]
  | real => cases a <;> rfl
  | text => cases a <;> rfl

theorem Arity.allows_exactly {n m : Nat} : (Arity.exactly n).allows m ↔ m = n := by
  have h : (exactly n).allows m ↔ n ≤ m ∧ m ≤ n :=
    Bool.and_eq_true_iff.trans (and_congr decide_eq_true_iff decide_eq_true_iff)
  rw [h]
  omega

theorem Arity.exists_single {p : α → Prop} {xs : List α} (hn : (exactly 1).allows xs.length)
    (h : ∀ x ∈ xs, p x) : ∃ x, xs = [x] ∧ p x := by
  obtain ⟨x, rfl⟩ := List.length_eq_one_iff.1 (allows_exactly.1 hn)
  exact ⟨x, rfl, h x (by simp)⟩

theorem Arity.exists_pair {p : α → Prop} {xs : List α} (hn : (exactly 2).allows xs.length)
    (h : ∀ x ∈ xs, p x) : ∃ x y, xs = [x, y] ∧ p x ∧ p y := by
  obtain ⟨x, y, rfl⟩ := List.length_eq_two.1 (allows_exactly.1 hn)
  exact ⟨x, y, rfl, h x (by simp), h y (by simp)⟩

namespace Meaning

/-- The result for a row where there are no generators. -/
def result (m : Meaning) (r : Row) (k : Kind) : Except Failure (Option k.Item) :=
  Expr.standalone (m.row r k)

/-- No evaluation of the meaning draws from a generator. -/
structure IsSteady (m : Meaning) : Prop where
  value : ∀ r, (m.value r).IsSteady
  row : ∀ r k, (m.row r k).IsSteady
  column : ∀ c input, (m.column c input).IsSteady

theorem IsSteady.row_eq (h : IsSteady m) (r : Row) (k : Kind) :
    m.row r k = Eval.lift (m.result r k) :=
  (h.row r k).eq_lift.symm

theorem IsSteady.buffer (h : IsSteady m) (c : Category) (input : Chunk) :
    (m.buffer c input).IsSteady :=
  (h.column c input).bind fun _ => .lift _

end Meaning

namespace Builtin

theorem exists_operation {b : Builtin} (hb : b.isDeterministic) (hk : b.rowKind? = some k)
    (s : Settings) : ∃ o, b.operation? s = some o ∧ o.result = k := by
  cases b with
  | arithmetic op signature => cases signature <;> (cases hk; exact ⟨_, rfl, rfl⟩)
  | rand | now | unixTimestamp | fixed => cases hb
  | secToTime => cases hk
  | _ => cases hk; exact ⟨_, rfl, rfl⟩

theorem type_category_kind? {b : Builtin} (hb : b.isDeterministic) :
    b.type.category.kind? = b.rowKind? := by
  cases b with
  | arithmetic op signature =>
    cases signature with
    | int u => cases u <;> rfl
    | real => rfl
  | rand | now | unixTimestamp | fixed => cases hb
  | _ => rfl

end Builtin

namespace Evaluation

open Operation

theorem intRow_eq (hx : x.IsSteady) (hy : y.IsSteady) :
    intRow op u x y r = Eval.lift ((checked .int (intResult op u) relabel error).run [x, y]
      [x.result r .int, y.result r .int]) := by
  unfold intRow
  rw [hx.row_eq, hy.row_eq]
  rcases x.result r .int with _ | _ | a <;> rcases y.result r .int with _ | _ | b <;> rfl

theorem realRow_eq
    {f : Meaning → Meaning → Binary64 → Binary64 → Except Failure (Option Binary64)}
    {relabel : ∀ x y x' y' a b, (f x y a b).toOption = (f x' y' a b).toOption}
    {error : ∀ x y a b e, f x y a b = .error e → FailsAtLabels [x, y] e}
    (hx : x.IsSteady) (hy : y.IsSteady) :
    realRow (f x y) x y r = Eval.lift ((checked .real f relabel error).run [x, y]
      [x.result r .real, y.result r .real]) := by
  unfold realRow
  rw [hx.row_eq, hy.row_eq]
  rcases x.result r .real with _ | _ | a <;> rcases y.result r .real with _ | _ | b <;> rfl

theorem comparisonRow_eq (hx : x.IsSteady) (hy : y.IsSteady) (s : CompareSignature) :
    comparisonRow op s x y r = Eval.lift
      ((comparison op s).run [x, y] [x.result r s.kind, y.result r s.kind]) := by
  unfold comparisonRow compareRow
  cases s with
  | int u v =>
    simp only [hx.row_eq, hy.row_eq, CompareSignature.kind]
    rcases x.result r .int with _ | _ | a <;> rcases y.result r .int with _ | _ | b <;> rfl
  | text =>
    simp only [hx.row_eq, hy.row_eq, CompareSignature.kind]
    rcases x.result r .text with _ | _ | a <;> rcases y.result r .text with _ | _ | b <;> rfl
  | real =>
    simp only [hx.row_eq, hy.row_eq, CompareSignature.kind]
    rcases x.result r .real with _ | _ | a <;> rcases y.result r .real with _ | _ | b <;> rfl

theorem unaryRow_eq (k k' : Kind) (f : k.Item → k'.Item) (hx : x.IsSteady) :
    (do return (← x.row r k).map f : Eval (Option k'.Item)) =
      Eval.lift ((total k k' true fun as => as.head?.map f).run [x] [x.result r k]) := by
  rw [hx.row_eq]
  rcases x.result r k with _ | _ | a <;> rfl

theorem concatRow_eq (acc : String) (hs : ∀ m ∈ ms, m.IsSteady) :
    concatRow acc r ms = Eval.lift
      ((operands true (ms.map (·.result r .text))).map
        (·.bind fun as => some (as.foldl (· ++ ·) acc))) := by
  induction ms generalizing acc with
  | nil => rfl
  | cons m ms ih =>
    rw [concatRow, (hs m (by simp)).row_eq, List.map_cons]
    rcases m.result r .text with _ | _ | s
    · rfl
    · rfl
    · refine (ih (acc ++ s) fun m hm => hs m (by simp [hm])).trans ?_
      rw [operands]
      generalize operands true (ms.map (·.result r .text)) = as
      rcases as with _ | _ | as <;> rfl

/-- The row evaluator of a builtin runs its operation on the results of the arguments. -/
theorem callRow_eq {head : CallHead} {args : List Meaning} {o : Operation}
    (ho : head.builtin.operation? head.settings = some o)
    (hn : head.builtin.functionClass.arity.allows args.length) (hs : ∀ m ∈ args, m.IsSteady)
    (env : Env) (r : Row) :
    callRow env head args r o.result =
      Eval.lift (o.run args (args.map (·.result r o.operand))) := by
  obtain ⟨name, type, builtin, settings⟩ := head
  cases builtin with
  | arithmetic op signature =>
    obtain ⟨x, y, rfl, hx, hy⟩ := Arity.exists_pair hn hs
    cases signature with
    | int u =>
      cases ho
      exact intRow_eq hx hy
    | real =>
      cases ho
      exact realRow_eq hx hy
  | divide =>
    obtain ⟨x, y, rfl, hx, hy⟩ := Arity.exists_pair hn hs
    cases ho
    exact realRow_eq hx hy
  | compare op signature =>
    obtain ⟨x, y, rfl, hx, hy⟩ := Arity.exists_pair hn hs
    cases ho
    exact comparisonRow_eq hx hy signature
  | bitNeg =>
    obtain ⟨x, rfl, hx⟩ := Arity.exists_single hn hs
    cases ho
    exact unaryRow_eq .int .int _ hx
  | concat =>
    cases ho
    rw [run_total]
    exact concatRow_eq "" hs
  | lower =>
    obtain ⟨x, rfl, hx⟩ := Arity.exists_single hn hs
    cases ho
    exact unaryRow_eq .text .text _ hx
  | upper =>
    obtain ⟨x, rfl, hx⟩ := Arity.exists_single hn hs
    cases ho
    exact unaryRow_eq .text .text _ hx
  | length =>
    obtain ⟨x, rfl, hx⟩ := Arity.exists_single hn hs
    cases ho
    exact unaryRow_eq .text .int _ hx
  | rand => cases ho
  | now => cases ho
  | unixTimestamp => cases ho
  | secToTime => cases ho
  | fixed => cases ho

theorem callRow_refused {head : CallHead} (hk : head.builtin.rowKind? ≠ some k) (env : Env)
    (args : List Meaning) (r : Row) :
    callRow env head args r k =
      Eval.lift (.error (.error (.noEvaluator head.builtin.name k.name))) := by
  have h : callRow env head args r k = Eval.lift (.error (head.builtin.rowRefusal k)) := by
    obtain ⟨name, type, builtin, settings⟩ := head
    cases k with
    | int =>
      cases builtin with
      | arithmetic op signature =>
        cases signature with
        | int => exact (hk rfl).elim
        | real => rfl
      | divide | concat | lower | upper | rand | now | secToTime => rfl
      | _ => exact (hk rfl).elim
    | real =>
      cases builtin with
      | arithmetic op signature =>
        cases signature with
        | int => rfl
        | real => exact (hk rfl).elim
      | divide | rand => exact (hk rfl).elim
      | _ => rfl
    | text =>
      cases builtin with
      | concat | lower | upper => exact (hk rfl).elim
      | _ => rfl
  rw [h, Builtin.rowRefusal, if_neg hk]

theorem callValue_eq {head : CallHead} (h : head.type.category.kind? = some k) (env : Env)
    (args : List Meaning) (r : Row) :
    callValue env head args r = k.box head.type <$> callRow env head args r k := by
  rw [Category.kind?_eq_some_iff] at h
  unfold callValue
  cases k with
  | int =>
    rw [h]
    apply bind_congr
    intro a
    cases a with
    | none => rfl
    | some n =>
      dsimp only [Kind.box]
      split <;> rfl
  | real =>
    rw [h]
    exact bind_congr fun a => by cases a <;> rfl
  | text =>
    rw [h]
    exact bind_congr fun a => by cases a <;> rfl

theorem callValue_eq_null {head : CallHead} (h : head.type.category.kind? = none) (env : Env)
    (args : List Meaning) (r : Row) :
    callValue env head args r = pure .null := by
  unfold callValue
  cases hc : head.type.category <;> first | rfl | (rw [hc] at h; cases h)

end Evaluation
end ScalarExpr
