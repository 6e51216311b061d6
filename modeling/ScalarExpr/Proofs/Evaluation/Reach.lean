import ScalarExpr.Proofs.Evaluation.Chunks
/-!
What evaluation reaches. A failure of an argument is the failure of the call, and a refusal comes
from a leaf or from a call that is asked for results of a kind it has no evaluator for.
-/
namespace ScalarExpr

set_option autoImplicit true

namespace Operation

/-- The arguments behind one with this result are evaluated. -/
def GoesOn (stops : Bool) (x : Except Failure (Option α)) : Prop :=
  ∃ a, x = .ok a ∧ (stops → a ≠ none)

theorem operands_cons_error_iff {x : Except Failure (Option α)} :
    operands stops (x :: xs) = .error f ↔
      x = .error f ∨ GoesOn stops x ∧ operands stops xs = .error f := by
  rcases x with e | _ | a
  · simp [operands, GoesOn]
  · cases stops with
    | true => simp [operands, GoesOn]
    | false =>
      apply (map_error_iff (m := operands false xs)).trans
      simp [GoesOn]
  · apply (map_error_iff (m := operands stops xs)).trans
    simp [GoesOn]

/-- The arguments are evaluated up to the first that fails, if those before it let it. -/
theorem operands_error_iff {xs : List (Except Failure (Option α))} :
    operands stops xs = .error f ↔
      ∃ before after, xs = before ++ .error f :: after ∧ ∀ x ∈ before, GoesOn stops x := by
  induction xs with
  | nil =>
    constructor
    · intro h
      cases h
    · intro h
      obtain ⟨before, after, h, -⟩ := h
      simp at h
  | cons x xs ih =>
    rw [operands_cons_error_iff, ih]
    constructor
    · intro h
      obtain rfl | ⟨hx, before, after, rfl, hb⟩ := h
      · exact ⟨[], xs, rfl, List.forall_mem_nil _⟩
      · exact ⟨x :: before, after, rfl, List.forall_mem_cons.2 ⟨hx, hb⟩⟩
    · intro h
      obtain ⟨_ | ⟨y, before⟩, after, h, hb⟩ := h
      · cases h
        exact .inl rfl
      · cases h
        obtain ⟨hx, hb⟩ := List.forall_mem_cons.1 hb
        exact .inr ⟨hx, before, after, rfl, hb⟩

/-- As far as the second list is evaluated, it has the results of the first. -/
def Backed (stops : Bool) :
    List (Except Failure (Option α)) → List (Except Failure (Option α)) → Prop
  | [], [] => True
  | x :: xs, y :: ys => (∀ a, x = .ok a → y = .ok a) ∧ (GoesOn stops y → Backed stops xs ys)
  | _, _ => False

theorem Backed.of_forall₂ {xs ys : List (Except Failure (Option α))}
    (h : List.Forall₂ (fun x y => ∀ a, x = .ok a → y = .ok a) xs ys) : Backed stops xs ys := by
  induction h with
  | nil => trivial
  | cons h _ ih => exact ⟨h, fun _ => ih⟩

theorem Backed.operands {xs ys : List (Except Failure (Option α))} (h : Backed stops xs ys)
    (ho : operands stops xs = .ok as) : operands stops ys = .ok as := by
  induction xs generalizing ys as with
  | nil =>
    cases ys with
    | nil => exact ho
    | cons => exact h.elim
  | cons x xs ih =>
    cases ys with
    | nil => exact h.elim
    | cons y ys =>
      obtain ⟨hx, hxs⟩ := h
      rcases x with f | _ | a
      · cases ho
      · obtain rfl := hx none rfl
        cases stops with
        | true => exact ho
        | false =>
          obtain ⟨bs, hb, rfl⟩ := map_ok_iff.1 ho
          exact map_ok_iff.2 ⟨bs, ih (hxs ⟨none, rfl, nofun⟩) hb, rfl⟩
      · obtain rfl := hx (some a) rfl
        obtain ⟨bs, hb, rfl⟩ := map_ok_iff.1 ho
        exact map_ok_iff.2 ⟨bs, ih (hxs ⟨some a, rfl, nofun⟩) hb, rfl⟩

/-- The texts of the arguments are for messages only. -/
theorem Backed.run {o : Operation} {xs ys : List (Except Failure (Option o.operand.Item))}
    {a : Option o.result.Item} (h : Backed o.stopsAtNull xs ys) (hl : ms.length = ms'.length)
    (hr : o.run ms xs = .ok a) : o.run ms' ys = .ok a := by
  obtain ⟨as, ho, ha⟩ := bind_ok_iff.1 hr
  refine bind_ok_iff.2 ⟨as, h.operands ho, ?_⟩
  cases as with
  | none => exact ha
  | some as =>
    have hrel := o.apply_relabel ms ms' as hl
    rw [show o.apply ms as = .ok a from ha] at hrel
    cases hm : o.apply ms' as with
    | error f =>
      rw [hm] at hrel
      cases hrel
    | ok b =>
      rw [hm] at hrel
      cases hrel
      exact hm

theorem run_error_iff {o : Operation} {xs : List (Except Failure (Option o.operand.Item))} :
    o.run ms xs = .error f ↔ operands o.stopsAtNull xs = .error f ∨
      ∃ as, operands o.stopsAtNull xs = .ok (some as) ∧ o.apply ms as = .error f := by
  rw [run, bind_error_iff]
  apply or_congr_right
  constructor
  · intro h
    obtain ⟨_ | as, hx, h⟩ := h
    · cases h
    · exact ⟨as, hx, h⟩
  · intro h
    obtain ⟨as, hx, h⟩ := h
    exact ⟨some as, hx, h⟩

end Operation

/-- What a tree is evaluated on. -/
inductive Input
  | row (r : Row)
  | chunk (k : Chunk)

namespace Expr

/-- The evaluation to results of the kind fails. -/
def Fails (e : Expr) (env : Env) (k : Kind) (f : Failure) : Input → Prop
  | .row r => e.result env r k = .error f
  | .chunk input => e.slots env k input = .error f

/-- The evaluation of an argument lets that of the next one begin. -/
def GoesOn (e : Expr) (env : Env) (o : Operation) : Input → Prop
  | .row r => Operation.GoesOn o.stopsAtNull (e.result env r o.operand)
  | .chunk input => ∃ xs, e.slots env o.operand input = .ok xs

/-- The evaluation of a tree to results of a kind evaluates another tree to another kind. -/
inductive Reaches (env : Env) : Expr → Kind → Input → Expr → Kind → Input → Prop
  | here (e : Expr) (k : Kind) (i : Input) : Reaches env e k i e k i
  | argument {head : CallHead} {o : Operation} (before : List Expr) {after : List Expr}
    {memo : Memo} {x : Expr} (ho : head.builtin.operation? head.settings = some o)
    (hi : ∀ input, i = .chunk input → head.builtin.comparesByRow = false)
    (hb : ∀ y ∈ before, y.GoesOn env o i) (hx : Reaches env x o.operand i e k i') :
    Reaches env (call head (before ++ x :: after) memo) o.result i e k i'
  | byRow {head : CallHead} {o : Operation} {args : List Expr} {memo : Memo} {input : Chunk}
    (ho : head.builtin.operation? head.settings = some o) (hb : head.builtin.comparesByRow)
    (hj : j < input.rowCount)
    (hp : ∀ i < j, ∃ a, (call head args memo).result env (input.row i) o.result = .ok a)
    (hx : Reaches env (call head args memo) o.result (.row (input.row j)) e k i') :
    Reaches env (call head args memo) o.result (.chunk input) e k i'

variable {e x : Expr} {head : CallHead} {args before after : List Expr} {memo : Memo} {k k' : Kind}
  {env : Env} {o : Operation} {i i' : Input} {f : Failure}

theorem Reaches.first (ho : head.builtin.operation? head.settings = some o)
    (hi : ∀ input, i = .chunk input → head.builtin.comparesByRow = false)
    (hx : Reaches env e o.operand i x k i') :
    Reaches env (call head (e :: after) memo) o.result i x k i' := by
  show Reaches env (call head ([] ++ e :: after) memo) o.result i x k i'
  exact .argument [] ho hi (List.forall_mem_nil _) hx

/-- The failure of what is reached is the failure of the whole. -/
theorem Reaches.fails (h : Reaches env e k i x k' i') (hd : e.IsDeterministic)
    (hf : x.Fails env k' f i') : e.Fails env k f i := by
  induction h with
  | here => exact hf
  | @argument i x k i' head o before after memo y ho hi hb hx ih =>
    have hx := ih (hd.of_mem y (by simp)) hf
    cases i with
    | row r =>
      rw [Fails, hd.result_call ho, Operation.run_error_iff, Operation.operands_error_iff]
      refine .inl ⟨before.map (·.result env r o.operand), after.map (·.result env r o.operand),
        ?_, ?_⟩
      · rw [List.map_append, List.map_cons, hx]
      · intro a ha
        obtain ⟨e, he, rfl⟩ := List.mem_map.1 ha
        exact hb e he
    | chunk input =>
      rw [Fails, slots_call hd ho env input (hi input rfl), bind_error_iff, mapM_error_iff]
      exact .inl ⟨before, y, after, rfl, hb, hx⟩
  | @byRow j x k i' head o args memo input ho hb hj hp hx ih =>
    have hx := ih hd hf
    rw [Fails, slots_byRow hd ho env input hb, Chunk.rows, List.mapM_map, mapM_range_error_iff]
    exact ⟨j, hj, hp, hx⟩

/-- The tree fails where it is reached, and it is no call that has an evaluator for the kind. -/
def IsOrigin (e : Expr) (env : Env) (k : Kind) (f : Failure) (i : Input) : Prop :=
  e.Fails env k f i ∧ match e with
    | call head _ _ => head.builtin.rowKind? ≠ some k
    | _ => True

theorem exists_origin_row (hd : e.IsDeterministic) (hf : e.result env r k = .error f)
    (hr : f.isRefusal) : ∃ x k', Reaches env e k (.row r) x k' (.row r) ∧
      x.IsOrigin env k' f (.row r) := by
  induction e generalizing k with
  | column | outer | literal => exact ⟨_, k, .here _ k _, hf, trivial⟩
  | call head args memo ih =>
    by_cases hk : head.builtin.rowKind? = some k
    · obtain ⟨o, ho, rfl⟩ := Builtin.exists_operation hd.of_head.builtin hk head.settings
      rw [hd.result_call ho, Operation.run_error_iff] at hf
      obtain hf | ⟨as, -, hf⟩ := hf
      · obtain ⟨before, after, h, hb⟩ := Operation.operands_error_iff.1 hf
        obtain ⟨before, rest, rfl, rfl, hrest⟩ := List.map_eq_append_iff.1 h
        obtain ⟨y, after, rfl, hy, rfl⟩ := List.map_eq_cons_iff.1 hrest
        obtain ⟨x, k', hx, ho'⟩ := ih y (by simp) (hd.of_mem y (by simp)) hy
        exact ⟨x, k', .argument before ho nofun (fun z hz => hb _ (List.mem_map_of_mem hz)) hx, ho'⟩
      · rw [(o.apply_error _ _ _ hf).1] at hr
        cases hr
    · exact ⟨_, k, .here _ k _, hf, hk⟩

/-- A refusal comes from a leaf or from a call without an evaluator for the kind. -/
theorem exists_origin (hd : e.IsDeterministic) (hf : e.Fails env k f i) (hr : f.isRefusal) :
    ∃ x k' i', Reaches env e k i x k' i' ∧ x.IsOrigin env k' f i' := by
  induction e generalizing k i with
  | column | outer | literal => exact ⟨_, k, i, .here _ k i, hf, trivial⟩
  | call head args memo ih =>
    cases i with
    | row r =>
      obtain ⟨x, k', hx, ho⟩ := exists_origin_row hd hf hr
      exact ⟨x, k', _, hx, ho⟩
    | chunk input =>
      by_cases hk : head.builtin.rowKind? = some k
      · obtain ⟨o, ho, rfl⟩ := Builtin.exists_operation hd.of_head.builtin hk head.settings
        cases hb : head.builtin.comparesByRow with
        | true =>
          rw [Fails, slots_byRow hd ho env input hb, Chunk.rows, List.mapM_map,
            mapM_range_error_iff] at hf
          obtain ⟨j, hj, hp, hf⟩ := hf
          obtain ⟨x, k', hx, ho'⟩ := exists_origin_row hd hf hr
          exact ⟨x, k', _, .byRow ho hb hj hp hx, ho'⟩
        | false =>
          rw [Fails, slots_call hd ho env input hb, bind_error_iff] at hf
          obtain hf | ⟨xss, -, hf⟩ := hf
          · obtain ⟨before, y, after, rfl, hp, hy⟩ := mapM_error_iff.1 hf
            have hy : y.Fails env o.operand f (.chunk input) := hy
            obtain ⟨x, k', i', hx, ho'⟩ := ih y (by simp) (hd.of_mem y (by simp)) hy
            exact ⟨x, k', i', .argument before ho (fun _ _ => hb) hp hx, ho'⟩
          · obtain ⟨-, row, -, -, -, hf⟩ := mapM_error_iff.1 hf
            rw [Operation.run_error_iff, Operation.operands_ok] at hf
            obtain hf | ⟨as, -, hf⟩ := hf
            · cases hf
            · rw [(o.apply_error _ _ _ hf).1] at hr
              cases hr
      · exact ⟨_, k, _, .here _ k _, hf, hk⟩

end Expr

end ScalarExpr
