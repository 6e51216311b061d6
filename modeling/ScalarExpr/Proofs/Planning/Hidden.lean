import ScalarExpr.Function.Call
import ScalarExpr.Proofs.Planning.Fold
/-!
Failures that folding hides. A call refuses kinds of results that are not its own, and the literal
that it is folded to may not.
-/
namespace ScalarExpr

set_option autoImplicit true

namespace Expr

variable {e e' : Expr} {args args' : List Expr} {head : CallHead} {memo : Memo} {env : Env}
  {r : Row} {k : Kind} {o : Operation}

/-- The call is folded to a literal, which has a result of the kind that the call refuses. -/
def IsHidden (e : Expr) (k : Kind) : Prop :=
  match e with
  | call head _ _ => head.builtin.rowKind? ≠ some k ∧
    ∃ v a, e.fold.result = .ok (literal v head.type none) ∧ v.as k = .ok a
  | _ => False

/-- As far as the arguments are evaluated, they have the results of others that differ from them
only where something with the property is reached. -/
theorem backed_of_reaches {p : Expr → Kind → Prop} (before : List Expr)
    (ho : head.builtin.operation? head.settings = some o)
    (hn : ∀ x k', Reaches env (call head (before ++ args) memo) o.result (.row r) x k' (.row r) →
      ¬ p x k') (hb : ∀ y ∈ before, y.GoesOn env o (.row r))
    (h : List.Forall₂ (fun e e' =>
      (∀ x k', Reaches env e o.operand (.row r) x k' (.row r) → ¬ p x k') →
        ∀ a, e'.result env r o.operand = .ok a → e.result env r o.operand = .ok a) args args') :
    Operation.Backed o.stopsAtNull (args'.map (·.result env r o.operand))
      (args.map (·.result env r o.operand)) := by
  induction h generalizing before with
  | nil => trivial
  | @cons e e' args args' he _ ih =>
    constructor
    · apply he
      intro x k' hx
      exact hn x k' (.argument before ho nofun hb hx)
    intro hgo
    apply ih (before ++ [e])
    · intro x k' hx
      rw [List.append_assoc] at hx
      exact hn x k' hx
    · intro y hy
      obtain hy | hy := List.mem_append.1 hy
      · exact hb y hy
      · obtain rfl := List.mem_singleton.1 hy
        exact hgo

/-- What a tree is folded to has only results of the tree, where no hidden call is reached. -/
theorem IsDeterministic.result_of_fold (hd : e.IsDeterministic) (hf : e.fold.result = .ok e')
    (hr : e'.result env r k = .ok a)
    (hn : ∀ x k', Reaches env e k (.row r) x k' (.row r) → ¬ x.IsHidden k') :
    e.result env r k = .ok a := by
  induction e generalizing e' k with
  | column | outer | literal =>
    cases hf
    exact hr
  | call head args memo ih =>
    obtain ⟨args', ha, hd', he⟩ := hd.fold_cases hf
    have hr' : (call head args' none).result env r k = .ok a := by
      obtain rfl | ⟨k', a', hk', rfl, hall⟩ := he
      · exact hr
      · have hr : (k'.box head.type a').as k = .ok a := hr
        have hk : head.builtin.rowKind? = some k := by
          by_contra hk
          exact hn _ k (.here _ k _) ⟨hk, _, a, hf, hr⟩
        rw [hd.of_head.kind?_eq, hk] at hk'
        cases hk'
        rw [k.as_box] at hr
        cases hr
        exact hall env r
    obtain ⟨o, ho, rfl⟩ := hd'.exists_operation hr'
    rw [hd'.result_call ho] at hr'
    rw [hd.result_call ho]
    have hl : (args'.map (·.meaning env)).length = (args.map (·.meaning env)).length := by
      rw [List.length_map, List.length_map, ha.length_eq]
    apply (backed_of_reaches [] ho hn (List.forall_mem_nil _) ?_).run hl hr'
    exact ha.imp fun e e' ⟨he, hf⟩ hn a hr => ih e he (hd.of_mem e he) hf hr hn

theorem Reaches.fails_of_isHidden {x : Expr} (hx : Reaches env e k (.row r) x k' (.row r))
    (hh : x.IsHidden k') (hd : e.IsDeterministic) : ∃ f, e.result env r k = .error f := by
  cases x with
  | column | outer | literal => exact hh.elim
  | call head args memo => exact ⟨_, hx.fails hd (result_refused hh.1 env r)⟩

theorem IsDeterministic.exists_result_of_fold (hd : (call head args memo).IsDeterministic)
    (hf : (call head args memo).fold.result = .ok e') (hk : head.type.category.kind? = some k)
    (hv : e'.value env r = .ok v) : ∃ a, e'.result env r k = .ok a := by
  obtain ⟨args', -, -, rfl | ⟨k', a, hk', rfl, -⟩⟩ := hd.fold_cases hf
  · rw [value_call hk] at hv
    obtain ⟨a, ha, -⟩ := map_ok_iff.1 hv
    exact ⟨a, ha⟩
  · cases hk.symm.trans hk'
    exact ⟨a, k.as_box _ _⟩

/-- Where what a tree is folded to has a value, the tree itself fails exactly if its evaluation
reaches a hidden call. -/
theorem IsDeterministic.fold_hides_iff (hd : e.IsDeterministic) (hf : e.fold.result = .ok e')
    (hv : (e'.eval env r).run.run g = (.ok v, g')) :
    (∃ f g', (e.eval env r).run.run g = (.error f, g')) ↔
      ∃ k x k', e.type.category.kind? = some k ∧
        Reaches env e k (.row r) x k' (.row r) ∧ x.IsHidden k' := by
  simp only [hd.eval_run_error_iff]
  rw [(hd.of_fold hf).eval_run] at hv
  obtain ⟨hval, rfl⟩ := Prod.mk.inj hv
  constructor
  · intro h
    obtain ⟨f, hfail⟩ := h
    cases e with
    | column | outer | literal =>
      cases hf
      cases hval.symm.trans hfail
    | call head args memo =>
      cases hk : head.type.category.kind? with
      | none =>
        rw [value_call_null hk] at hfail
        cases hfail
      | some k =>
        rw [value_call hk, map_error_iff] at hfail
        obtain ⟨a, ha⟩ := hd.exists_result_of_fold hf hk hval
        by_contra hn
        have hr := hd.result_of_fold hf ha fun x k' hx hh => hn ⟨k, x, k', hk, hx, hh⟩
        cases hfail.symm.trans hr
  · intro h
    obtain ⟨k, x, k', hk, hx, hh⟩ := h
    obtain ⟨f, hfail⟩ := hx.fails_of_isHidden hh hd
    cases e with
    | column | outer | literal =>
      cases hx
      exact hh.elim
    | call head args memo =>
      have hval : (call head args memo).value env r = .error f := by
        rw [value_call hk, hfail]
        rfl
      exact ⟨f, hval⟩

/-- A sum that is joined to a text is hidden. -/
theorem IsDeterministic.fold_hides_iff_sum :
    let s := column ⟨1, 0, .varchar, "s", none⟩
    let sum := (Builtin.arithmetic .plus (.int false)).toCall
      [literal (.int 1) .bigint none, literal (.int 2) .bigint none]
    let e := Builtin.concat.toCall [s, sum]
    let folded := Builtin.concat.toCall [s, literal (.int 3) .bigint none]
    let input : Chunk := ⟨[⟨.utf8, [some "x"]⟩], 1, List.forall_mem_singleton.2 rfl⟩
    e.IsDeterministic ∧ e.fold.result = .ok folded ∧
      (folded.eval {} (input.row 0)).run.run {} = (.ok (.text "x3"), {}) ∧
      ∃ f g', (e.eval {} (input.row 0)).run.run {} = (.error f, g') := by
  intro s sum e folded input
  have hd : e.IsDeterministic :=
    ⟨⟨rfl, rfl, rfl⟩, trivial, ⟨⟨rfl, rfl, rfl⟩, trivial, trivial, trivial⟩, trivial⟩
  have hf : e.fold.result = .ok folded := rfl
  have hv : (folded.eval {} (input.row 0)).run.run {} = (.ok (.text "x3"), {}) := rfl
  have hx : Reaches {} e .text (.row (input.row 0)) sum .text (.row (input.row 0)) := by
    refine .argument (o := .total .text .text true fun as => some (String.join as)) [s] rfl nofun ?_
      (.here sum .text (.row (input.row 0)))
    intro y hy
    obtain rfl := List.mem_singleton.1 hy
    exact ⟨some "x", rfl, nofun⟩
  have hh : sum.IsHidden .text := ⟨nofun, .int 3, some "3", rfl, rfl⟩
  exact ⟨hd, hf, hv, (hd.fold_hides_iff hf hv).2 ⟨.text, sum, .text, rfl, hx, hh⟩⟩

/-- A sum that is joined to a text is refused, and joined all the same when the call is folded. -/
theorem IsDeterministic.fold_hides_sum :
    let s := column ⟨1, 0, .varchar, "s", none⟩
    let one := literal (.int 1) .bigint none
    let two := literal (.int 2) .bigint none
    let sum := (Builtin.arithmetic .plus (.int false)).toCall [one, two]
    let e := Builtin.concat.toCall [s, sum]
    let folded := Builtin.concat.toCall [s, literal (.int 3) .bigint none]
    let input : Chunk := ⟨[⟨.utf8, [some "x"]⟩], 1, List.forall_mem_singleton.2 rfl⟩
    (newCall .builtins {} "plus" (some .bigint) [one, two]).run.run {} = (.ok sum, {}) ∧
      (newCall .builtins {} "concat" (some .varchar) [s, sum]).run.run {} = (.ok e, {}) ∧
      e.fold.result = .ok folded ∧
      (e.eval {} (input.row 0)).run.run {} =
        (.error (.error (.unsupported "plus does not support string evaluation")), {}) ∧
      (folded.eval {} (input.row 0)).run.run {} = (.ok (.text "x3"), {}) :=
  ⟨rfl, rfl, rfl, rfl, rfl⟩

end Expr

end ScalarExpr
