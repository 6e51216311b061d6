import ScalarExpr.Planning.Fold
import ScalarExpr.Proofs.Expr.Texts
import ScalarExpr.Proofs.Value.Texts
import ScalarExpr.Proofs.Planning.Traced
import ScalarExpr.Proofs.Evaluation.Reach
/-!
Constant folding and evaluation by rows. Folding keeps every result that there is. It gives some
results more: a literal answers for every kind, the call that it takes the place of for one.
-/
namespace ScalarExpr

set_option autoImplicit true

theorem exists_decimalText (n : Int128) {scale : Int} (h₀ : 0 ≤ scale) (h : scale ≤ 38) :
    ∃ s, decimalText n.toInt scale = .ok s := by
  refine exists_decimalText_iff.2 ⟨by omega, fun hs => ?_⟩
  have hlow : -Int.pow 2 127 ≤ n.toInt := n.le_toInt
  have hhigh : n.toInt < Int.pow 2 127 := n.toInt_lt
  obtain rfl : scale = 0 := by omega
  rw [Int.natAbs_zero, Int.pow_zero, Int.mul_one, fitsInt128, Bool.and_eq_true, decide_eq_true_eq,
    decide_eq_true_eq]
  exact ⟨hlow, hhigh⟩

theorem Value.as_ne_fault {v : Value} (h : v.render = .ok s) (k : Kind) (c : Fault) :
    v.as k ≠ .error (.fault c) := by
  intro hv
  cases k with
  | int =>
    rw [Value.as] at hv
    cases ha : v.asInt <;> rw [ha] at hv <;> cases hv
  | real =>
    rw [Value.as] at hv
    cases ha : v.asReal <;> rw [ha] at hv <;> cases hv
  | text =>
    have ht : ∃ a, v.asText = .ok a := by
      cases v with
      | null => exact ⟨none, rfl⟩
      | _ => exact ⟨some s, congrArg (Except.map some) h⟩
    obtain ⟨a, ha⟩ := ht
    rw [Value.as, ha] at hv
    cases hv

theorem Kind.exists_render_box (t : SqlType) (k : Kind) (a : Option k.Item) :
    ∃ s, (k.box t a).render = .ok s := by
  cases k with
  | int =>
    cases a with
    | none => exact ⟨_, rfl⟩
    | some n =>
      rw [Kind.box]
      split <;> exact ⟨_, rfl⟩
  | real | text => cases a <;> exact ⟨_, rfl⟩

namespace Expr

variable {e e' : Expr} {args : List Expr} {head : CallHead} {memo : Memo} {env : Env} {r : Row}
  {k : Kind}

/-! ### Folding step by step -/

theorem foldAll_eq_mapM (es : List Expr) : foldAll es = es.mapM fold := by
  induction es with
  | nil => rfl
  | cons e es ih => rw [foldAll, List.mapM_cons, ih]

theorem settle_isBlind (head : CallHead) (args : List Expr) : (settle head args).IsBlind := by
  unfold settle
  dsimp only
  split
  · split
    · exact .bind (.record _) fun _ => .pure _
    · exact .bind (.record _) fun _ => .pure _
    · exact .lift _
  · exact .pure _

theorem fold_isBlind (e : Expr) : e.fold.IsBlind := by
  induction e with
  | column | outer | literal => exact .pure _
  | call head args memo ih =>
    rw [fold, foldAll_eq_mapM]
    exact .bind (.mapM ih) fun args => settle_isBlind head args

theorem fold_call_result (head : CallHead) (args : List Expr) (memo : Memo) :
    (call head args memo).fold.result =
      (args.mapM fun e => e.fold.result) >>= fun args => (settle head args).result := by
  have hb : ∀ e ∈ args, e.fold.IsBlind := fun e _ => fold_isBlind e
  rw [fold, foldAll_eq_mapM, Traced.result_bind (.mapM hb) (settle_isBlind head),
    Traced.result_mapM hb]

/-- A call is settled as itself, or as the literal of its value if it is constant. -/
theorem settle_cases (h : (settle head args).result = .ok e) :
    e = call head args none ∨ ∃ v, (call head args none).isConstant ∧
      head.type.category.isFolded ∧ (call head args none).constantValue = .ok v ∧
        e = literal v head.type none := by
  unfold settle at h
  dsimp only at h
  split at h
  case isTrue hc =>
    rw [Bool.and_eq_true] at hc
    split at h
    case h_1 v hv =>
      cases h
      exact .inr ⟨v, hc.1, hc.2, hv, rfl⟩
    case h_2 =>
      cases h
      exact .inl rfl
    case h_3 => cases h
  case isFalse =>
    cases h
    exact .inl rfl

theorem fold_cases (h : (call head args memo).fold.result = .ok e') :
    ∃ args', List.Forall₂ (fun e e' => e.fold.result = .ok e') args args' ∧
      (e' = call head args' none ∨ ∃ v, (call head args' none).isConstant ∧
        head.type.category.isFolded ∧ (call head args' none).constantValue = .ok v ∧
          e' = literal v head.type none) := by
  rw [fold_call_result] at h
  obtain ⟨args', ha, h⟩ := bind_ok_iff.1 h
  exact ⟨args', mapM_ok_iff.1 ha, settle_cases h⟩

theorem all_fold {p : Expr → Prop} (hliteral : ∀ v t, p (literal v t none))
    (hcall : ∀ head args args' memo, args.length = args'.length → p (call head args memo) →
      p (call head args' none)) (he : e.All p) (h : e.fold.result = .ok e') : e'.All p := by
  induction e generalizing e' with
  | column | outer | literal =>
    cases h
    exact he
  | call head args memo ih =>
    obtain ⟨hp, hargs⟩ := all_call.1 he
    obtain ⟨args', ha, rfl | ⟨v, -, -, -, rfl⟩⟩ := fold_cases h
    · refine all_call.2 ⟨hcall head args args' memo ha.length_eq hp, ?_⟩
      intro e' he'
      obtain ⟨e, he, hf⟩ := exists_left_of_forall₂ ha he'
      exact ih e he (hargs e he) hf
    · exact hliteral v head.type

theorem IsDeterministic.of_fold (hd : e.IsDeterministic) (h : e.fold.result = .ok e') :
    e'.IsDeterministic := by
  apply all_fold ?_ ?_ hd h
  · intro _ _
    trivial
  · intro head args args' memo hl hp
    show head.IsDeterministic args'.length
    exact hl ▸ hp

/-! ### Results that are kept -/

/-- A call has the results of a call of the same builtin whose arguments have no more results. -/
theorem result_call_mono {args' : List Expr} {memo' : Memo} {env' : Env} {r' : Row}
    (hd : (call head args memo).IsDeterministic) (hd' : (call head args' memo').IsDeterministic)
    (h : List.Forall₂ (fun e e' => ∀ k a, e.result env r k = .ok a → e'.result env' r' k = .ok a)
      args args') (hr : (call head args memo).result env r k = .ok a) :
    (call head args' memo').result env' r' k = .ok a := by
  obtain ⟨o, ho, rfl⟩ := hd.exists_operation hr
  rw [hd.result_call ho] at hr
  rw [hd'.result_call ho]
  have hl : (args.map (·.meaning env)).length = (args'.map (·.meaning env')).length := by
    rw [List.length_map, List.length_map, h.length_eq]
  apply (Operation.Backed.of_forall₂ ?_).run hl hr
  rw [List.forall₂_map_left_iff, List.forall₂_map_right_iff]
  exact h.imp fun e e' he => he _

theorem result_of_isConstant {env' : Env} {r' : Row} (hd : e.IsDeterministic) (hc : e.isConstant)
    (hr : e.result env r k = .ok a) : e.result env' r' k = .ok a := by
  induction e generalizing k with
  | column | outer => cases hc
  | literal => exact hr
  | call head args memo ih =>
    rw [isConstant, Bool.and_eq_true, areConstant_iff] at hc
    apply result_call_mono hd hd ?_ hr
    rw [List.forall₂_same]
    intro e he k a
    exact ih e he (hd.of_mem e he) (hc.2 e he)

theorem IsDeterministic.kind?_of_result (hd : (call head args memo).IsDeterministic)
    (hr : (call head args memo).result env r k = .ok a) : head.type.category.kind? = some k := by
  rw [hd.of_head.kind?_eq]
  exact rowKind?_of_result hr

/-- The literal that a call is settled as has the result of the call for every row. -/
theorem settled_value (hd : (call head args memo).IsDeterministic)
    (hc : (call head args memo).isConstant) (hf : head.type.category.isFolded)
    (hv : (call head args memo).constantValue = .ok v) :
    ∃ k a, head.type.category.kind? = some k ∧ v = k.box head.type a ∧
      ∀ env r, (call head args memo).result env r k = .ok a := by
  obtain ⟨k, hk⟩ : ∃ k, head.type.category.kind? = some k := by
    cases ht : head.type.category with
    | int | real | text => exact ⟨_, rfl⟩
    | decimal | datetime | duration =>
      rw [ht] at hf
      cases hf
  have hv : (call head args memo).value {} .empty = .ok v := hv
  rw [value_call hk] at hv
  obtain ⟨a, ha, rfl⟩ := map_ok_iff.1 hv
  exact ⟨k, a, hk, rfl, fun env r => result_of_isConstant hd hc ha⟩

/-- A folded call is the call of its folded arguments, or the literal of the result that this call
has for every row. -/
theorem IsDeterministic.fold_cases (hd : (call head args memo).IsDeterministic)
    (h : (call head args memo).fold.result = .ok e') :
    ∃ args', List.Forall₂ (fun e e' => e ∈ args ∧ e.fold.result = .ok e') args args' ∧
      (call head args' none).IsDeterministic ∧ (e' = call head args' none ∨
        ∃ k a, head.type.category.kind? = some k ∧ e' = literal (k.box head.type a) head.type none ∧
          ∀ env r, (call head args' none).result env r k = .ok a) := by
  obtain ⟨args', ha, he⟩ := Expr.fold_cases h
  have hd' : (call head args' none).IsDeterministic := by
    apply hd.of_args ha.length_eq
    intro e' he'
    obtain ⟨e, he, hf⟩ := exists_left_of_forall₂ ha he'
    exact (hd.of_mem e he).of_fold hf
  have hmem := forall₂_and_mem ha
  obtain he | ⟨v, hc, hf, hv, he⟩ := he
  · exact ⟨args', hmem, hd', .inl he⟩
  · obtain ⟨k, a, hk, rfl, hall⟩ := settled_value hd' hc hf hv
    exact ⟨args', hmem, hd', .inr ⟨k, a, hk, he, hall⟩⟩

/-- A result of a tree is a result of the tree that it is folded to. -/
theorem IsDeterministic.result_fold (hd : e.IsDeterministic) (h : e.fold.result = .ok e')
    (hr : e.result env r k = .ok a) : e'.result env r k = .ok a := by
  induction e generalizing e' k with
  | column | outer | literal =>
    cases h
    exact hr
  | call head args memo ih =>
    obtain ⟨args', ha, hd', he⟩ := hd.fold_cases h
    have hr' : (call head args' none).result env r k = .ok a :=
      result_call_mono hd hd' (ha.imp fun e e' ⟨he, hf⟩ k a => ih e he (hd.of_mem e he) hf) hr
    obtain rfl | ⟨k', a', hk', rfl, hall⟩ := he
    · exact hr'
    · obtain rfl : k' = k := Option.some.inj (hk'.symm.trans (hd.kind?_of_result hr))
      obtain rfl : a' = a := Except.ok.inj ((hall env r).symm.trans hr')
      exact k'.as_box _ _

/-- The value of a tree is the value of the tree that it is folded to. -/
theorem IsDeterministic.value_fold (hd : e.IsDeterministic) (h : e.fold.result = .ok e')
    (hv : e.value env r = .ok v) : e'.value env r = .ok v := by
  cases e with
  | column | outer | literal =>
    cases h
    exact hv
  | call head args memo =>
    obtain ⟨args', -, -, he⟩ := hd.fold_cases h
    cases hk : head.type.category.kind? with
    | none =>
      rw [value_call_null hk] at hv
      obtain rfl | ⟨k, a, hk', -⟩ := he
      · rw [value_call_null hk, hv]
      · cases hk.symm.trans hk'
    | some k =>
      rw [value_call hk] at hv
      obtain ⟨a, ha, rfl⟩ := map_ok_iff.1 hv
      have hr := hd.result_fold h ha
      obtain rfl | ⟨k', a', hk', rfl, -⟩ := he
      · rw [value_call hk, hr]
        rfl
      · obtain rfl : k = k' := Option.some.inj (hk.symm.trans hk')
        obtain rfl : a' = a := Except.ok.inj ((k.as_box _ _).symm.trans hr)
        rfl

/-! ### Folding is not at fault -/

/-- The evaluation of a constant tree is at fault only where a literal has no text. -/
theorem HasTexts.result_ne_fault (h : e.HasTexts) (hd : e.IsDeterministic) (hc : e.isConstant)
    (c : Fault) : e.result env r k ≠ .error (.fault c) := by
  induction e generalizing k with
  | column | outer => cases hc
  | literal v t memo =>
    obtain ⟨s, hs⟩ := h
    exact Value.as_ne_fault hs k c
  | call head args memo ih =>
    rw [isConstant, Bool.and_eq_true, areConstant_iff] at hc
    intro hr
    by_cases hk : head.builtin.rowKind? = some k
    · obtain ⟨o, ho, rfl⟩ := Builtin.exists_operation hd.of_head.builtin hk head.settings
      rw [hd.result_call ho, Operation.run_error_iff, Operation.operands_error_iff] at hr
      obtain ⟨before, after, hx, -⟩ | ⟨as, -, hr⟩ := hr
      · have hm : .error (.fault c) ∈ args.map (·.result env r o.operand) := by
          rw [hx]
          simp
        obtain ⟨e, he, hf⟩ := List.mem_map.1 hm
        exact ih e he (h.of_mem e he) (hd.of_mem e he) (hc.2 e he) hf
      · obtain ⟨m, hm, hl⟩ := (o.apply_error _ _ _ hr).2 c rfl
        obtain ⟨e, he, rfl⟩ := List.mem_map.1 hm
        obtain ⟨s, hs⟩ := (h.of_mem e he).exists_render
        rw [meaning_label, hs] at hl
        cases hl
    · rw [result_refused hk] at hr
      cases hr

/-- A call whose literals have texts is settled, and so is what is recorded. -/
theorem settle_yields (hd : (call head args none).IsDeterministic)
    (ht : (call head args none).HasTexts) :
    (settle head args).Yields (fun e => e.IsDeterministic ∧ e.HasTexts) Event.HasLine := by
  obtain ⟨s, hs⟩ := ht.exists_render
  unfold settle
  dsimp only
  split
  case isFalse => exact .pure ⟨hd, ht⟩
  case isTrue hc =>
    rw [Bool.and_eq_true] at hc
    split
    case h_1 v hv =>
      obtain ⟨k, a, -, rfl, -⟩ := settled_value hd hc.1 hc.2 hv
      obtain ⟨s', hs'⟩ := k.exists_render_box head.type a
      refine .bind (.record ?_) fun _ _ => .pure ⟨trivial, s', hs'⟩
      rw [Event.HasLine, Event.line, hs, hs']
      exact ⟨_, rfl⟩
    case h_2 cause hv =>
      refine .bind (.record ?_) fun _ _ => .pure ⟨hd, ht⟩
      rw [Event.HasLine, Event.line, hs]
      exact ⟨_, rfl⟩
    case h_3 c hv =>
      have hv : (call head args none).value {} .empty = .error (.fault c) := hv
      cases hk : head.type.category.kind? with
      | none =>
        rw [value_call_null hk] at hv
        cases hv
      | some k =>
        rw [value_call hk, map_error_iff] at hv
        exact (ht.result_ne_fault hd hc.1 c hv).elim

theorem fold_yields (hd : e.IsDeterministic) (ht : e.HasTexts) :
    e.fold.Yields (fun e => e.IsDeterministic ∧ e.HasTexts) Event.HasLine := by
  induction e with
  | column | outer | literal => exact .pure ⟨hd, ht⟩
  | call head args memo ih =>
    rw [fold, foldAll_eq_mapM]
    apply Traced.Yields.bind (.mapM fun e he => ih e he (hd.of_mem e he) (ht.of_mem e he))
    intro args' ha
    have hm (e' : Expr) (he' : e' ∈ args') : e'.IsDeterministic ∧ e'.HasTexts := by
      obtain ⟨e, -, h⟩ := exists_left_of_forall₂ ha he'
      exact h
    apply settle_yields
    · exact hd.of_args ha.length_eq fun e' he' => (hm e' he').1
    · exact all_call.2 ⟨trivial, fun e' he' => (hm e' he').2⟩

/-- The decimals among the literals of the tree have a scale from 0 to 38. -/
def HasPlainDecimals (e : Expr) : Prop :=
  e.All fun
    | literal (.decimal _ scale) _ _ => 0 ≤ scale.toInt ∧ scale.toInt ≤ 38
    | _ => True

theorem HasPlainDecimals.hasTexts (h : e.HasPlainDecimals) : e.HasTexts := by
  apply h.imp
  intro e he
  cases e with
  | literal v t memo =>
    cases v with
    | decimal n scale => exact exists_decimalText n he.1 he.2
    | _ => exact ⟨_, rfl⟩
  | _ => trivial

/-- Folding keeps every value and every result that a tree of deterministic calls has for a row. -/
theorem IsDeterministic.fold_keeps (hd : e.IsDeterministic) (hp : e.HasPlainDecimals) :
    ∃ e', e.fold.result = .ok e' ∧ e.fold.logged.1 = .ok e' ∧ ∀ env r g g',
      (∀ v, (e.eval env r).run.run g = (.ok v, g') → (e'.eval env r).run.run g = (.ok v, g')) ∧
      ∀ k a, (e.evalAs env r k).run.run g = (.ok a, g') →
        (e'.evalAs env r k).run.run g = (.ok a, g') := by
  obtain ⟨e', hf, hl, hd', -⟩ := (fold_yields hd hp.hasTexts).exists_result
  refine ⟨e', hf, hl, ?_⟩
  intro env r g g'
  constructor
  · intro v hv
    rw [hd.eval_run] at hv
    obtain ⟨hval, rfl⟩ := Prod.mk.inj hv
    rw [hd'.eval_run, hd.value_fold hf hval]
  · intro k a ha
    rw [hd.evalAs_run] at ha
    obtain ⟨hres, rfl⟩ := Prod.mk.inj ha
    rw [hd'.evalAs_run, hd.result_fold hf hres]

/-- The length of a decimal, added to a column, is folded to a literal. -/
theorem IsDeterministic.fold_keeps_length :
    let n := column ⟨1, 0, .bigint, "n", none⟩
    let length := Builtin.length.toCall [literal (.decimal 150 2) (.decimal 3 2) none]
    let sum (e : Expr) := (Builtin.arithmetic .plus (.int false)).toCall [n, e]
    let folded := sum (literal (.int 4) .bigint none)
    (sum length).IsDeterministic ∧ (sum length).HasPlainDecimals ∧
      (sum length).fold.result = .ok folded ∧ ∀ env r g g' v,
        ((sum length).eval env r).run.run g = (.ok v, g') →
          (folded.eval env r).run.run g = (.ok v, g') := by
  intro n length sum folded
  have hd : (sum length).IsDeterministic :=
    ⟨⟨rfl, rfl, rfl⟩, trivial, ⟨⟨rfl, rfl, rfl⟩, trivial, trivial⟩, trivial⟩
  have hp : (sum length).HasPlainDecimals :=
    ⟨trivial, trivial, ⟨trivial, ⟨by decide, by decide⟩, trivial⟩, trivial⟩
  have hf : (sum length).fold.result = .ok folded := rfl
  obtain ⟨e', hf', -, h⟩ := hd.fold_keeps hp
  cases hf.symm.trans hf'
  exact ⟨hd, hp, hf, fun env r g g' => (h env r g g').1⟩

end Expr

end ScalarExpr
