import ScalarExpr.Proofs.Expr.Induction
import ScalarExpr.Proofs.Traversal
/-!
Texts of trees. A tree has one if its literals have, and operands in a message are those of a tree.
-/
namespace ScalarExpr

set_option autoImplicit true

/-- A value without a text is a decimal whose digits do not fit. -/
theorem Value.render_error {v : Value} (h : v.render = .error f) : f = .integerOverflow := by
  cases v with
  | decimal n scale =>
    rw [render, decimalText] at h
    obtain h | ⟨power, -, h⟩ := bind_error_iff.1 h
    · rw [powerOfTen] at h
      split at h
      · cases h
      · cases h
        rfl
    · dsimp only at h
      split at h
      · split at h
        · cases h
        · cases h
          rfl
      · cases h
  | _ => cases h

namespace Expr

variable {e : Expr} {args : List Expr} {head : CallHead} {memo : Memo}

/-- The literals of the tree have a text. -/
def HasTexts (e : Expr) : Prop :=
  e.All fun
    | literal v _ _ => ∃ s, v.render = .ok s
    | _ => True

theorem HasTexts.of_mem (h : (call head args memo).HasTexts) : ∀ e ∈ args, e.HasTexts :=
  (all_call.1 h).2

theorem renderAll_eq_mapM (es : List Expr) : renderAll es = es.mapM render := by
  induction es with
  | nil => rfl
  | cons e es ih => rw [renderAll, List.mapM_cons, ih]

theorem HasTexts.exists_render (h : e.HasTexts) : ∃ s, e.render = .ok s := by
  induction e with
  | column c => exact ⟨_, rfl⟩
  | outer c => exact ⟨_, rfl⟩
  | literal v t memo => exact h
  | call head args memo ih =>
    obtain ⟨texts, ht⟩ := exists_mapM_ok fun e he => ih e he (h.of_mem e he)
    rw [render, renderAll_eq_mapM, ht]
    exact ⟨_, rfl⟩

theorem render_error (h : e.render = .error f) : f = .integerOverflow := by
  induction e with
  | column c | outer c => cases h
  | literal v t memo => exact Value.render_error h
  | call head args memo ih =>
    rw [render, renderAll_eq_mapM] at h
    obtain h | ⟨texts, -, h⟩ := bind_error_iff.1 h
    · obtain ⟨before, e, after, rfl, -, he⟩ := mapM_error_iff.1 h
      exact ih e (by simp) he
    · cases h

/-- The text of a tree, empty if it has none. -/
def text (e : Expr) : String := e.render.toOption.getD ""

theorem HasTexts.render_eq (h : e.HasTexts) : e.render = .ok e.text := by
  obtain ⟨s, hs⟩ := h.exists_render
  rw [text, hs]
  rfl

theorem meaning_label (e : Expr) (env : Env) : (e.meaning env).label () = e.render := by
  cases e <;> rfl

/-- The operands in the message of an overflow. -/
theorem infixText_meanings (symbol : String) (es : List Expr) (env : Env) :
    Meaning.infixText symbol (es.map (meaning env)) = do
      let texts ← es.mapM render
      return "(" ++ (" " ++ symbol ++ " ").intercalate texts ++ ")" := by
  have hl : ∀ e : Expr, ((fun m : Meaning => m.label ()) ∘ meaning env) e = e.render :=
    fun e => meaning_label e env
  rw [Meaning.infixText, List.mapM_map, funext hl]

end Expr

end ScalarExpr
