import ScalarExpr.Proofs.Column.Reading
import ScalarExpr.Proofs.Expr.Texts
/-!
What an evaluation gives, and that it does not fail out of bounds. There is a rule for each way to
put evaluations together, and one for each thing they are made of: draws from generators, buffers
and their views, conversions of values and operations on slots.
-/
namespace ScalarExpr

set_option autoImplicit true

/-- The failure is none of a position outside a list. -/
def Failure.isInBounds : Failure → Bool
  | .fault .outOfBounds => false
  | _ => true

theorem Failure.isInBounds_of_isOfColumn {f : Failure} (h : f.isOfColumn) : f.isInBounds := by
  cases f with
  | error => rfl
  | fault c => cases c <;> first | rfl | cases h

/-- The property of generators is one of their number. -/
def Generators.IsOfSize (Q : Generators → Prop) : Prop :=
  ∀ g g' : Generators, g'.states.length = g.states.length → Q g → Q g'

namespace Eval

/-- What the evaluation gives has the property. From generators with theirs it leads to such again,
and then it does not fail out of bounds. -/
structure Meets (Q : Generators → Prop) (p : α → Prop) (m : Eval α) : Prop where
  returns : Returns p m
  keeps : ∀ g, Q g → Q (m.run.run g).2
  inBounds : ∀ g f g', m.run.run g = (.error f, g') → Q g → f.isInBounds

namespace Meets

variable {Q : Generators → Prop} {p : α → Prop} {q : β → Prop} {m : Eval α} {k : α → Eval β}

theorem lift {r : Except Failure α} (hp : ∀ a, r = .ok a → p a)
    (hf : ∀ f, r = .error f → f.isInBounds) : Meets Q p (Eval.lift r) where
  returns g a g' h := by
    cases r with
    | ok a =>
      cases h
      exact hp a rfl
    | error f => cases h
  keeps g hg := hg
  inBounds g f g' h _ := by
    cases r with
    | ok a => cases h
    | error f =>
      cases h
      exact hf f rfl

theorem pure (h : p a) : Meets Q p (Pure.pure a) :=
  lift (r := .ok a) (fun b hb => by cases hb; exact h) fun _ hf => nomatch hf

theorem error (hf : f.isInBounds) : Meets Q p (Eval.lift (.error f)) :=
  lift (fun _ h => nomatch h) fun f' h => by cases h; exact hf

theorem bind (hm : Meets Q p m) (hk : ∀ a, p a → Meets Q q (k a)) : Meets Q q (m >>= k) where
  returns := hm.returns.bind_returns fun a ha => (hk a ha).returns
  keeps g hg := by
    rw [ExceptT.run_bind, StateT.run_bind]
    have hg' := hm.keeps g hg
    cases hr : m.run.run g with
    | mk r g' =>
      rw [hr] at hg'
      cases r with
      | error f => exact hg'
      | ok a => exact (hk a (hm.returns g a g' hr)).keeps g' hg'
  inBounds g f g₂ h hg := by
    rw [ExceptT.run_bind, StateT.run_bind] at h
    have hg' := hm.keeps g hg
    cases hr : m.run.run g with
    | mk r g' =>
      rw [hr] at h hg'
      cases r with
      | error f' =>
        cases h
        exact hm.inBounds g _ g' hr hg
      | ok a => exact (hk a (hm.returns g a g' hr)).inBounds g' f g₂ h hg'

theorem mono {p' : α → Prop} (hm : Meets Q p m) (hp : ∀ a, p a → p' a) : Meets Q p' m :=
  bind_pure m ▸ hm.bind fun a ha => .pure (hp a ha)

theorem mapM {k : α → Eval β} {xs : List α} (hk : ∀ x ∈ xs, Meets Q q (k x)) :
    Meets Q (fun ys => ys.length = xs.length ∧ ∀ y ∈ ys, q y) (xs.mapM k) := by
  induction xs with
  | nil => exact .pure ⟨rfl, nofun⟩
  | cons x xs ih =>
    obtain ⟨hx, hxs⟩ := List.forall_mem_cons.1 hk
    rw [List.mapM_cons]
    refine hx.bind fun y hy => (ih hxs).bind fun ys hys => .pure ?_
    exact ⟨congrArg Nat.succ hys.1, List.forall_mem_cons.2 ⟨hy, hys.2⟩⟩

end Meets

end Eval

namespace Generators

theorem draw_run (i : Nat) (g : Generators) :
    (draw i).run.run g = match g.states[i]? with
      | none => (.error (.fault .outOfBounds), g)
      | some s => (.ok (g.algorithm.next s).1,
        { g with states := g.states.set i (g.algorithm.next s).2 }) := by
  show (match g.states[i]? with
    | none => Eval.fault .outOfBounds
    | some s => do
      set { g with states := g.states.set i (g.algorithm.next s).2 }
      return (g.algorithm.next s).1 : Eval Binary64).run.run g = _
  cases g.states[i]? <;> rfl

/-- To draw from a generator that is there is in bounds. -/
theorem draw_meets {Q : Generators → Prop} (hQ : IsOfSize Q) {i : Nat}
    (hi : ∀ g, Q g → i < g.states.length) : Eval.Meets Q (fun _ => True) (draw i) where
  returns _ _ _ _ := trivial
  keeps g hg := by
    rw [draw_run]
    cases g.states[i]? with
    | none => exact hg
    | some s => exact hQ g _ List.length_set hg
  inBounds g f g' h hg := by
    rw [draw_run, List.getElem?_eq_getElem (hi g hg)] at h
    cases h

theorem drawSeeded_meets {Q : Generators → Prop} (seed : Int64) :
    Eval.Meets Q (fun _ => True) (drawSeeded seed) where
  returns _ _ _ _ := trivial
  keeps _ hg := hg
  inBounds _ _ _ h _ := nomatch h

end Generators

/-! ### Buffers -/

/-- The buffer is of the category and holds as many slots, in a column of that category. -/
structure Buffer.HasSlots (b : Buffer) (t : Category) (n : Nat) : Prop where
  category : b.category = t
  content : ∃ d, b.content = some d ∧ t.accepts d.type ∧ d.size = n

namespace Buffer.HasSlots

variable {b filled : Buffer} {c : Column} {t : Category}

theorem of_fill (h : b.fill c = .ok filled) : filled.HasSlots b.category c.size := by
  have h : b.fillFrom (.column c) = .ok filled := h
  obtain ⟨hc, d, hd, hs⟩ := fillFrom_ok h
  obtain ⟨ha, hn⟩ := Category.stored_ok hs
  exact ⟨hc, d, hd, ha, hn⟩

theorem accepts (h : b.HasSlots t n) (d : Column) (hd : b.content = some d) :
    b.category.accepts d.type := by
  obtain ⟨rfl, d', hd', ha, -⟩ := h
  cases hd.symm.trans hd'
  exact ha

/-- A view of the category has all slots. -/
theorem view {Q : Generators → Prop} {slots : Except Failure (List (Option α))}
    (h : b.HasSlots t n) (hv : b.IsView t slots) :
    Eval.Meets Q (·.length = n) (Eval.lift slots) := by
  obtain ⟨hc, d, hd, -, hn⟩ := h
  obtain ⟨xs, rfl⟩ := hv.ok_iff.2 ⟨hc, by rw [hd]; rfl⟩
  have hl := hv.size xs rfl
  rw [size, hd] at hl
  exact .pure (hl.trans hn)

theorem int64s {Q : Generators → Prop} (h : b.HasSlots .int n) :
    Eval.Meets Q (·.length = n) (Eval.lift b.int64s) :=
  h.view (int64s_isView h.accepts)

theorem float64s {Q : Generators → Prop} (h : b.HasSlots .real n) :
    Eval.Meets Q (·.length = n) (Eval.lift b.float64s) :=
  h.view (float64s_isView h.accepts)

theorem strings {Q : Generators → Prop} (h : b.HasSlots .text n) :
    Eval.Meets Q (·.length = n) (Eval.lift b.strings) :=
  h.view (strings_isView h.accepts)

end Buffer.HasSlots

/-! ### Values and slots -/

section Values

variable {v : Value} {t : SqlType} {k : Kind} {f : Failure}

theorem Value.as_inBounds (h : v.as k = .error f) : f.isInBounds := by
  cases k with
  | int | real =>
    obtain ⟨_, -, rfl⟩ := mapError_error_iff.1 h
    rfl
  | text =>
    obtain ⟨c, hc, rfl⟩ := mapError_error_iff.1 h
    cases v with
    | null => cases hc
    | _ =>
      obtain rfl := render_error (map_error_iff.1 hc)
      rfl

theorem Value.broadcast_inBounds (h : v.broadcast t n = .error f) : f.isInBounds := by
  unfold broadcast at h
  split at h
  · cases h
  · split at h
    case h_1 | h_2 | h_3 =>
      obtain h | ⟨_, -, h⟩ := bind_error_iff.1 h
      · exact as_inBounds h
      · cases h
    case h_4 =>
      split at h
      · obtain h | ⟨_, -, h⟩ := bind_error_iff.1 h
        · obtain ⟨_, -, rfl⟩ := mapError_error_iff.1 h
          rfl
        · cases h
      · cases h
        rfl
    case h_5 | h_6 =>
      split at h
      · cases h
      · cases h
        rfl

theorem Row.get_inBounds {r : Row} (h : r.get i t = .error f) : f.isInBounds := by
  cases hs : r.slot? i with
  | none =>
    obtain ⟨e, he⟩ := exists_error_of_slot? hs t
    cases h.symm.trans he
    rfl
  | some s =>
    have hr := get_readsAs hs t
    rw [h] at hr
    cases hr <;> rfl

end Values

theorem onSlots_error (h : onSlots f p = .error e) : ∃ a b, f a b = .error e := by
  obtain ⟨a, b⟩ := p
  cases a with
  | none => cases h
  | some a =>
    cases b with
    | none => cases h
    | some b => exact ⟨a, b, h⟩

theorem zipSlots_meets {Q : Generators → Prop} {f : α → β → Except Failure (Option γ)}
    (hf : ∀ a b e, f a b = .error e → e.isInBounds) {as : List (Option α)} {bs : List (Option β)}
    (ha : as.length = n) (hb : bs.length = n) :
    Eval.Meets Q (·.length = n) (Eval.lift (zipSlots f as bs)) := by
  rw [zipSlots_eq_mapM]
  apply Eval.Meets.lift
  · intro zs h
    rw [← (mapM_ok_iff.1 h).length_eq, List.length_zip, ha, hb, Nat.min_self]
  · intro e h
    obtain ⟨before, p, after, -, -, hp⟩ := mapM_error_iff.1 h
    obtain ⟨a, b, h⟩ := onSlots_error hp
    exact hf a b e h

end ScalarExpr
