import ScalarExpr.Schema
import Mathlib.Data.List.Induction
/-!
Places in row layouts. A column that is appended gets the next place, and no identity that has a
place already gets another.
-/
namespace ScalarExpr.Schema

set_option autoImplicit true

variable {s : Schema} {columns : List ColumnRef} {id : Int64}

/-- The identities that have a place. -/
def ids (s : Schema) : List Int64 := s.columns.map (·.id)

/-- Among the columns, the first with the identity has the place. -/
def IsFirst (columns : List ColumnRef) (id : Int64) (i : Nat) : Prop :=
  ∃ before c after, columns = before ++ c :: after ∧ before.length = i ∧ c.id = id ∧
    ∀ b ∈ before, b.id ≠ id

theorem index?_append (s : Schema) (c : ColumnRef) (id : Int64) :
    (s.append c).index? id = (s.index? id).or (if c.id = id then some s.size else none) := by
  rw [index?, append, List.findIdx?_append, index?]
  by_cases h : c.id = id <;> simp [h, size]

theorem columns_foldl_append (columns : List ColumnRef) (s : Schema) :
    (columns.foldl append s).columns = s.columns ++ columns := by
  induction columns generalizing s with
  | nil => simp
  | cons c cs ih => simp [ih, append]

theorem columns_ofColumns (columns : List ColumnRef) : (ofColumns columns).columns = columns :=
  columns_foldl_append columns {}

theorem contains_iff : s.contains id ↔ id ∈ s.ids := by
  simp [contains, index?, ids]

theorem index?_eq_none_iff : s.index? id = none ↔ ∀ c ∈ s.columns, c.id ≠ id := by
  simp [index?]

theorem isFirst_concat {c : ColumnRef} : IsFirst (columns ++ [c]) id i ↔
    IsFirst columns id i ∨ (∀ b ∈ columns, b.id ≠ id) ∧ c.id = id ∧ columns.length = i := by
  constructor
  · intro h
    obtain ⟨before, d, after, hcs, hi, hd, hb⟩ := h
    obtain rfl | ⟨after, x, rfl⟩ := List.eq_nil_or_concat after
    · obtain ⟨rfl, hc⟩ := List.append_inj' hcs rfl
      cases hc
      exact .inr ⟨hb, hd, hi⟩
    · rw [List.concat_eq_append, ← List.cons_append, ← List.append_assoc] at hcs
      exact .inl ⟨before, d, after, (List.append_inj' hcs rfl).1, hi, hd, hb⟩
  · intro h
    obtain ⟨before, d, after, rfl, h⟩ | ⟨hb, hc, hi⟩ := h
    · exact ⟨before, d, after ++ [c], by simp, h⟩
    · exact ⟨columns, c, [], rfl, hi, hc, hb⟩

/-- Columns appended one after another have the places of the first with their identities. -/
theorem index?_ofColumns : (ofColumns columns).index? id = some i ↔ IsFirst columns id i := by
  induction columns using List.reverseRecOn generalizing i with
  | nil => simp [ofColumns, index?, IsFirst]
  | append_singleton cs c ih =>
    have hs : ofColumns (cs ++ [c]) = (ofColumns cs).append c := List.foldl_append ..
    rw [hs, index?_append, Option.or_eq_some_iff, ih, index?_eq_none_iff, isFirst_concat, size,
      columns_ofColumns, Option.ite_none_right_eq_some, Option.some_inj]

end ScalarExpr.Schema
