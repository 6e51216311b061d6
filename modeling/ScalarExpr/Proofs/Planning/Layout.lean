import ScalarExpr.Proofs.Evaluation.Congruence
import ScalarExpr.Proofs.Planning.Edit
/-!
Resolved trees and the layout of chunks. Copies of a tree that are resolved against two schemas
evaluate alike on chunks that have the columns of the tree in the places of their schema, whatever
order these are in and whatever other columns there are.
-/
namespace ScalarExpr

set_option autoImplicit true

variable {e e₁ e₂ : Expr} {s₁ s₂ : Schema} {k₁ k₂ : Chunk}

/-- The column of the chunk in the place that the schema has for the identity. -/
def Schema.columnIn? (s : Schema) (k : Chunk) (id : Int64) : Option Column :=
  (s.index? id).bind (k.columns[·]?)

theorem Chunk.column_eq_of_getElem? {k : Chunk} (h : k.columns[i]? = some d) :
    k.column i = .ok d := by
  rw [Chunk.column, h]

/-- A row reads a column and no more of its chunk. -/
theorem Row.get_congr (h₁ : k₁.column i₁ = .ok d) (h₂ : k₂.column i₂ = .ok d) (i : Nat)
    (t : SqlType) : (k₁.row i).get i₁ t = (k₂.row i).get i₂ t := by
  rw [Row.get, Row.get]
  dsimp only [Chunk.row]
  rw [h₁, h₂]
  rfl

namespace Expr

/-- No call of the tree has a random number generator of its own. -/
def HasNoGenerator (e : Expr) : Prop :=
  e.All fun
    | call head _ _ => ∀ i, head.builtin ≠ .rand (.generator i)
    | _ => True

theorem duplicate_builtin {b : Builtin} (h : ∀ i, b ≠ .rand (.generator i)) (g : Generators) :
    (b.duplicate.run g).1 = b := by
  cases b with
  | rand source =>
    cases source with
    | generator i => exact (h i rfl).elim
    | rowSeed => rfl
  | _ => rfl

theorem HasNoGenerator.duplicate_eq (h : e.HasNoGenerator) (g : Generators) :
    (e.duplicate.run g).1 = e := by
  induction e generalizing g with
  | column | outer | literal => rfl
  | call head args memo ih =>
    obtain ⟨hb, ha⟩ := all_call.1 h
    obtain ⟨g', hcopy⟩ := exists_duplicate_call head args memo g
    have hargs := forall₂_duplicateAll (R := Eq) (fun x hx g => (ih x hx (ha x hx) g).symm) g
    rw [List.forall₂_eq_eq_eq] at hargs
    rw [hcopy, ← hargs, duplicate_builtin hb]

/-- Each column of the tree is one and the same in both chunks, in the places of their schemas. -/
def SharesColumns (s₁ : Schema) (k₁ : Chunk) (s₂ : Schema) (k₂ : Chunk) (e : Expr) : Prop :=
  e.All fun
    | column c => ∃ d, s₁.columnIn? k₁ c.id = some d ∧ s₂.columnIn? k₂ c.id = some d
    | _ => True

theorem exists_of_resolve_column {s : Schema} {k : Chunk}
    (hc : s.columnIn? k c.id = some d) (h : (column c).resolve s = ⟨e, none⟩) :
    ∃ i, e = column { c with index := i } ∧ k.column i = .ok d := by
  obtain ⟨i, hi, hd⟩ := Option.bind_eq_some_iff.1 hc
  rw [resolve, hi] at h
  cases h
  exact ⟨i, rfl, Chunk.column_eq_of_getElem? hd⟩

theorem SharesColumns.agree (h : e.SharesColumns s₁ k₁ s₂ k₂) (hn : k₁.rowCount = k₂.rowCount)
    (h₁ : e.resolve s₁ = ⟨e₁, none⟩) (h₂ : e.resolve s₂ = ⟨e₂, none⟩) (env : Env) :
    Meaning.AgreeOnChunks .exact k₁ k₂ (e₁.meaning env) (e₂.meaning env) := by
  induction e generalizing e₁ e₂ with
  | column c =>
    obtain ⟨d, hd₁, hd₂⟩ := h
    obtain ⟨i₁, rfl, hk₁⟩ := exists_of_resolve_column hd₁ h₁
    obtain ⟨i₂, rfl, hk₂⟩ := exists_of_resolve_column hd₂ h₂
    exact .leaf rfl (fun i => Row.get_congr hk₁ hk₂ i c.type) (by rw [hk₁, hk₂])
  | outer c slot memo =>
    cases h₁
    cases h₂
    exact .leaf rfl (fun _ => rfl) (by rw [hn])
  | literal v t memo =>
    cases h₁
    cases h₂
    exact .leaf rfl (fun _ => rfl) (by rw [hn])
  | call head args memo ih =>
    obtain ⟨-, ha⟩ := all_call.1 h
    obtain ⟨args₁, rfl, hargs₁⟩ := exists_of_resolve_call h₁
    obtain ⟨args₂, rfl, hargs₂⟩ := exists_of_resolve_call h₂
    have hmem := forall₂_and_mem hargs₂
    apply agreeOnChunks_call hn
    exact forall₂_comp (fun _ x _ hx₁ hx₂ => ih x hx₂.1 (ha x hx₂.1) hx₁ hx₂.2) hargs₁.flip hmem

/-- Evaluation of a resolved copy does not depend on the layout: rows and chunks that have the same
columns give the same, failures included. -/
theorem HasNoGenerator.eval_eq_of_layout (he : e.HasNoGenerator)
    (h₁ : (e.duplicate.run g₁).1.resolve s₁ = ⟨e₁, none⟩)
    (h₂ : (e.duplicate.run g₂).1.resolve s₂ = ⟨e₂, none⟩) (hn : k₁.rowCount = k₂.rowCount)
    (h : e.SharesColumns s₁ k₁ s₂ k₂) (env : Env) :
    (∀ i, e₁.eval env (k₁.row i) = e₂.eval env (k₂.row i) ∧
      ∀ k, e₁.evalAs env (k₁.row i) k = e₂.evalAs env (k₂.row i) k) ∧
      ∀ b, e₁.fillBuffer env k₁ b = e₂.fillBuffer env k₂ b := by
  rw [he.duplicate_eq] at h₁ h₂
  have ha := h.agree hn h₁ h₂ env
  refine ⟨fun i => ⟨?_, fun k => ?_⟩, fun b => ?_⟩
  · exact Tolerance.agree_exact_iff.1 (ha.rows i).value
  · exact Tolerance.agree_exact_iff.1 ((ha.rows i).row k)
  · exact Tolerance.agree_exact_iff.1 (fillBuffer_agree ha b)

/-- A difference of two columns, in a chunk of these alone and in one that has them the other way
round, the second of them twice, behind another. -/
theorem HasNoGenerator.eval_eq_of_layout_difference :
    let n (i : Nat) : ColumnRef := ⟨1, i, .bigint, "n", none⟩
    let m (i : Nat) : ColumnRef := ⟨2, i, .bigint, "m", none⟩
    let e i j := (Builtin.arithmetic .minus (.int false)).toCall [column (n i), column (m j)]
    let s₁ : Schema := ⟨[n 0, m 0]⟩
    let s₂ : Schema := ⟨[⟨3, 0, .varchar, "s", none⟩, m 0, n 0, m 0]⟩
    let ns : Column := ⟨.int64, [some 5, none]⟩
    let ms : Column := ⟨.int64, [some 3, some 4]⟩
    let k₁ : Chunk := ⟨[ns, ms], 2, List.forall_mem_cons.2 ⟨rfl, List.forall_mem_singleton.2 rfl⟩⟩
    let k₂ : Chunk := ⟨[⟨.utf8, [none, none]⟩, ms, ns], 2, List.forall_mem_cons.2
      ⟨rfl, List.forall_mem_cons.2 ⟨rfl, List.forall_mem_singleton.2 rfl⟩⟩⟩
    (e 0 0).HasNoGenerator ∧ ((e 0 0).duplicate.run {}).1.resolve s₁ = ⟨e 0 1, none⟩ ∧
      ((e 0 0).duplicate.run {}).1.resolve s₂ = ⟨e 2 1, none⟩ ∧ k₁.rowCount = k₂.rowCount ∧
      (e 0 0).SharesColumns s₁ k₁ s₂ k₂ ∧
      (e 0 1).eval {} (k₁.row 0) = (e 2 1).eval {} (k₂.row 0) ∧
      (e 0 1).fillBuffer {} k₁ (.empty .int) = (e 2 1).fillBuffer {} k₂ (.empty .int) := by
  intro n m e s₁ s₂ ns ms k₁ k₂
  have he : (e 0 0).HasNoGenerator := ⟨nofun, trivial, trivial, trivial⟩
  have h : (e 0 0).SharesColumns s₁ k₁ s₂ k₂ := ⟨trivial, ⟨ns, rfl, rfl⟩, ⟨ms, rfl, rfl⟩, trivial⟩
  have h₁ : ((e 0 0).duplicate.run {}).1.resolve s₁ = ⟨e 0 1, none⟩ := rfl
  have h₂ : ((e 0 0).duplicate.run {}).1.resolve s₂ = ⟨e 2 1, none⟩ := rfl
  have hn : k₁.rowCount = k₂.rowCount := rfl
  obtain ⟨hrows, hchunks⟩ := he.eval_eq_of_layout h₁ h₂ hn h {}
  exact ⟨he, h₁, h₂, hn, h, (hrows 0).1, hchunks (.empty .int)⟩

end Expr

end ScalarExpr
