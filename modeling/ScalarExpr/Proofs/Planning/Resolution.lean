import ScalarExpr.Proofs.Expr.Leaves
import ScalarExpr.Proofs.Planning.Commutation
import ScalarExpr.Proofs.Schema
/-!
Resolution as a walk over the leaves of a copy. Columns get their places from left to right, up to
the first that has none; all else in the tree stays as it is, so that its key does too.
-/
namespace ScalarExpr.Expr

set_option autoImplicit true

variable {e x : Expr} {es fs : List Expr} {s : Schema} {columns : List ColumnRef}

/-- The leaf with the place that its column has among the columns. -/
def PlacedIn (columns : List ColumnRef) : Expr → Expr → Prop
  | column c, x => ∃ i, Schema.IsFirst columns c.id i ∧ x = column { c with index := i }
  | e, x => x = e

/-! ### The walk -/

theorem resolveAll_append (s : Schema) (es fs : List Expr) :
    resolveAll s (es ++ fs) =
      match resolveAll s es with
      | ⟨es, some c⟩ => ⟨es ++ fs, some c⟩
      | ⟨es, none⟩ => (resolveAll s fs).map (es ++ ·) := by
  induction es with
  | nil => rfl
  | cons e es ih =>
    rw [List.cons_append, resolveAll, resolveAll, ih]
    obtain ⟨x, missing⟩ := e.resolve s
    cases missing with
    | some => rfl
    | none =>
      obtain ⟨xs, missing⟩ := resolveAll s es
      cases missing <;> rfl

theorem flatMap_leaves_resolveAll
    (h : ∀ e ∈ es, (e.resolve s).map leaves = resolveAll s e.leaves) :
    (resolveAll s es).map (·.flatMap leaves) = resolveAll s (es.flatMap leaves) := by
  induction es with
  | nil => rfl
  | cons e es ih =>
    rw [List.flatMap_cons, resolveAll_append, ← h e (by simp), ← ih fun x hx => h x (by simp [hx]),
      resolveAll]
    obtain ⟨x, missing⟩ := e.resolve s
    cases missing <;> rfl

/-- The leaves of a tree are resolved like a list of columns and other leaves. -/
theorem leaves_resolve (s : Schema) (e : Expr) :
    (e.resolve s).map leaves = resolveAll s e.leaves := by
  induction e with
  | outer | literal => rfl
  | column c =>
    rw [leaves, resolveAll, resolve]
    cases s.index? c.id <;> rfl
  | call head args memo ih =>
    rw [leaves_call, ← flatMap_leaves_resolveAll ih, resolve]
    simp only [Resolution.map, leaves_call]

theorem placedIn_of_resolve (he : e.IsLeaf) (h : e.resolve (.ofColumns columns) = ⟨x, none⟩) :
    PlacedIn columns e x := by
  cases e with
  | call => cases he
  | outer | literal =>
    cases h
    rfl
  | column c =>
    rw [resolve] at h
    split at h
    case h_1 i hi =>
      cases h
      exact ⟨i, Schema.index?_ofColumns.1 hi, rfl⟩
    case h_2 => cases h

theorem missing_of_resolve (he : e.IsLeaf) (h : e.resolve (.ofColumns columns) = ⟨x, some c⟩) :
    e = column c ∧ x = column c ∧ ∀ d ∈ columns, d.id ≠ c.id := by
  cases e with
  | call => cases he
  | outer | literal => cases h
  | column c =>
    rw [resolve] at h
    split at h
    case h_1 => cases h
    case h_2 hi =>
      cases h
      rw [Schema.index?_eq_none_iff, Schema.columns_ofColumns] at hi
      exact ⟨rfl, rfl, hi⟩

/-- A walk over leaves that came to its end, or to a column that has no place; the leaves before it
are placed, and it and all later ones are as they were. -/
inductive Walked (columns : List ColumnRef) : List Expr → Resolution (List Expr) → Prop
  | done (h : List.Forall₂ (PlacedIn columns) all placed) : Walked columns all ⟨placed, none⟩
  | stopped (h : List.Forall₂ (PlacedIn columns) before placed) (c : ColumnRef)
      (hc : ∀ d ∈ columns, d.id ≠ c.id) (after : List Expr) :
      Walked columns (before ++ column c :: after) ⟨placed ++ column c :: after, some c⟩

theorem Walked.cons {r : Resolution (List Expr)} (he : PlacedIn columns e x)
    (h : Walked columns es r) : Walked columns (e :: es) (r.map (x :: ·)) := by
  cases h with
  | done h => exact .done (.cons he h)
  | stopped h c hc after => exact .stopped (.cons he h) c hc after

theorem walked_resolveAll (h : ∀ e ∈ es, e.IsLeaf) :
    Walked columns es (resolveAll (.ofColumns columns) es) := by
  induction es with
  | nil => exact .done .nil
  | cons e es ih =>
    have he := h e (by simp)
    rw [resolveAll]
    split
    case h_1 x c hx =>
      obtain ⟨rfl, rfl, hc⟩ := missing_of_resolve he hx
      exact .stopped .nil c hc es
    case h_2 x hx => exact .cons (placedIn_of_resolve he hx) (ih fun y hy => h y (by simp [hy]))

theorem PlacedIn.exists_mem (h : PlacedIn columns (column c) x) : ∃ d ∈ columns, d.id = c.id := by
  obtain ⟨-, ⟨before, d, after, rfl, -, hd, -⟩, -⟩ := h
  exact ⟨d, by simp, hd⟩

namespace Walked

variable {r : Resolution (List Expr)}

theorem isSome_missing_iff (h : Walked columns es r) :
    r.missing.isSome ↔ ∃ c, column c ∈ es ∧ ∀ d ∈ columns, d.id ≠ c.id := by
  cases h with
  | done h =>
    refine ⟨nofun, fun hc => ?_⟩
    obtain ⟨c, hc, hn⟩ := hc
    obtain ⟨x, -, hx⟩ := exists_left_of_forall₂ h.flip hc
    obtain ⟨d, hd, hid⟩ := PlacedIn.exists_mem hx
    exact (hn d hd hid).elim
  | stopped h c hc after => exact ⟨fun _ => ⟨c, by simp, hc⟩, fun _ => rfl⟩

theorem placed (h : Walked columns es r) (hm : r.missing = none) :
    List.Forall₂ (PlacedIn columns) es r.result := by
  cases h with
  | done h => exact h
  | stopped => cases hm

theorem exists_placed (h : Walked columns es r) (hm : r.missing = some c) :
    ∃ before placed after, es = before ++ column c :: after ∧ (∀ d ∈ columns, d.id ≠ c.id) ∧
      List.Forall₂ (PlacedIn columns) before placed ∧ r.result = placed ++ column c :: after := by
  cases h with
  | done => cases hm
  | stopped h c hc after =>
    cases hm
    exact ⟨_, _, after, rfl, hc, h, rfl⟩

end Walked

/-! ### What the walk leaves as it was -/

theorem map_resolveAll_result {f : Expr → α} (h : ∀ e ∈ es, f (e.resolve s).result = f e) :
    (resolveAll s es).result.map f = es.map f := by
  induction es with
  | nil => rfl
  | cons e es ih =>
    have he := h e (by simp)
    rw [resolveAll]
    split
    case h_1 x c hx =>
      rw [hx] at he
      rw [List.map_cons, List.map_cons, he]
    case h_2 x hx =>
      rw [hx] at he
      rw [Resolution.map, List.map_cons, List.map_cons, he, ih fun y hy => h y (by simp [hy])]

theorem frame_resolve (s : Schema) (e : Expr) : (e.resolve s).result.frame = e.frame := by
  induction e with
  | outer | literal => rfl
  | column c =>
    rw [resolve]
    cases s.index? c.id <;> rfl
  | call head args memo ih =>
    rw [resolve, Resolution.map, frame_call, frame_call, map_resolveAll_result ih]

theorem key_resolve (s : Schema) (e : Expr) (o : Int32) :
    (e.resolve s).result.key o = e.key o := by
  induction e with
  | outer | literal => rfl
  | column c =>
    rw [resolve]
    cases s.index? c.id <;> rfl
  | call head args memo ih =>
    rw [resolve, Resolution.map, key_call, key_call, List.flatMap_def, List.flatMap_def,
      map_resolveAll_result ih]

/-! ### Copies -/

theorem leaves_duplicate (e : Expr) (g : Generators) :
    e.leaves = (e.duplicate.run g).1.leaves := by
  induction e generalizing g with
  | column | outer | literal => rfl
  | call head args memo ih =>
    have ha := forall₂_duplicateAll (R := fun x y => x.leaves = y.leaves) ih g
    rw [duplicate_call, leaves_call, leaves_call, List.flatMap_def, List.flatMap_def,
      map_eq_iff_forall₂.2 ha]

theorem duplicateAll_cons (e : Expr) (es : List Expr) (g : Generators) :
    (duplicateAll (e :: es)).run g =
      ((e.duplicate.run g).1 :: ((duplicateAll es).run (e.duplicate.run g).2).1,
        ((duplicateAll es).run (e.duplicate.run g).2).2) :=
  rfl

theorem duplicateAll_frame (h : ∀ e ∈ es, ∀ g,
    e.frame.duplicate.run g = ((e.duplicate.run g).1.frame, (e.duplicate.run g).2))
    (g : Generators) : (duplicateAll (es.map frame)).run g =
      (((duplicateAll es).run g).1.map frame, ((duplicateAll es).run g).2) := by
  induction es generalizing g with
  | nil => rfl
  | cons e es ih =>
    rw [List.map_cons, duplicateAll_cons, duplicateAll_cons, h e (by simp),
      ih fun x hx => h x (by simp [hx]), List.map_cons]

theorem frame_duplicate (e : Expr) (g : Generators) :
    e.frame.duplicate.run g = ((e.duplicate.run g).1.frame, (e.duplicate.run g).2) := by
  induction e generalizing g with
  | column | outer | literal => rfl
  | call head args memo ih =>
    rw [frame_call, duplicate_call, duplicate_call, duplicateAll_frame ih]
    simp only [frame_call]

/-- Resolution of a copy fails if and only if a column of the tree is not among the appended ones.
Up to the first that is not, each column then has the place of the first with its identity; nothing
else is changed, and neither is the key. -/
theorem resolve_exact (columns : List ColumnRef) (e : Expr) (g : Generators) :
    let copy := (e.duplicate.run g).1
    let r := copy.resolve (.ofColumns columns)
    (r.missing.isSome ↔ ∃ c, column c ∈ e.leaves ∧ ∀ d ∈ columns, d.id ≠ c.id) ∧
      r.result.frame = (e.frame.duplicate.run g).1 ∧
      (∀ o, e.IsCurrent o → (r.result.hashCode o).1 = (e.hashCode o).1) ∧
      (r.missing = none → List.Forall₂ (PlacedIn columns) e.leaves r.result.leaves) ∧
      ∀ c, r.missing = some c →
        (∃ text, (column c).render = .ok text ∧ c.notFound = .columnNotFound text) ∧
        ∃ before placed after, e.leaves = before ++ column c :: after ∧
          (∀ d ∈ columns, d.id ≠ c.id) ∧ List.Forall₂ (PlacedIn columns) before placed ∧
          r.result.leaves = placed ++ column c :: after := by
  intro copy r
  have hw : Walked columns e.leaves (r.map leaves) := by
    rw [leaves_resolve, leaves_duplicate e g]
    exact walked_resolveAll fun x hx => isLeaf_of_mem_leaves hx
  have hframe : r.result.frame = (e.frame.duplicate.run g).1 := by
    rw [frame_resolve, frame_duplicate]
  have hkey (o : Int32) (he : e.IsCurrent o) : (r.result.hashCode o).1 = (e.hashCode o).1 := by
    obtain ⟨hc, hk⟩ := he.duplicate g
    rw [(hc.resolve _).hashCode_eq, he.hashCode_eq, key_resolve, hk]
  exact ⟨hw.isSome_missing_iff, hframe, hkey, hw.placed,
    fun c hc => ⟨⟨c.text, rfl, rfl⟩, hw.exists_placed hc⟩⟩

/-- A column that is missing between others, with an identity that was appended twice. -/
theorem resolve_exact_between :
    let c (id : Int64) (i : Nat) (name : String) : ColumnRef := ⟨id, i, .bigint, name, none⟩
    let sum (x y : Expr) := (Builtin.arithmetic .plus (.int false)).toCall [x, y]
    let tree (i j : Nat) := sum (sum (column (c 1 i "a")) (outer (c 3 7 "o.a") 0 none))
      (sum (column (c 2 j "b")) (sum (column (c 77 7 "t.missing")) (column (c 1 7 "a"))))
    let columns := [c 2 0 "b", c 1 0 "a", c 2 0 "b"]
    let e := tree 7 7
    let r := (e.duplicate.run {}).1.resolve (.ofColumns columns)
    e.IsCurrent 0 ∧ r = ⟨tree 1 0, some (c 77 7 "t.missing")⟩ ∧
      (r.result.hashCode 0).1 = (e.hashCode 0).1 ∧ r.result.frame = (e.frame.duplicate.run {}).1 ∧
      ∃ before placed after, e.leaves = before ++ column (c 77 7 "t.missing") :: after ∧
        List.Forall₂ (PlacedIn columns) before placed ∧
        r.result.leaves = placed ++ column (c 77 7 "t.missing") :: after := by
  intro c sum tree columns e r
  have hr : r = ⟨tree 1 0, some (c 77 7 "t.missing")⟩ := rfl
  have hf : e.IsFresh := by
    simp [IsFresh, e, tree, sum, c, Builtin.toCall, All, AllIn]
  have he := hf.isCurrent 0
  obtain ⟨-, hframe, hkey, -, hmissing⟩ := resolve_exact columns e {}
  obtain ⟨-, before, placed, after, hl, -, hb, hp⟩ := hmissing _ (congrArg Resolution.missing hr)
  exact ⟨he, hr, hkey 0 he, hframe, before, placed, after, hl, hb, hp⟩

end ScalarExpr.Expr
