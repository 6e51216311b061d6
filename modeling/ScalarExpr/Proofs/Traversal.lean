import Mathlib.Data.List.Forall2
/-!
Steps that may fail one after another, and traversals of lists by them. A traversal fails as its
first step that fails.
-/
namespace ScalarExpr

set_option autoImplicit true

theorem bind_ok_iff {m : Except ε α} {k : α → Except ε β} :
    m >>= k = .ok b ↔ ∃ a, m = .ok a ∧ k a = .ok b := by
  cases m with
  | error e => simp [bind, Except.bind]
  | ok a => simp [bind, Except.bind]

theorem bind_error_iff {m : Except ε α} {k : α → Except ε β} :
    m >>= k = .error e ↔ m = .error e ∨ ∃ a, m = .ok a ∧ k a = .error e := by
  cases m with
  | error e => simp [bind, Except.bind]
  | ok a => simp [bind, Except.bind]

theorem map_ok_iff {f : α → β} {m : Except ε α} : f <$> m = .ok b ↔ ∃ a, m = .ok a ∧ f a = b := by
  cases m with
  | error e => simp [Functor.map, Except.map]
  | ok a => simp [Functor.map, Except.map]

theorem map_error_iff {f : α → β} {m : Except ε α} : f <$> m = .error e ↔ m = .error e := by
  cases m with
  | error e => simp [Functor.map, Except.map]
  | ok a => simp [Functor.map, Except.map]

theorem mapError_error_iff {g : ε → ε'} {m : Except ε α} :
    m.mapError g = .error e' ↔ ∃ e, m = .error e ∧ g e = e' := by
  cases m with
  | error e => simp [Except.mapError]
  | ok a => simp [Except.mapError]

theorem exists_left_of_forall₂ {R : α → β → Prop} {xs : List α} {ys : List β}
    (h : List.Forall₂ R xs ys) (hy : y ∈ ys) : ∃ x ∈ xs, R x y := by
  induction h with
  | nil => cases hy
  | @cons x y' xs ys hx _ ih =>
    obtain rfl | hy := List.mem_cons.1 hy
    · exact ⟨x, by simp, hx⟩
    · obtain ⟨z, hz, hr⟩ := ih hy
      exact ⟨z, by simp [hz], hr⟩

theorem forall₂_and_mem {R : α → β → Prop} {xs : List α} {ys : List β} (h : List.Forall₂ R xs ys) :
    List.Forall₂ (fun x y => x ∈ xs ∧ R x y) xs ys :=
  (List.forall₂_and_left xs ys).2 ⟨fun _ hx => hx, h⟩

theorem forall₂_comp {R : α → β → Prop} {S : β → γ → Prop} {T : α → γ → Prop} {xs : List α}
    {ys : List β} {zs : List γ} (h : ∀ x y z, R x y → S y z → T x z) (hxy : List.Forall₂ R xs ys)
    (hyz : List.Forall₂ S ys zs) : List.Forall₂ T xs zs := by
  induction hxy generalizing zs with
  | nil =>
    cases hyz
    exact .nil
  | cons hx _ ih =>
    cases hyz with
    | cons hy hyz => exact .cons (h _ _ _ hx hy) (ih hyz)

theorem forall₂_zipWith {R : α → β → Prop} {S : α → γ → Prop} {T : α → δ → Prop} {g : β → γ → δ}
    (h : ∀ r a b, R r a → S r b → T r (g a b)) {rs : List α} {as : List β} {bs : List γ}
    (ha : List.Forall₂ R rs as) (hb : List.Forall₂ S rs bs) :
    List.Forall₂ T rs (List.zipWith g as bs) := by
  induction ha generalizing bs with
  | nil =>
    cases hb
    exact .nil
  | cons hr _ ih =>
    cases hb with
    | cons hs hb => exact .cons (h _ _ _ hr hs) (ih hb)

/-- Squares that close element by element close for lists. -/
theorem exists_forall₂_of_squares {R : α → β → Prop} {S : α → γ → Prop} {T : β → δ → Prop}
    {U : γ → δ → Prop} {xs : List α} {ys : List β} {zs : List γ}
    (h : ∀ x ∈ xs, ∀ y z, R x y → S x z → ∃ w, T y w ∧ U z w) (hxy : List.Forall₂ R xs ys)
    (hxz : List.Forall₂ S xs zs) : ∃ ws, List.Forall₂ T ys ws ∧ List.Forall₂ U zs ws := by
  induction hxy generalizing zs with
  | nil =>
    cases hxz
    exact ⟨[], .nil, .nil⟩
  | @cons x y xs ys hr _ ih =>
    cases hxz with
    | cons hs hxz =>
      obtain ⟨w, ht, hu⟩ := h x (by simp) y _ hr hs
      obtain ⟨ws, hts, hus⟩ := ih (fun x hx => h x (by simp [hx])) hxz
      exact ⟨w :: ws, .cons ht hts, .cons hu hus⟩

theorem map_eq_iff_forall₂ {f : α → γ} {g : β → γ} {xs : List α} {ys : List β} :
    xs.map f = ys.map g ↔ List.Forall₂ (fun x y => f x = g y) xs ys := by
  rw [← List.forall₂_eq_eq_eq, List.forall₂_map_left_iff, List.forall₂_map_right_iff]

theorem set_eq_self {xs : List α} (h : xs[i]? = some x) : xs.set i x = xs := by
  obtain ⟨hi, rfl⟩ := List.getElem?_eq_some_iff.1 h
  exact List.set_getElem_self hi

theorem eq_map_range {as : List (Option α)} (h : as.length = n) :
    as = (List.range n).map (as.getD · none) := by
  subst h
  apply List.ext_getElem (by simp)
  intro i hi hi'
  simp [hi]

section MapM

variable {f : α → Except ε β}

theorem mapM_ok_iff {xs : List α} {ys : List β} :
    xs.mapM f = .ok ys ↔ List.Forall₂ (fun x y => f x = .ok y) xs ys := by
  induction xs generalizing ys with
  | nil =>
    rw [List.mapM_nil, List.forall₂_nil_left_iff]
    constructor
    · intro h
      cases h
      rfl
    · intro h
      cases h
      rfl
  | cons x xs ih =>
    rw [List.mapM_cons, bind_ok_iff, List.forall₂_cons_left_iff]
    apply exists_congr
    intro y
    rw [bind_ok_iff]
    constructor
    · intro h
      obtain ⟨hy, zs, hzs, h⟩ := h
      cases h
      exact ⟨zs, hy, ih.1 hzs, rfl⟩
    · intro h
      obtain ⟨zs, hy, hzs, rfl⟩ := h
      exact ⟨hy, zs, ih.2 hzs, rfl⟩

theorem exists_of_mapM_ok {xs : List α} {ys : List β} (h : xs.mapM f = .ok ys) (hy : y ∈ ys) :
    ∃ x ∈ xs, f x = .ok y :=
  exists_left_of_forall₂ (R := fun x y => f x = .ok y) (mapM_ok_iff.1 h) hy

theorem mapM_error_iff {xs : List α} :
    xs.mapM f = .error e ↔ ∃ before x after, xs = before ++ x :: after ∧
      (∀ y ∈ before, ∃ z, f y = .ok z) ∧ f x = .error e := by
  induction xs with
  | nil =>
    constructor
    · intro h
      cases h
    · intro h
      obtain ⟨before, x, after, h, _⟩ := h
      simp at h
  | cons x xs ih =>
    rw [List.mapM_cons, bind_error_iff]
    constructor
    · intro h
      obtain h | ⟨y, hy, h⟩ := h
      · exact ⟨[], x, xs, rfl, List.forall_mem_nil _, h⟩
      · rw [bind_error_iff] at h
        obtain h | ⟨_, _, h⟩ := h
        · obtain ⟨before, z, after, rfl, hb, hz⟩ := ih.1 h
          refine ⟨x :: before, z, after, rfl, ?_, hz⟩
          intro w h
          obtain _ | ⟨_, hw⟩ := h
          · exact ⟨y, hy⟩
          · exact hb w hw
        · cases h
    · intro h
      obtain ⟨before, z, after, h, hb, hz⟩ := h
      cases before with
      | nil =>
        cases h
        exact .inl hz
      | cons w before =>
        cases h
        obtain ⟨y, hy⟩ := hb x (by simp)
        refine .inr ⟨y, hy, bind_error_iff.2 (.inl (ih.2 ?_))⟩
        exact ⟨before, z, after, rfl, fun w hw => hb w (by simp [hw]), hz⟩

theorem mapM_congr {g : α → Except ε β} {xs : List α} (h : ∀ x ∈ xs, f x = g x) :
    xs.mapM f = xs.mapM g := by
  induction xs with
  | nil => rfl
  | cons x xs ih =>
    rw [List.mapM_cons, List.mapM_cons, h x (by simp), ih fun y hy => h y (by simp [hy])]

theorem mapM_map_result (g : β → γ) (xs : List α) :
    (xs.mapM fun x => g <$> f x) = List.map g <$> xs.mapM f := by
  induction xs with
  | nil => rfl
  | cons x xs ih =>
    rw [List.mapM_cons, List.mapM_cons, ih]
    cases f x with
    | error e => rfl
    | ok y => cases xs.mapM f <;> rfl

theorem mapM_range_ok_iff {f : Nat → Except ε β} {ys : List β} :
    (List.range n).mapM f = .ok ys ↔
      ys.length = n ∧ ∀ i < n, ∃ y, ys[i]? = some y ∧ f i = .ok y := by
  rw [mapM_ok_iff, List.forall₂_iff_get]
  simp only [List.length_range, List.get_eq_getElem, List.getElem_range]
  constructor
  · intro h
    obtain ⟨hn, h⟩ := h
    refine ⟨hn.symm, fun i hi => ⟨ys[i], ?_, h i hi (hn ▸ hi)⟩⟩
    exact List.getElem?_eq_getElem (hn ▸ hi)
  · intro h
    obtain ⟨hn, h⟩ := h
    refine ⟨hn.symm, fun i hi hi' => ?_⟩
    obtain ⟨y, hy, hf⟩ := h i hi
    rw [List.getElem?_eq_getElem hi'] at hy
    cases hy
    exact hf

theorem exists_mapM_ok {xs : List α} (h : ∀ x ∈ xs, ∃ y, f x = .ok y) :
    ∃ ys, xs.mapM f = .ok ys := by
  cases hm : xs.mapM f with
  | ok ys => exact ⟨ys, rfl⟩
  | error e =>
    obtain ⟨before, x, after, rfl, -, hx⟩ := mapM_error_iff.1 hm
    obtain ⟨y, hy⟩ := h x (by simp)
    cases hx.symm.trans hy

theorem mapM_range_error_iff {f : Nat → Except ε β} :
    (List.range n).mapM f = .error e ↔
      ∃ j < n, (∀ i < j, ∃ a, f i = .ok a) ∧ f j = .error e := by
  induction n with
  | zero =>
    constructor
    · intro h
      cases h
    · intro h
      obtain ⟨j, hj, -⟩ := h
      omega
  | succ n ih =>
    rw [List.range_succ, List.mapM_append, bind_error_iff, ih]
    constructor
    · intro h
      obtain ⟨j, hj, hb, hf⟩ | ⟨ys, hy, h⟩ := h
      · exact ⟨j, by omega, hb, hf⟩
      · refine ⟨n, by omega, fun i hi => ?_, ?_⟩
        · obtain ⟨a, -, ha⟩ := (mapM_range_ok_iff.1 hy).2 i hi
          exact ⟨a, ha⟩
        · cases hn : f n with
          | error e' => simpa [hn, bind, Except.bind] using h
          | ok a => simp [hn, bind, Except.bind, pure, Except.pure] at h
    · intro h
      obtain ⟨j, hj, hb, hf⟩ := h
      by_cases hn : j < n
      · exact .inl ⟨j, hn, hb, hf⟩
      · obtain rfl : j = n := by omega
        obtain ⟨ys, hy⟩ := exists_mapM_ok fun i hi => hb i (List.mem_range.1 hi)
        exact .inr ⟨ys, hy, by simp [hf, bind, Except.bind]⟩

end MapM

end ScalarExpr
