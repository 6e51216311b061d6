import Mathlib.Algebra.Ring.Int.Defs
import Mathlib.Algebra.Ring.Nat
import ScalarExpr.Proofs.Evaluation.Chunks
import ScalarExpr.Proofs.Function.Call
/-!
Joined texts. To join what has been joined is to join it all at once, for rows as well as for
chunks, and the length of a joined text is the sum of the lengths of its parts.
-/
namespace ScalarExpr

set_option autoImplicit true

namespace Evaluation

/-! ### Rows -/

section Rows

variable {r : Row} {m : Meaning} {xs ys zs : List Meaning}

theorem concatRow_append (acc : String) (xs ys : List Meaning) :
    concatRow acc r (xs ++ ys) =
      concatRow acc r xs >>= fun a => a.elim (pure none) (concatRow · r ys) := by
  induction xs generalizing acc with
  | nil => exact (pure_bind _ _).symm
  | cons x xs ih =>
    rw [List.cons_append, concatRow, concatRow, bind_assoc]
    apply bind_congr
    intro a
    cases a with
    | none => exact (pure_bind _ _).symm
    | some s => exact ih (acc ++ s)

theorem concatRow_behind (s acc : String) (xs : List Meaning) :
    concatRow (s ++ acc) r xs = (·.map (s ++ ·)) <$> concatRow acc r xs := by
  induction xs generalizing acc with
  | nil => rfl
  | cons x xs ih =>
    rw [concatRow, concatRow, map_bind]
    apply bind_congr
    intro a
    cases a with
    | none => rfl
    | some t =>
      show concatRow (s ++ acc ++ t) r xs = _
      rw [String.append_assoc]
      exact ih (acc ++ t)

/-- Results that are joined in the place of their join give the same. -/
theorem concatRow_flatten (h : m.row r .text = concatRow "" r ys) :
    concatRow "" r (xs ++ m :: zs) = concatRow "" r (xs ++ ys ++ zs) := by
  rw [List.append_assoc, concatRow_append, concatRow_append]
  apply bind_congr
  intro a
  cases a with
  | none => rfl
  | some s =>
    have hs := concatRow_behind (r := r) s "" ys
    rw [String.append_empty] at hs
    show concatRow s r (m :: zs) = concatRow s r (ys ++ zs)
    rw [concatRow_append, hs, concatRow, h, bind_map_left]
    apply bind_congr
    intro b
    cases b <;> rfl

end Rows

/-! ### Slots -/

section Slots

variable {as bs cs : List (Option String)}

theorem joinSlots_cons (a : Option String) (as : List (Option String)) :
    joinSlots (a :: as) = a.bind fun s => (joinSlots as).map (s ++ ·) := by
  rw [joinSlots, joinSlots, List.mapM_cons]
  cases a with
  | none => rfl
  | some s => cases as.mapM id <;> simp

theorem joinSlots_append (as bs : List (Option String)) :
    joinSlots (as ++ bs) = (joinSlots as).bind fun s => (joinSlots bs).map (s ++ ·) := by
  induction as with
  | nil =>
    show joinSlots bs = (joinSlots bs).map ("" ++ ·)
    simp
  | cons a as ih =>
    rw [List.cons_append, joinSlots_cons, ih, joinSlots_cons]
    cases a with
    | none => rfl
    | some s => cases joinSlots as <;> cases joinSlots bs <;> simp [String.append_assoc]

theorem joinSlots_flatten :
    joinSlots (as ++ joinSlots bs :: cs) = joinSlots (as ++ bs ++ cs) := by
  rw [List.append_assoc, joinSlots_append, joinSlots_append, joinSlots_append, joinSlots_cons]

theorem joinSlots_cases (as : List (Option String)) :
    none ∈ as ∧ joinSlots as = none ∨
      ∃ texts, as = texts.map some ∧ joinSlots as = some (String.join texts) := by
  induction as with
  | nil => exact .inr ⟨[], rfl, rfl⟩
  | cons a as ih =>
    rw [joinSlots_cons]
    cases a with
    | none => exact .inl ⟨List.mem_cons_self, rfl⟩
    | some s =>
      obtain ⟨hnone, hjoin⟩ | ⟨texts, rfl, hjoin⟩ := ih
      · exact .inl ⟨List.mem_cons_of_mem _ hnone, by rw [hjoin]; rfl⟩
      · exact .inr ⟨s :: texts, rfl, by rw [hjoin, String.join_cons]; rfl⟩

/-- Joined rows of slots in the place of the columns of these slots. -/
theorem joinSlots_slotRows (xss yss zss : List (List (Option String))) :
    (slotRows n (xss ++ (slotRows n yss).map joinSlots :: zss)).map joinSlots =
      (slotRows n (xss ++ yss ++ zss)).map joinSlots := by
  have hjoin (i : Nat) (hi : i < n) :
      ((slotRows n yss).map joinSlots).getD i none = joinSlots (yss.map (·.getD i none)) := by
    simp [slotRows, hi]
  generalize (slotRows n yss).map joinSlots = joined at hjoin
  rw [slotRows, slotRows, List.map_map, List.map_map]
  apply List.map_congr_left
  intro i hi
  have hi := hjoin i (List.mem_range.1 hi)
  simp only [Function.comp_apply, List.map_append, List.map_cons, hi, joinSlots_flatten]

end Slots

/-! ### Chunks -/

/-- A list of results in the place of one result that is made of them. -/
theorem mapM_flatten {f : α → Except ε β} {pack : List β → γ} {g : List β → β} {x : α}
    (hx : f x = g <$> ys.mapM f)
    (hp : ∀ as bs cs, pack (as ++ g bs :: cs) = pack (as ++ bs ++ cs)) :
    pack <$> (xs ++ x :: zs).mapM f = pack <$> (xs ++ ys ++ zs).mapM f := by
  simp only [List.mapM_append, List.mapM_cons, hx]
  cases xs.mapM f with
  | error e => rfl
  | ok as =>
    cases ys.mapM f with
    | error e => rfl
    | ok bs =>
      cases zs.mapM f with
      | error e => rfl
      | ok cs => exact congrArg Except.ok (hp as bs cs)

end Evaluation

namespace Expr

open Evaluation

/-- The call that joins texts. -/
def concat (s : Settings) (args : List Expr) : Expr :=
  call ⟨.ofString "concat", .varchar, .concat, s⟩ args none

/-- The call for the length of a text. -/
def length (s : Settings) (x : Expr) : Expr :=
  call ⟨.ofString "length", .bigint, .length, s⟩ [x] none

/-- NULL where one of the texts is, and else the sum of the lengths of all texts. It is the true sum
unless the texts are too long for any length. -/
inductive AddsUp (s : Settings) (env : Env) (r : Row) (xs : List Expr) : Option Int64 → Prop
  | null {x : Expr} (hx : x ∈ xs) (h : x.evalAs env r .text = pure none) : AddsUp s env r xs none
  | sum {texts : List String} {ns : List Int64}
    (ht : List.Forall₂ (fun x t => x.evalAs env r .text = pure (some t)) xs texts)
    (hn : List.Forall₂ (fun x n => (length s x).evalAs env r .int = pure (some n)) xs ns)
    (hs : (texts.map String.utf8ByteSize).sum < 2 ^ 63 →
      ns.sum.toInt = (ns.map Int64.toInt).sum) : AddsUp s env r xs (some ns.sum)

variable {env : Env} {r : Row} {input : Chunk} {x : Expr} {xs ys zs args : List Expr}

theorem newCall_concat (s : Settings) (t : SqlType) (ha : args ≠ []) :
    newCall .builtins s "concat" (some t) args = pure (concat s args) := by
  have hl : FunctionRegistry.builtins.lookup "concat" = some .concat := by decide +kernel
  cases args with
  | nil => exact absurd rfl ha
  | cons x args =>
    rw [newCall, hl]
    rfl

theorem newCall_length (s : Settings) (t : SqlType) (x : Expr) :
    newCall .builtins s "length" (some t) [x] = pure (length s x) := by
  have hl : FunctionRegistry.builtins.lookup "length" = some .length := by decide +kernel
  rw [newCall, hl]
  rfl

theorem concat_isDeterministic (ha : args ≠ []) (h : ∀ e ∈ args, e.IsDeterministic)
    (s : Settings) : (concat s args).IsDeterministic := by
  refine .of_call ⟨rfl, ?_, rfl⟩ h
  cases args with
  | nil => exact absurd rfl ha
  | cons x args => simp [Builtin.functionClass, FunctionClass.arity, Arity.allows]

theorem length_isDeterministic (hx : x.IsDeterministic) (s : Settings) :
    (length s x).IsDeterministic :=
  .of_call ⟨rfl, rfl, rfl⟩ (List.forall_mem_singleton.2 hx)

theorem concat_evalAs_flatten (s s' s'' : Settings) (env : Env) (r : Row) (xs ys zs : List Expr) :
    (concat s (xs ++ concat s' ys :: zs)).evalAs env r .text =
      (concat s'' (xs ++ ys ++ zs)).evalAs env r .text := by
  have hrow (s : Settings) (args : List Expr) : (concat s args).evalAs env r .text =
      concatRow "" r (args.map (·.meaning env)) := by
    rw [← meanings_eq_map]
    rfl
  rw [hrow, hrow, List.map_append, List.map_append, List.map_append, List.map_cons]
  exact concatRow_flatten (hrow s' ys)

theorem concat_column (h : ∀ e ∈ args, e.IsDeterministic) (s : Settings) :
    ((concat s args).meaning env).column .text input = Eval.lift
      ((fun xss => ⟨.utf8, (slotRows input.rowCount xss).map joinSlots⟩) <$>
        args.mapM (·.slots env .text input)) := by
  have hm : ∀ m ∈ args.map (·.meaning env), m.IsSteady ∧ m.IsAligned input := by
    intro m hm
    obtain ⟨e, he, rfl⟩ := List.mem_map.1 hm
    exact ⟨(h e he).meaning env, (h e he).isAligned env input⟩
  have hc := concatColumn_eq (fun m h => (hm m h).1) fun m h => (hm m h).2
  rw [List.mapM_map, ← meanings_eq_map] at hc
  exact hc

theorem slots_concat (h : ∀ e ∈ args, e.IsDeterministic) (s : Settings) :
    (concat s args).slots env .text input =
      (fun xss => (slotRows input.rowCount xss).map joinSlots) <$>
        args.mapM (·.slots env .text input) := by
  rw [slots, Meaning.slots, Kind.category, concat_column h, Eval.standalone_lift]
  cases args.mapM (·.slots env .text input) <;> rfl

theorem concat_fillBy_flatten (hx : ∀ e ∈ xs, e.IsDeterministic) (hn : ys ≠ [])
    (hy : ∀ e ∈ ys, e.IsDeterministic) (hz : ∀ e ∈ zs, e.IsDeterministic) (s s' s'' : Settings)
    (env : Env) (input : Chunk) (b : Buffer) :
    (concat s (xs ++ concat s' ys :: zs)).fillBy env .text input b =
      (concat s'' (xs ++ ys ++ zs)).fillBy env .text input b := by
  have hnested : ∀ e ∈ xs ++ concat s' ys :: zs, e.IsDeterministic := by
    simp only [List.forall_mem_append, List.forall_mem_cons]
    exact ⟨hx, concat_isDeterministic hn hy s', hz⟩
  have hflat : ∀ e ∈ xs ++ ys ++ zs, e.IsDeterministic := by
    simp only [List.forall_mem_append]
    exact ⟨⟨hx, hy⟩, hz⟩
  rw [fillBy, fillBy, concat_column hnested, concat_column hflat]
  rw [mapM_flatten (slots_concat hy s')]
  intro xss yss zss
  rw [joinSlots_slotRows]

/-! ### Lengths -/

theorem utf8ByteSize_join (texts : List String) :
    (String.join texts).utf8ByteSize = (texts.map String.utf8ByteSize).sum := by
  induction texts with
  | nil => rfl
  | cons s texts ih => rw [String.join_cons, String.utf8ByteSize_append, ih, List.map_cons,
      List.sum_cons]

theorem int64_ofNat_sum (ns : List Nat) : Int64.ofNat ns.sum = (ns.map Int64.ofNat).sum := by
  induction ns with
  | nil => rfl
  | cons n ns ih => rw [List.sum_cons, Int64.ofNat_add, ih, List.map_cons, List.sum_cons]

/-- Numbers whose sum fits the integers do not wrap around where they are added as integers. -/
theorem toInt_int64_sum {ns : List Nat} (h : ns.sum < 2 ^ 63) :
    (ns.map Int64.ofNat).sum.toInt = ((ns.map Int64.ofNat).map Int64.toInt).sum := by
  rw [← int64_ofNat_sum, Int64.toInt_ofNat_of_lt h]
  induction ns with
  | nil => rfl
  | cons n ns ih =>
    rw [List.sum_cons] at h
    have hn : (Int64.ofNat n).toInt = n := Int64.toInt_ofNat_of_lt (by omega)
    rw [List.map_cons, List.map_cons, List.sum_cons, List.sum_cons, hn, ← ih (by omega)]
    exact Int.natCast_add n ns.sum

theorem result_length (hx : x.IsDeterministic) (s : Settings) :
    (length s x).result env r .int =
      (·.map fun t => Int64.ofNat t.utf8ByteSize) <$> x.result env r .text := by
  have h := (length_isDeterministic hx s).result_call rfl env r
  refine h.trans ((Operation.run_total _ _ _).trans ?_)
  rw [List.map_singleton]
  rcases x.result env r .text with _ | _ | t <;> rfl

section Concat

variable (hn : xs ≠ []) (hx : ∀ e ∈ xs, e.IsDeterministic) (s s' s'' : Settings)

include hn hx

theorem result_concat (ha : List.Forall₂ (fun x a => x.result env r .text = .ok a) xs as) :
    (concat s xs).result env r .text = .ok (joinSlots as) := by
  have h := (concat_isDeterministic hn hx s).result_call rfl env r
  have hargs : xs.map (·.result env r .text) = as.map .ok := map_eq_iff_forall₂.2 ha
  refine h.trans ((Operation.run_total _ _ _).trans ?_)
  rw [hargs, Operation.operands_ok, joinSlots]
  cases as.mapM id <;> rfl

theorem length_concat_evalAs
    (h : ∀ x ∈ xs, ∃ a g g', (x.evalAs env r .text).run.run g = (.ok a, g')) :
    ∃ n, (length s (concat s' xs)).evalAs env r .int = pure n ∧ AddsUp s'' env r xs n := by
  have hresult : ∀ x ∈ xs, ∃ a, x.result env r .text = .ok a := by
    intro x hm
    obtain ⟨a, g, g', ha⟩ := h x hm
    rw [(hx x hm).evalAs_run] at ha
    exact ⟨a, congrArg Prod.fst ha⟩
  obtain ⟨as, ha⟩ := exists_mapM_ok hresult
  have ha := mapM_ok_iff.1 ha
  have hc := concat_isDeterministic hn hx s'
  have hlength : (length s (concat s' xs)).result env r .int =
      .ok ((joinSlots as).map fun t => Int64.ofNat t.utf8ByteSize) := by
    rw [result_length hc, result_concat hn hx s' ha]
    rfl
  refine ⟨_, (length_isDeterministic hc s).evalAs_eq_pure_iff.2 hlength, ?_⟩
  obtain ⟨hnone, hjoin⟩ | ⟨texts, rfl, hjoin⟩ := joinSlots_cases as
  · obtain ⟨x, hm, hnull⟩ := exists_left_of_forall₂ ha hnone
    rw [hjoin]
    exact .null hm ((hx x hm).evalAs_eq_pure_iff.2 hnull)
  · have htexts := forall₂_and_mem (List.forall₂_map_right_iff.1 ha)
    rw [hjoin, Option.map_some, utf8ByteSize_join, int64_ofNat_sum]
    refine .sum (htexts.imp fun x t ht => (hx x ht.1).evalAs_eq_pure_iff.2 ht.2) ?_ toInt_int64_sum
    rw [List.map_map, List.forall₂_map_right_iff]
    apply htexts.imp
    intro x t ⟨hm, ht⟩
    rw [(length_isDeterministic (hx x hm) s'').evalAs_eq_pure_iff, result_length (hx x hm), ht]
    rfl

end Concat

/-- A call that joins texts can stand for its arguments among those of another, by rows and by
chunks. Where all of its arguments have a result, the length of what it joins is NULL if one of them
is, and else the sum of their lengths. -/
theorem concat_flattens (env : Env) (s s' s'' : Settings) :
    (∀ t args, args ≠ [] → newCall .builtins s "concat" (some t) args = pure (concat s args)) ∧
    (∀ t x, newCall .builtins s "length" (some t) [x] = pure (length s x)) ∧
    (∀ xs ys zs, ys ≠ [] → (∀ e ∈ xs ++ ys ++ zs, e.IsDeterministic) →
      (∀ r, (concat s (xs ++ concat s' ys :: zs)).evalAs env r .text =
        (concat s'' (xs ++ ys ++ zs)).evalAs env r .text) ∧
      ∀ input b, (concat s (xs ++ concat s' ys :: zs)).fillBy env .text input b =
        (concat s'' (xs ++ ys ++ zs)).fillBy env .text input b) ∧
    ∀ xs r, xs ≠ [] → (∀ e ∈ xs, e.IsDeterministic) →
      (∀ x ∈ xs, ∃ a g g', (x.evalAs env r .text).run.run g = (.ok a, g')) →
      ∃ n, (length s (concat s' xs)).evalAs env r .int = pure n ∧ AddsUp s'' env r xs n := by
  refine ⟨fun t args => newCall_concat s t, newCall_length s, ?_, ?_⟩
  · intro xs ys zs hn hd
    simp only [List.forall_mem_append] at hd
    obtain ⟨⟨hx, hy⟩, hz⟩ := hd
    exact ⟨fun r => concat_evalAs_flatten s s' s'' env r xs ys zs,
      concat_fillBy_flatten hx hn hy hz s s' s'' env⟩
  · intro xs r hn hx h
    exact length_concat_evalAs hn hx s s' s'' h

/-- A name in a column, and a suffix that takes two bytes. -/
theorem concat_flattens_suffix :
    let name := column ⟨1, 0, .varchar, "name", none⟩
    let suffix := literal (.text "é") .varchar none
    let input : Chunk := ⟨[⟨.utf8, [some "ab", none]⟩], 2, List.forall_mem_singleton.2 rfl⟩
    name.IsDeterministic ∧ suffix.IsDeterministic ∧
      (∀ r, (concat {} [name, concat {} [suffix, name]]).evalAs {} r .text =
        (concat {} [name, suffix, name]).evalAs {} r .text) ∧
      (∀ b, (concat {} [name, concat {} [suffix, name]]).fillBy {} .text input b =
        (concat {} [name, suffix, name]).fillBy {} .text input b) ∧
      ∃ m n : Int64, (length {} name).evalAs {} (input.row 0) .int = pure (some m) ∧
        (length {} suffix).evalAs {} (input.row 0) .int = pure (some n) ∧
        (length {} (concat {} [name, suffix])).evalAs {} (input.row 0) .int = pure (some (m + n)) ∧
        m = 2 ∧ n = 2 := by
  intro name suffix input
  obtain ⟨-, -, hflat, hlength⟩ := concat_flattens {} {} {} {}
  have hn : name.IsDeterministic := trivial
  have hs : suffix.IsDeterministic := trivial
  have hpair : ∀ e ∈ [name, suffix], e.IsDeterministic :=
    List.forall_mem_cons.2 ⟨hn, List.forall_mem_singleton.2 hs⟩
  obtain ⟨hrows, hchunks⟩ := hflat [name] [suffix, name] [] nofun
    (List.forall_mem_cons.2 ⟨hn, List.forall_mem_cons.2 ⟨hs, List.forall_mem_singleton.2 hn⟩⟩)
  refine ⟨hn, hs, hrows, hchunks input, ?_⟩
  have hname : name.evalAs {} (input.row 0) .text = pure (some "ab") := rfl
  have hsuffix : suffix.evalAs {} (input.row 0) .text = pure (some "é") := rfl
  have hresult : ∀ x ∈ [name, suffix],
      ∃ a g g', (x.evalAs {} (input.row 0) .text).run.run g = (.ok a, g') :=
    List.forall_mem_cons.2 ⟨⟨_, {}, _, congrArg (·.run.run {}) hname⟩,
      List.forall_mem_singleton.2 ⟨_, {}, _, congrArg (·.run.run {}) hsuffix⟩⟩
  have hm : (length {} name).evalAs {} (input.row 0) .int = pure (some 2) := rfl
  have hk : (length {} suffix).evalAs {} (input.row 0) .int = pure (some 2) := rfl
  obtain ⟨n, hn, hsum⟩ := hlength [name, suffix] (input.row 0) nofun hpair hresult
  cases hsum with
  | null hx hnull =>
    obtain rfl | rfl := List.mem_pair.1 hx
    · cases Eval.pure_inj.1 (hname.symm.trans hnull)
    · cases Eval.pure_inj.1 (hsuffix.symm.trans hnull)
  | sum _ hlengths _ =>
    obtain _ | ⟨hl, _ | ⟨hl', ⟨⟩⟩⟩ := hlengths
    refine ⟨_, _, hl, hl', ?_, Option.some.inj (Eval.pure_inj.1 (hl.symm.trans hm)),
      Option.some.inj (Eval.pure_inj.1 (hl'.symm.trans hk))⟩
    rw [hn, List.sum_cons, List.sum_singleton]

end Expr

end ScalarExpr
