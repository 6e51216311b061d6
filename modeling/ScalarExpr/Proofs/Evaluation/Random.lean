import ScalarExpr.Function.Call
import ScalarExpr.Proofs.Evaluation.Safety
import ScalarExpr.Proofs.Planning.Commutation
/-!
Random calls. A call whose seed is read from the row draws the first number of a generator for that
seed, and leaves the generators in use alone. Any other call draws from a generator of its own, one
number for each row, and a copy of it from a new one that goes on from the same state.
-/
namespace ScalarExpr

set_option autoImplicit true

/-! ### The numbers of a generator -/

namespace Generator.Algorithm

variable {a : Algorithm} {s : Generator}

/-- The next numbers from a state on. -/
def draws (a : Algorithm) : Generator → Nat → List Binary64
  | _, 0 => []
  | s, n + 1 => (a.next s).1 :: a.draws (a.next s).2 n

/-- The state after so many numbers. -/
def after (a : Algorithm) : Generator → Nat → Generator
  | s, 0 => s
  | s, n + 1 => a.after (a.next s).2 n

theorem draws_add (m n : Nat) : a.draws s (m + n) = a.draws s m ++ a.draws (a.after s m) n := by
  induction m generalizing s with
  | zero => rw [Nat.zero_add, draws, after, List.nil_append]
  | succ m ih => rw [Nat.succ_add, draws, draws, after, ih, List.cons_append]

theorem after_add (m n : Nat) : a.after s (m + n) = a.after (a.after s m) n := by
  induction m generalizing s with
  | zero => rw [Nat.zero_add, after]
  | succ m ih => rw [Nat.succ_add, after, after, ih]

end Generator.Algorithm

namespace Generators

variable {g : Generators} {s : Generator}

/-- The generators with another state in a place. -/
def put (g : Generators) (i : Nat) (s : Generator) : Generators :=
  { g with states := g.states.set i s }

theorem put_put (g : Generators) (i : Nat) (s s' : Generator) :
    (g.put i s).put i s' = g.put i s' := by
  rw [put, put, put, List.set_set]

theorem put_self (h : g.states[i]? = some s) : g.put i s = g := by
  rw [put, set_eq_self h]

theorem put_getElem? (h : g.states[i]? = some s) (s' : Generator) :
    (g.put i s').states[i]? = some s' :=
  List.getElem?_set_self (List.getElem?_eq_some_iff.1 h).1

theorem draw_run_of_getElem? (h : g.states[i]? = some s) :
    (draw i).run.run g = (.ok (g.algorithm.next s).1, g.put i (g.algorithm.next s).2) := by
  rw [draw_run, h]
  rfl

/-- As many draws as a list has elements. -/
theorem mapM_draw_run (h : g.states[i]? = some s) (xs : List α) :
    (xs.mapM fun _ => draw i).run.run g =
      (.ok (g.algorithm.draws s xs.length), g.put i (g.algorithm.after s xs.length)) := by
  induction xs generalizing g s with
  | nil =>
    rw [List.length_nil, Generator.Algorithm.after, put_self h]
    rfl
  | cons x xs ih =>
    have hxs := ih (put_getElem? h (g.algorithm.next s).2)
    rw [List.mapM_cons, Eval.run_bind_of_ok (draw_run_of_getElem? h), Eval.run_bind_of_ok hxs,
      put_put]
    rfl

end Generators

/-! ### Evaluating a random call -/

/-- A real buffer takes real numbers as they are. -/
theorem Buffer.exists_fill_float64 {b : Buffer} (hb : b.category = .real)
    (xs : List (Option Binary64)) :
    ∃ filled, b.fill ⟨.float64, xs⟩ = .ok filled ∧ filled.float64s = .ok xs := by
  obtain ⟨category, content, tabulated⟩ := b
  obtain rfl : category = .real := hb
  exact ⟨_, rfl, rfl⟩

theorem Buffer.float64s_of_fill {b filled : Buffer} {xs : List (Option Binary64)}
    (h : b.fill ⟨.float64, xs⟩ = .ok filled) (hb : b.category = .real) :
    filled.float64s = .ok xs := by
  obtain ⟨filled', hfill, hread⟩ := exists_fill_float64 hb xs
  obtain rfl : filled = filled' := Except.ok.inj (h.symm.trans hfill)
  exact hread

namespace Expr

variable {head : CallHead} {args : List Expr} {memo : Memo} {seed e : Expr}

section Rand

variable (hb : head.builtin = .rand source)

include hb

theorem evalAs_rand (env : Env) (r : Row) : (call head args memo).evalAs env r .real =
    some <$> Evaluation.randRow source (args.map (·.meaning env)) r := by
  obtain ⟨name, type, builtin, settings⟩ := head
  obtain rfl : builtin = .rand source := hb
  rw [evalAs, meaning, meanings_eq_map, map_eq_pure_bind]
  rfl

theorem fillBy_rand (env : Env) (input : Chunk) (b : Buffer) :
    (call head args memo).fillBy env .real input b =
      input.rows.mapM (Evaluation.randRow source (args.map (·.meaning env))) >>= fun zs =>
        Eval.lift (b.fill ⟨.float64, zs.map some⟩) := by
  obtain ⟨name, type, builtin, settings⟩ := head
  obtain rfl : builtin = .rand source := hb
  have hc : ((call ⟨name, type, .rand source, settings⟩ args memo).meaning env).column .real input =
      Evaluation.randColumn source (args.map (·.meaning env)) input := by
    rw [meaning, meanings_eq_map]
    rfl
  rw [fillBy, hc, Evaluation.randColumn, bind_assoc]
  rfl

end Rand

/-! ### Seeds of the rows -/

/-- The numbers of a call that a row seeds: the first from the seed, where NULL counts as zero. No
generator in use has a part in them. -/
structure DrawsBySeed (e : Expr) (a : Generator.Algorithm) (seed : Expr) : Prop where
  row : ∀ env r n g, g.algorithm = a → (seed.evalAs env r .int).run.run g = (.ok n, g) →
    (e.evalAs env r .real).run.run g = (.ok (some (a.first (n.getD 0))), g)
  equalSeeds : ∀ env env' r r' n n' g g', g.algorithm = a → g'.algorithm = a →
    (seed.evalAs env r .int).run.run g = (.ok n, g) →
    (seed.evalAs env' r' .int).run.run g' = (.ok n', g') → n.getD 0 = n'.getD 0 →
    ∃ z, (e.evalAs env r .real).run.run g = (.ok (some z), g) ∧
      (e.evalAs env' r' .real).run.run g' = (.ok (some z), g')
  chunk : ∀ env input b g filled g', g.algorithm = a →
    (e.fillBy env .real input b).run.run g = (.ok filled, g') →
    g' = g ∧ ∃ zs : List Binary64, b.fill ⟨.float64, zs.map some⟩ = .ok filled ∧
      (b.category = .real → filled.float64s = .ok (zs.map some)) ∧
      zs.length = input.rowCount ∧ ∀ i < input.rowCount, ∃ z, zs[i]? = some z ∧
        ∀ g, g.algorithm = a → (e.evalAs env (input.row i) .real).run.run g = (.ok (some z), g)
  fills : ∀ env input b g, b.category = .real →
    (∀ i < input.rowCount, ∃ n, (seed.evalAs env (input.row i) .int).run.run g = (.ok n, g)) →
    ∃ filled, (e.fillBy env .real input b).run.run g = (.ok filled, g)

namespace IsDeterministic

variable (hs : seed.IsDeterministic)

include hs

theorem randRow_run (env : Env) (r : Row) (g : Generators) :
    (Evaluation.randRow .rowSeed [seed.meaning env] r).run.run g =
      ((fun n => g.algorithm.first (n.getD 0)) <$> seed.result env r .int, g) := by
  have hseed : ((seed.meaning env).row r .int).run.run g = (seed.result env r .int, g) :=
    hs.evalAs_run env r .int g
  rw [Evaluation.randRow, ExceptT.run_bind, StateT.run_bind, hseed]
  cases seed.result env r .int <;> rfl

theorem mapM_randRow_run (env : Env) (input : Chunk) (g : Generators) :
    (input.rows.mapM (Evaluation.randRow .rowSeed [seed.meaning env])).run.run g =
      ((List.range input.rowCount).mapM fun i =>
        (fun n => g.algorithm.first (n.getD 0)) <$> seed.result env (input.row i) .int, g) := by
  rw [Eval.run_mapM_of_run fun r => hs.randRow_run env r g, Chunk.rows, List.mapM_map]
  rfl

theorem result_of_run (h : (seed.evalAs env r k).run.run g = (.ok a, g)) :
    seed.result env r k = .ok a := by
  rw [hs.evalAs_run] at h
  exact congrArg Prod.fst h

section Seed

variable (hb : head.builtin = .rand .rowSeed)

include hb

theorem evalAs_rowSeed (hn : seed.result env r .int = .ok n) (g : Generators) :
    ((call head [seed] memo).evalAs env r .real).run.run g =
      (.ok (some (g.algorithm.first (n.getD 0))), g) := by
  rw [evalAs_rand hb, List.map_singleton, Eval.run_map_of_run (hs.randRow_run env r g), hn]
  rfl

theorem drawsBySeed (a : Generator.Algorithm) : (call head [seed] memo).DrawsBySeed a seed := by
  constructor
  case row =>
    rintro env r n g rfl hn
    exact hs.evalAs_rowSeed hb (hs.result_of_run hn) g
  case equalSeeds =>
    rintro env env' r r' n n' g g' rfl hg' hn hn' heq
    refine ⟨_, hs.evalAs_rowSeed hb (hs.result_of_run hn) g, ?_⟩
    rw [hs.evalAs_rowSeed hb (hs.result_of_run hn'), hg', heq]
  case chunk =>
    rintro env input b g filled g' rfl h
    rw [fillBy_rand hb, List.map_singleton] at h
    obtain ⟨zs, g₁, hzs, hfill⟩ := Eval.exists_of_run_bind h
    rw [hs.mapM_randRow_run] at hzs
    obtain ⟨hvalues, rfl⟩ := Prod.mk.inj hzs
    obtain ⟨hfilled, rfl⟩ := Prod.mk.inj hfill
    obtain ⟨hlength, hvalues⟩ := mapM_range_ok_iff.1 hvalues
    refine ⟨rfl, zs, hfilled, Buffer.float64s_of_fill hfilled, hlength, fun i hi => ?_⟩
    obtain ⟨z, hz, hi⟩ := hvalues i hi
    obtain ⟨n, hn, rfl⟩ := map_ok_iff.1 hi
    exact ⟨_, hz, fun g' hg' => hg' ▸ hs.evalAs_rowSeed hb hn g'⟩
  case fills =>
    intro env input b g hreal h
    have hvalues : ∀ i ∈ List.range input.rowCount, ∃ z,
        (fun n => g.algorithm.first (n.getD 0)) <$> seed.result env (input.row i) .int =
          .ok z := by
      intro i hi
      obtain ⟨n, hn⟩ := h i (List.mem_range.1 hi)
      exact ⟨_, map_ok_iff.2 ⟨n, hs.result_of_run hn, rfl⟩⟩
    obtain ⟨zs, hzs⟩ := exists_mapM_ok hvalues
    obtain ⟨filled, hfilled, -⟩ := Buffer.exists_fill_float64 hreal (zs.map some)
    have hdrawn := hs.mapM_randRow_run env input g
    rw [hzs] at hdrawn
    refine ⟨filled, ?_⟩
    rw [fillBy_rand hb, List.map_singleton, Eval.run_bind_of_ok hdrawn, Eval.run_lift, hfilled]

end Seed

end IsDeterministic

end Expr

/-! ### A generator of the call's own -/

namespace Expr

variable {e : Expr} {g : Generators} {s : Generator}

/-- The tree is a random call with its generator in this place. -/
inductive DrawsFrom (i : Nat) : Expr → Prop
  | call {head : CallHead} {args : List Expr} {memo : Memo} (ht : head.type = .double)
    (hb : head.builtin = .rand (.generator i)) : DrawsFrom i (call head args memo)

namespace DrawsFrom

theorem evalAs_run (he : e.DrawsFrom i) (h : g.states[i]? = some s) (env : Env) (r : Row) :
    (e.evalAs env r .real).run.run g =
      (.ok (some (g.algorithm.next s).1), g.put i (g.algorithm.next s).2) := by
  obtain ⟨ht, hb⟩ := he
  rw [evalAs_rand hb]
  exact Eval.run_map_of_run (Generators.draw_run_of_getElem? h) some

theorem eval_run (he : e.DrawsFrom i) (h : g.states[i]? = some s) (env : Env) (r : Row) :
    (e.eval env r).run.run g =
      (.ok (.real (g.algorithm.next s).1), g.put i (g.algorithm.next s).2) := by
  have hreal := he.evalAs_run h env r
  obtain @⟨head, args, memo, ht, hb⟩ := he
  have hk : head.type.category.kind? = some .real := by rw [ht]; rfl
  rw [eval_call hk]
  exact Eval.run_map_of_run hreal (Kind.real.box head.type)

theorem fillBy_run (he : e.DrawsFrom i) (h : g.states[i]? = some s) (env : Env) (input : Chunk)
    (b : Buffer) : (e.fillBy env .real input b).run.run g =
      (b.fill ⟨.float64, (g.algorithm.draws s input.rowCount).map some⟩,
        g.put i (g.algorithm.after s input.rowCount)) := by
  have hdraws := Generators.mapM_draw_run h input.rows
  rw [input.length_rows] at hdraws
  obtain ⟨ht, hb⟩ := he
  rw [fillBy_rand hb]
  exact Eval.run_bind_of_ok hdraws _

end DrawsFrom

end Expr

/-! ### Copies -/

/-- The generators of `g` are in use as they were, perhaps with more behind them. -/
structure Generators.Extends (g' g : Generators) : Prop where
  algorithm : g'.algorithm = g.algorithm
  states : g.states <+: g'.states

namespace Generators.Extends

variable {g g' g'' : Generators}

theorem refl (g : Generators) : g.Extends g := ⟨rfl, List.prefix_refl _⟩

theorem trans (h' : g''.Extends g') (h : g'.Extends g) : g''.Extends g :=
  ⟨h'.algorithm.trans h.algorithm, h.states.trans h'.states⟩

theorem getElem? {i : Nat} {s : Generator} (h : g'.Extends g) (hs : g.states[i]? = some s) :
    g'.states[i]? = some s := by
  obtain ⟨more, hm⟩ := h.states
  rw [← hm, List.getElem?_append_left (List.getElem?_eq_some_iff.1 hs).1, hs]

theorem length_le (h : g'.Extends g) : g.states.length ≤ g'.states.length := h.states.length_le

theorem add (g : Generators) (s : Generator) : ((Generators.add s).run g).2.Extends g :=
  ⟨rfl, List.prefix_append _ _⟩

end Generators.Extends

theorem Builtin.duplicate_extends (b : Builtin) (g : Generators) :
    (b.duplicate.run g).2.Extends g := by
  cases b with
  | rand source =>
    cases source with
    | generator i => exact .add g _
    | rowSeed => exact .refl g
  | _ => exact .refl g

namespace Expr

variable {e : Expr} {g : Generators} {s : Generator}

theorem duplicateAll_extends {es : List Expr} (h : ∀ e ∈ es, ∀ g, (e.duplicate.run g).2.Extends g)
    (g : Generators) : ((duplicateAll es).run g).2.Extends g := by
  induction es generalizing g with
  | nil => exact .refl g
  | cons e es ih => exact (ih (fun x hx => h x (by simp [hx])) _).trans (h e (by simp) g)

theorem duplicate_extends (e : Expr) (g : Generators) : (e.duplicate.run g).2.Extends g := by
  induction e generalizing g with
  | column | outer | literal => exact .refl g
  | call head args memo ih => exact (Builtin.duplicate_extends _ _).trans (duplicateAll_extends ih g)

/-- A copy draws from a new generator, which is where the generator of the original is. -/
theorem DrawsFrom.duplicate (he : e.DrawsFrom i) (h : g.states[i]? = some s) :
    ∃ j, g.states.length ≤ j ∧ (e.duplicate.run g).1.DrawsFrom j ∧
      (e.duplicate.run g).2.states[j]? = some s := by
  obtain @⟨head, args, memo, ht, hb⟩ := he
  have hargs : ((duplicateAll args).run g).2.Extends g :=
    duplicateAll_extends (fun e _ => e.duplicate_extends) g
  rw [duplicate_call]
  generalize (duplicateAll args).run g = copies at hargs
  have hcopy : head.builtin.duplicate.run copies.2 = (.rand (.generator copies.2.states.length),
      ((Generators.add s).run copies.2).2) := by
    rw [hb]
    show (_, ((Generators.add (copies.2.states[i]?.getD default)).run copies.2).2) = _
    rw [hargs.getElem? h]
    rfl
  dsimp only
  rw [hcopy]
  exact ⟨_, hargs.length_le, ⟨ht, rfl⟩, List.getElem?_concat_length⟩

end Expr

end ScalarExpr
