import ScalarExpr.Proofs.Evaluation.Random
/-!
Sessions with a random call and its copies. In whatever order they are evaluated and copied again,
each answers the numbers that follow the state its generator had when it was made.
-/
namespace ScalarExpr

set_option autoImplicit true

namespace Expr

/-- The place of the generator that the call draws from. -/
def place? : Expr → Option Nat
  | call ⟨_, _, .rand (.generator i), _⟩ _ _ => some i
  | _ => none

def ownState (gs : Generators) (e : Expr) : Generator :=
  (e.place?.bind (gs.states[·]?)).getD default

theorem DrawsFrom.place?_eq {e : Expr} (he : e.DrawsFrom i) : e.place? = some i := by
  obtain @⟨⟨name, type, builtin, settings⟩, args, memo, ht, hb⟩ := he
  obtain rfl : builtin = .rand (.generator i) := hb
  rfl

theorem DrawsFrom.ownState_eq {e : Expr} {gs : Generators} {s : Generator} (he : e.DrawsFrom i)
    (h : gs.states[i]? = some s) : e.ownState gs = s := by
  rw [ownState, he.place?_eq, Option.bind_some, h, Option.getD_some]

end Expr

namespace RandomCall

/-- What a call is asked for: the number for a row, as such or as a value, or those for a chunk, in
a buffer. -/
inductive Request
  | real (r : Row)
  | value (r : Row)
  | chunk (input : Chunk) (b : Buffer)

abbrev Answer := Except Failure (List (Option Binary64))

namespace Request

/-- How many numbers are drawn. -/
def size : Request → Nat
  | real _ | value _ => 1
  | chunk input _ => input.rowCount

/-- The numbers that are drawn are read again: a buffer of another category converts them. -/
def IsRead : Request → Prop
  | chunk _ b => b.category = .real
  | real _ | value _ => True

def ask (env : Env) (e : Expr) : Request → Eval (List (Option Binary64))
  | real r => return [← e.evalAs env r .real]
  | value r => do return [← Eval.lift ((← e.eval env r).as .real)]
  | chunk input b => do Eval.lift (← e.fillBy env .real input b).float64s

end Request

/-- A call, the state its generator had when the copy was made, and what it was asked for and
answered since then. -/
structure Copy where
  node : Expr
  start : Generator
  log : List (Request × Answer) := []

/-- How many numbers the requests took. -/
def taken : List (Request × Answer) → Nat
  | [] => 0
  | (q, _) :: log => q.size + taken log

namespace Copy

def drawn (c : Copy) : Nat := taken c.log

/-- The numbers that the call has answered. -/
def values (c : Copy) : List (Option Binary64) := c.log.flatMap fun p => p.2.toOption.getD []

end Copy

/-- From a state on, requests are answered one after another with the next numbers, as many as each
takes. -/
def Answered (a : Generator.Algorithm) : Generator → List (Request × Answer) → Prop
  | _, [] => True
  | s, (q, answer) :: log =>
    (q.IsRead → answer = .ok ((a.draws s q.size).map some)) ∧ Answered a (a.after s q.size) log

inductive Action
  | ask (copy : Nat) (env : Env) (q : Request)
  | clone (copy : Nat)

structure Session where
  generators : Generators
  copies : List Copy

namespace Session

def start (e : Expr) (gs : Generators) : Session := ⟨gs, [⟨e, e.ownState gs, []⟩]⟩

/-- An action on a copy that is not there does nothing. -/
def step (w : Session) : Action → Session
  | .ask k env q =>
    match w.copies[k]? with
    | none => w
    | some c =>
      let r := (q.ask env c.node).run.run w.generators
      ⟨r.2, w.copies.set k { c with log := c.log ++ [(q, r.1)] }⟩
  | .clone k =>
    match w.copies[k]? with
    | none => w
    | some c =>
      let r := c.node.duplicate.run w.generators
      ⟨r.2, w.copies ++ [⟨r.1, r.1.ownState r.2, []⟩]⟩

def run (w : Session) (actions : List Action) : Session := actions.foldl step w

end Session

/-! ### What a log says -/

variable {a : Generator.Algorithm} {c : Copy} {g : Generators} {s : Generator} {w : Session}
  {log : List (Request × Answer)}

theorem taken_concat : taken (log ++ [(q, answer)]) = taken log + q.size := by
  induction log with
  | nil => simp [taken]
  | cons p log ih => rw [List.cons_append, taken, ih, taken, Nat.add_assoc]

theorem answered_concat : Answered a s (log ++ [(q, answer)]) ↔ Answered a s log ∧ (q.IsRead →
    answer = .ok ((a.draws (a.after s (taken log)) q.size).map some)) := by
  induction log generalizing s with
  | nil => simp [Answered, taken, Generator.Algorithm.after]
  | cons p log ih =>
    rw [List.cons_append, Answered, ih, Answered, taken, Generator.Algorithm.after_add, and_assoc]

/-- Read one after another, the answers are the next numbers in a row. -/
theorem Answered.flatMap_eq (h : Answered a s log) (hread : ∀ p ∈ log, p.1.IsRead) :
    log.flatMap (fun p => p.2.toOption.getD []) = (a.draws s (taken log)).map some := by
  induction log generalizing s with
  | nil => rfl
  | cons p log ih =>
    obtain ⟨hp, hlog⟩ := List.forall_mem_cons.1 hread
    rw [List.flatMap_cons, ih h.2 hlog, h.1 hp, taken, Generator.Algorithm.draws_add,
      List.map_append]
    rfl

/-! ### What an action preserves -/

/-- A request is answered with the next numbers, one for each row, and leaves the generator behind
them. -/
theorem ask_run {e : Expr} (he : e.DrawsFrom i) (h : g.states[i]? = some s) (env : Env)
    (q : Request) : ∃ answer,
      (q.ask env e).run.run g = (answer, g.put i (g.algorithm.after s q.size)) ∧
      (q.IsRead → answer = .ok ((g.algorithm.draws s q.size).map some)) := by
  cases q with
  | real r =>
    refine ⟨_, ?_, fun _ => rfl⟩
    rw [Request.ask, Eval.run_bind_of_ok (he.evalAs_run h env r)]
    rfl
  | value r =>
    refine ⟨_, ?_, fun _ => rfl⟩
    rw [Request.ask, Eval.run_bind_of_ok (he.eval_run h env r)]
    rfl
  | chunk input b =>
    have hfill := he.fillBy_run h env input b
    cases hb : b.fill ⟨.float64, (g.algorithm.draws s input.rowCount).map some⟩ with
    | ok filled =>
      rw [hb] at hfill
      refine ⟨filled.float64s, ?_, fun hread => Buffer.float64s_of_fill hb hread⟩
      rw [Request.ask, Eval.run_bind_of_ok hfill]
      rfl
    | error f =>
      rw [hb] at hfill
      refine ⟨.error f, ?_, fun hread => ?_⟩
      · rw [Request.ask, ExceptT.run_bind, StateT.run_bind, hfill]
        rfl
      · obtain ⟨filled, hfilled, -⟩ := Buffer.exists_fill_float64 hread _
        cases hb.symm.trans hfilled

/-- The call draws from the generator in this place, which is as far as the log says, and so are its
answers. -/
structure Copy.Holds (c : Copy) (g : Generators) (i : Nat) : Prop where
  node : c.node.DrawsFrom i
  state : g.states[i]? = some (g.algorithm.after c.start c.drawn)
  answers : Answered g.algorithm c.start c.log

namespace Copy.Holds

theorem of_drawsFrom {e : Expr} (he : e.DrawsFrom i) (h : g.states[i]? = some s) :
    (⟨e, e.ownState g, []⟩ : Copy).Holds g i :=
  ⟨he, by rw [he.ownState_eq h]; exact h, trivial⟩

theorem extend (hc : c.Holds g i) (h : g'.Extends g) : c.Holds g' i where
  node := hc.node
  state := by
    rw [h.algorithm]
    exact h.getElem? hc.state
  answers := by
    rw [h.algorithm]
    exact hc.answers

theorem put (hc : c.Holds g j) (hij : i ≠ j) : c.Holds (g.put i s) j where
  node := hc.node
  state := (List.getElem?_set_ne hij).trans hc.state
  answers := hc.answers

theorem ask (hc : c.Holds g i) (env : Env) (q : Request) : ∃ answer s,
    (q.ask env c.node).run.run g = (answer, g.put i s) ∧
      { c with log := c.log ++ [(q, answer)] }.Holds (g.put i s) i := by
  obtain ⟨answer, hrun, hread⟩ := ask_run hc.node hc.state env q
  refine ⟨answer, _, hrun, hc.node, ?_, answered_concat.2 ⟨hc.answers, hread⟩⟩
  rw [Generators.put_getElem? hc.state, ← Generator.Algorithm.after_add, drawn, drawn,
    taken_concat]
  rfl

end Copy.Holds

/-- Every copy has a generator of its own. -/
structure Session.Holds (w : Session) (a : Generator.Algorithm) : Prop where
  algorithm : w.generators.algorithm = a
  copy : ∀ (k : Nat) (c : Copy), w.copies[k]? = some c → ∃ i, c.Holds w.generators i
  apart : (w.copies.map (·.node.place?)).Nodup

namespace Session

theorem holds_start {e : Expr} (he : e.DrawsFrom i) (h : g.states[i]? = some s) :
    (start e g).Holds g.algorithm where
  algorithm := rfl
  copy k c hc := by
    rw [start, List.getElem?_singleton] at hc
    split at hc
    · cases hc
      exact ⟨i, .of_drawsFrom he h⟩
    · cases hc
  apart := List.pairwise_singleton _ _

theorem Holds.place_ne {k l : Nat} {d : Copy} (h : w.Holds a) (hk : w.copies[k]? = some c)
    (hl : w.copies[l]? = some d) (hne : k ≠ l) (hc : c.Holds g i) (hd : d.Holds g j) : i ≠ j := by
  rintro rfl
  have hlt : k < (w.copies.map (·.node.place?)).length := by
    rw [List.length_map]
    exact (List.getElem?_eq_some_iff.1 hk).1
  apply hne
  apply (List.getElem?_inj hlt h.apart).1
  rw [List.getElem?_map, List.getElem?_map, hk, hl, Option.map_some, Option.map_some,
    hc.node.place?_eq, hd.node.place?_eq]

/-- The generators of the copies are in use. -/
theorem Holds.place_lt (h : w.Holds a) (hp : p ∈ w.copies.map (·.node.place?)) :
    ∃ i, p = some i ∧ i < w.generators.states.length := by
  obtain ⟨c, hc, rfl⟩ := List.mem_map.1 hp
  obtain ⟨k, hk⟩ := List.mem_iff_getElem?.1 hc
  obtain ⟨i, hi⟩ := h.copy k c hk
  exact ⟨i, hi.node.place?_eq, (List.getElem?_eq_some_iff.1 hi.state).1⟩

/-- Only the copy that is asked draws. -/
theorem Holds.ask (h : w.Holds a) (k : Nat) (env : Env) (q : Request) :
    (w.step (.ask k env q)).Holds a := by
  cases hk : w.copies[k]? with
  | none =>
    rw [step, hk]
    exact h
  | some c =>
    obtain ⟨i, hc⟩ := h.copy k c hk
    obtain ⟨answer, s, hrun, hasked⟩ := hc.ask env q
    have hlt := (List.getElem?_eq_some_iff.1 hk).1
    rw [step, hk]
    dsimp only
    rw [hrun]
    refine ⟨h.algorithm, fun l d hd => ?_, ?_⟩
    -- What another copy draws from stands in another place, and so it is as it was.
    · obtain rfl | hne := eq_or_ne k l
      · rw [List.getElem?_set_self hlt] at hd
        cases hd
        exact ⟨i, hasked⟩
      · rw [List.getElem?_set_ne hne] at hd
        obtain ⟨j, hd'⟩ := h.copy l d hd
        exact ⟨j, hd'.put (h.place_ne hk hd hne hc hd')⟩
    · rw [List.map_set, set_eq_self]
      · exact h.apart
      · rw [List.getElem?_map, hk, Option.map_some]

/-- A new copy gets a new generator. -/
theorem Holds.clone (h : w.Holds a) (k : Nat) : (w.step (.clone k)).Holds a := by
  cases hk : w.copies[k]? with
  | none =>
    rw [step, hk]
    exact h
  | some c =>
    obtain ⟨i, hc⟩ := h.copy k c hk
    obtain ⟨j, hj, hnode, hstate⟩ := hc.node.duplicate hc.state
    have hextends := c.node.duplicate_extends w.generators
    rw [step, hk]
    dsimp only
    refine ⟨hextends.algorithm.trans h.algorithm, fun l d hd => ?_, ?_⟩
    -- The generator of the new copy is behind all those that were in use.
    · rw [List.getElem?_append] at hd
      split at hd
      · obtain ⟨i, hd⟩ := h.copy l d hd
        exact ⟨i, hd.extend hextends⟩
      · rw [List.getElem?_singleton] at hd
        split at hd
        · cases hd
          exact ⟨j, .of_drawsFrom hnode hstate⟩
        · cases hd
    · rw [List.map_append, List.nodup_append]
      refine ⟨h.apart, List.pairwise_singleton _ _, fun p hp p' hp' => ?_⟩
      obtain ⟨l, rfl, hlt⟩ := h.place_lt hp
      rw [List.map_singleton, List.mem_singleton] at hp'
      rw [hp', hnode.place?_eq]
      rintro ⟨⟩
      omega

theorem Holds.run (h : w.Holds a) (actions : List Action) : (w.run actions).Holds a := by
  induction actions generalizing w with
  | nil => exact h
  | cons action actions ih =>
    cases action with
    | ask k env q => exact ih (h.ask k env q)
    | clone k => exact ih (h.clone k)

theorem Holds.answered (h : w.Holds a) (hc : c ∈ w.copies) : Answered a c.start c.log := by
  obtain ⟨k, hk⟩ := List.mem_iff_getElem?.1 hc
  obtain ⟨i, hi⟩ := h.copy k c hk
  rw [← h.algorithm]
  exact hi.answers

/-- A copy starts where the call it is a copy of is. -/
theorem Holds.clone_copies (h : w.Holds a) (hk : w.copies[k]? = some c) :
    (w.step (.clone k)).copies = w.copies ++
      [⟨(c.node.duplicate.run w.generators).1, a.after c.start c.drawn, []⟩] := by
  obtain ⟨i, hi⟩ := h.copy k c hk
  obtain ⟨j, -, hnode, hstate⟩ := hi.node.duplicate hi.state
  rw [step, hk]
  dsimp only
  rw [hnode.ownState_eq hstate, h.algorithm]

end Session

end RandomCall

/-! ### Calls that are built -/

open RandomCall

theorem FunctionClass.randomSource_generator {args : List Expr} {g g' : Generators}
    (hc : ∀ seed ∈ args, seed.isConstant)
    (h : (randomSource args).run.run g = (.ok source, g')) :
    ∃ i s, source = .generator i ∧ g'.algorithm = g.algorithm ∧ g'.states[i]? = some s ∧
      ∀ seed, args = [seed] → ∃ n, seed.constantInt = .ok n ∧
        s = g.algorithm.ofSeed (n.getD 0) := by
  cases args with
  | nil =>
    cases h
    exact ⟨_, _, rfl, rfl, List.getElem?_concat_length, nofun⟩
  | cons seed args =>
    rw [randomSource, if_pos (hc seed List.mem_cons_self)] at h
    obtain ⟨n, g₁, hn, h⟩ := Eval.exists_of_run_bind h
    rw [Eval.run_lift] at hn
    obtain ⟨hvalue, rfl⟩ := Prod.mk.inj hn
    cases h
    refine ⟨_, _, rfl, rfl, List.getElem?_concat_length, fun seed' hargs => ?_⟩
    cases hargs
    exact ⟨n, hvalue, rfl⟩

theorem FunctionClass.randomSource_rowSeed {seed : Expr} {g g' : Generators}
    (hc : seed.isConstant = false)
    (h : (randomSource (seed :: args)).run.run g = (.ok source, g')) : source = .rowSeed := by
  rw [randomSource, hc] at h
  cases h
  rfl

namespace Expr

variable {reg : FunctionRegistry} {σ : Settings} {name : String} {type : Option SqlType}
  {args : List Expr} {g g' : Generators} {e : Expr}

theorem newCall_source (hl : reg.lookup name = some .rand)
    (h : (newCall reg σ name type args).run.run g = (.ok e, g')) :
    ∃ source, (FunctionClass.randomSource args).run.run g = (.ok source, g') ∧
      e = call ⟨.ofString name, .double, .rand source, σ⟩ args none := by
  obtain ⟨c, t, b, hl', -, hb, rfl⟩ := newCall_ok h
  obtain rfl : .rand = c := Option.some.inj (hl.symm.trans hl')
  obtain ⟨source, g₁, hsource, hb⟩ := Eval.exists_of_run_bind hb
  cases hb
  exact ⟨source, hsource, rfl⟩

/-- A random call with a seed from the row draws by the seed, whatever was evaluated before. Without
a seed, or with a constant one, each copy of the call answers the numbers that follow the state its
generator had when it was made: the one where the call it is a copy of was then. -/
theorem newCall_rand (hl : reg.lookup name = some .rand)
    (h : (newCall reg σ name type args).run.run g = (.ok e, g')) :
    (∀ seed, args = [seed] → seed.IsDeterministic → seed.isConstant = false →
      e.DrawsBySeed g.algorithm seed) ∧
    ((∀ seed ∈ args, seed.isConstant) →
      (∀ seed, args = [seed] → ∃ n, seed.constantInt = .ok n ∧
        e.ownState g' = g.algorithm.ofSeed (n.getD 0)) ∧
      ∀ actions, let w := (Session.start e g').run actions
        (∀ c ∈ w.copies, Answered g.algorithm c.start c.log ∧ ((∀ p ∈ c.log, p.1.IsRead) →
          c.values = (g.algorithm.draws c.start c.drawn).map some)) ∧
        ∀ k c, w.copies[k]? = some c → (w.step (.clone k)).copies = w.copies ++
          [⟨(c.node.duplicate.run w.generators).1, g.algorithm.after c.start c.drawn, []⟩]) := by
  obtain ⟨source, hsource, rfl⟩ := newCall_source hl h
  constructor
  · rintro seed rfl hd hc
    obtain rfl := FunctionClass.randomSource_rowSeed hc hsource
    exact hd.drawsBySeed rfl _
  · intro hc
    obtain ⟨i, s, rfl, ha, hs, hseed⟩ := FunctionClass.randomSource_generator hc hsource
    have he : (call ⟨.ofString name, .double, .rand (.generator i), σ⟩ args none).DrawsFrom i :=
      ⟨rfl, rfl⟩
    refine ⟨fun seed hargs => ?_, fun actions => ?_⟩
    · obtain ⟨n, hn, rfl⟩ := hseed seed hargs
      exact ⟨n, hn, he.ownState_eq hs⟩
    · intro w
      have hw : w.Holds g.algorithm := ha ▸ (Session.holds_start he hs).run actions
      refine ⟨fun c hm => ?_, fun k c => hw.clone_copies⟩
      have hanswered := hw.answered hm
      exact ⟨hanswered, hanswered.flatMap_eq⟩

/-- The seed of the one call is a column; the other starts at the seed 7, and its copy after one
number. -/
theorem newCall_rand_copies :
    let n := column ⟨1, 0, .bigint, "n", none⟩
    let seven := literal (.int 7) .bigint none
    let input : Chunk := ⟨[⟨.int64, [some 7, none, some 0, some 7]⟩], 4,
      List.forall_mem_singleton.2 rfl⟩
    let a := Generator.mixing
    ∃ e e' g,
      (newCall .builtins {} "Rand" (some .double) [n]).run.run {} = (.ok e, {}) ∧
      (newCall .builtins {} "Rand" (some .double) [seven]).run.run {} = (.ok e', g) ∧
      e.DrawsBySeed a n ∧
      let w := (Session.start e' g).run [.ask 0 {} (.real .empty), .clone 0,
        .ask 1 {} (.chunk input (.empty .real)), .ask 0 {} (.value .empty)]
      w.copies.map (fun c => (c.start, c.drawn)) =
        [(a.ofSeed 7, 2), (a.after (a.ofSeed 7) 1, 4)] ∧
      ∀ c ∈ w.copies, c.values = (a.draws c.start c.drawn).map some := by
  intro n seven input a
  let e := call ⟨.ofString "Rand", .double, .rand .rowSeed, {}⟩ [n] none
  let e' := call ⟨.ofString "Rand", .double, .rand (.generator 0), {}⟩ [seven] none
  let g : Generators := { states := [a.ofSeed 7] }
  have hl : FunctionRegistry.builtins.lookup "Rand" = some .rand := by decide +kernel
  have he : (newCall .builtins {} "Rand" (some .double) [n]).run.run {} = (.ok e, {}) := by
    rw [newCall, hl]
    rfl
  have he' : (newCall .builtins {} "Rand" (some .double) [seven]).run.run {} = (.ok e', g) := by
    rw [newCall, hl]
    rfl
  have hrow := (newCall_rand hl he).1 n rfl trivial rfl
  obtain ⟨-, hcopies⟩ := (newCall_rand hl he').2 (List.forall_mem_singleton.2 rfl)
  refine ⟨e, e', g, he, he', hrow, rfl, fun c hc => ((hcopies _).1 c hc).2 fun p hp => ?_⟩
  have hlog := List.mem_map_of_mem (f := fun c : Copy => c.log.map (·.1)) hc
  have hread : ∀ qs ∈ [[Request.real .empty, .value .empty], [.chunk input (.empty .real)]],
      ∀ q ∈ qs, q.IsRead := by simp [Request.IsRead, Buffer.empty]
  exact hread _ hlog _ (List.mem_map_of_mem hp)

end Expr

end ScalarExpr
