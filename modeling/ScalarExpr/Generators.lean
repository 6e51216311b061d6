import ScalarExpr.Error
import ScalarExpr.Number.Binary64
/-!
Random number generators. A generator is a state, and an algorithm says what the state for a seed is
and what a draw gives and leaves. The generators that are in use are kept together and known by
their place, and evaluation may draw from them.
-/
namespace ScalarExpr

/-- A state, which only the algorithm reads. -/
structure Generator where
  state : Nat
  deriving DecidableEq, Inhabited

namespace Generator

structure Algorithm where
  ofSeed : Int64 → Generator
  /-- A real number and the next state. -/
  next : Generator → Binary64 × Generator

/-- The first number from a seed. -/
def Algorithm.first (a : Algorithm) (seed : Int64) : Binary64 := (a.next (a.ofSeed seed)).1

def step : UInt64 := 0x9e3779b97f4a7c15

/-- Spreads the bits of a state; different states have different images. -/
def mix (z : UInt64) : UInt64 :=
  let z := (z ^^^ (z >>> 30)) * 0xbf58476d1ce4e5b9
  let z := (z ^^^ (z >>> 27)) * 0x94d049bb133111eb
  z ^^^ (z >>> 31)

/-- Counts in steps and draws the high 53 bits of the mixed state over `2 ^ 53`, a number from zero
up to below one. -/
def mixing : Algorithm where
  ofSeed seed := ⟨seed.toUInt64.toNat⟩
  next g :=
    let state := .ofNat g.state + step
    (.ofMagnitude false (Binary64.roundRatio (mix state >>> 11).toNat (Nat.pow 2 53)),
      ⟨state.toNat⟩)

instance : Inhabited Algorithm := ⟨mixing⟩

end Generator

structure Generators where
  algorithm : Generator.Algorithm := Generator.mixing
  states : List Generator := []
  /-- Where the next generator without a seed takes its state from. -/
  entropy : UInt64 := 0x2545f4914f6cdd1d
  deriving Inhabited

/-- Evaluation: it may draw from generators and may fail, and draws made before a failure count. -/
abbrev Eval (α : Type) := ExceptT Failure (StateM Generators) α

namespace Eval

def lift {α : Type} (r : Except Failure α) : Eval α := ExceptT.mk (pure r)

def fail {α : Type} (e : Error) : Eval α := lift (.error (.error e))

def fault {α : Type} (f : Fault) : Eval α := lift (.error (.fault f))

end Eval

namespace Generators

/-- Takes a generator into use. -/
def add (g : Generator) : StateM Generators Nat := do
  let gs ← get
  set { gs with states := gs.states ++ [g] }
  return gs.states.length

def addSeeded (seed : Int64) : StateM Generators Nat := do
  add ((← get).algorithm.ofSeed seed)

/-- A generator that no seed determines. -/
def addUnseeded : StateM Generators Nat := do
  modify fun gs => { gs with entropy := gs.entropy + Generator.step }
  add ⟨(Generator.mix (← get).entropy).toNat⟩

/-- A new generator in the state of another; from then on they go their own ways. -/
def copy (i : Nat) : StateM Generators Nat := do
  add ((← get).states[i]?.getD default)

def draw (i : Nat) : Eval Binary64 := do
  let gs ← get
  match gs.states[i]? with
  | none => Eval.fault .outOfBounds
  | some g =>
    let (x, g) := gs.algorithm.next g
    set { gs with states := gs.states.set i g }
    return x

/-- A number from a seed, by a generator that nothing else draws from. -/
def drawSeeded (seed : Int64) : Eval Binary64 := do
  return (← get).algorithm.first seed

end Generators
end ScalarExpr
