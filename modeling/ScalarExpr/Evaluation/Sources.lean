import ScalarExpr.Evaluation.Meaning
import ScalarExpr.Expr.Basic
/-!
Functions of the clock and of random numbers, and times from seconds.
-/
namespace ScalarExpr.Evaluation

/-- One random number; a seed that is NULL counts as zero. -/
def randRow (source : RandomSource) (xs : List Meaning) (r : Row) : Eval Binary64 :=
  match source, xs with
  | .generator i, _ => Generators.draw i
  | .rowSeed, x :: _ => do
    let seed ← x.row r .int
    Generators.drawSeeded (seed.getD 0)
  | .rowSeed, [] => Eval.fault .outOfBounds

def randColumn (source : RandomSource) (xs : List Meaning) (input : Chunk) : Eval Column := do
  let zs ← input.rows.mapM (randRow source xs)
  return ⟨.float64, zs.map some⟩

def clampInt64 (n : Int) : Int64 := Int64.ofInt (max (-Int.pow 2 63) (min n (Int.pow 2 63 - 1)))

/-- The local time, the same for all rows. -/
def nowColumn (env : Env) (s : Settings) (input : Chunk) : Eval Column :=
  return .filled (.timestamp .microsecond none) input.rowCount
    (clampInt64 (env.clock + s.statement.offsetSeconds.toInt * 1000000))

def unixSeconds (env : Env) : Int64 := Int64.ofInt (env.clock / 1000000)

def unixTimestampColumn (env : Env) (input : Chunk) : Eval Column :=
  return .filled .int64 input.rowCount (unixSeconds env)

def secondsToNanos (seconds : Int64) : Except Failure Int64 :=
  match int64? (seconds.toInt * 1000000000) with
  | some nanos => .ok nanos
  | none =>
    .error (.error (.outOfRange "TIME" ("sec_to_time(" ++ toString seconds.toInt ++ ")")))

def secToTimeColumn (x : Meaning) (input : Chunk) : Eval Column := do
  let a ← x.buffer .int input
  let as ← Eval.lift a.int64s
  let nanos ← Eval.lift (Column.mapSlotsM as secondsToNanos)
  return ⟨.duration .nanosecond, nanos⟩

end ScalarExpr.Evaluation
