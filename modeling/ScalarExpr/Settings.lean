/-!
Session and statement settings that calls carry with them.
-/
namespace ScalarExpr

structure StatementSettings where
  /-- Local time less the time in Greenwich. -/
  offsetSeconds : Int32 := 0
  ignoreTruncate : Bool := false
  deriving DecidableEq, Inhabited

structure Settings where
  timeZone : String := "UTC"
  sqlMode : UInt32 := 4
  divPrecisionIncrement : UInt8 := 4
  batchSize : UInt64 := 1024
  statement : StatementSettings := {}
  deriving DecidableEq, Inhabited

/-- The bits of the mode of a session. -/
inductive SqlMode
  | errorForDivisionByZero
  | pipesAsConcat
  | strictAllTables
  deriving DecidableEq

namespace SqlMode

def all : List SqlMode := [errorForDivisionByZero, pipesAsConcat, strictAllTables]

def flag : SqlMode → UInt32
  | errorForDivisionByZero => 1
  | pipesAsConcat => 2
  | strictAllTables => 4

end SqlMode

def Settings.hasMode (s : Settings) (mode : SqlMode) : Bool := s.sqlMode &&& mode.flag ≠ 0

end ScalarExpr
