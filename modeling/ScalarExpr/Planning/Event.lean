import ScalarExpr.Expr.Text
/-!
What planning writes to the log. Events are recorded as trees, values and causes; they become lines
of text only where a log is kept.
-/
namespace ScalarExpr

/-- An event, with the call as it was at the time and what became of it. -/
inductive Event
  | folded (call : Expr) (value : Value)
  | kept (call : Expr) (cause : Error)
  | decorrelating (call : Expr)
  | notBuilt (function : String) (cause : Error)

namespace Event

/-- The line of an event; there is none if the call or its value has no text. -/
def line : Event → Except Fault String
  | folded call value => do
    return "DEBUG: folded " ++ (← call.render) ++ " to " ++ (← value.render)
  | kept call cause => do
    return "DEBUG: keeping " ++ (← call.render) ++ " unfolded: " ++ cause.message
  | decorrelating call => do return "TRACE: decorrelating " ++ (← call.render)
  | notBuilt function cause =>
    .ok ("WARN: failed to build scalar function " ++ function ++ ": " ++ cause.message)

/-- The lines of events in order. The first event without a line ends the log with its fault. -/
def lines : List Event → List String × Option Fault
  | [] => ([], none)
  | e :: es =>
    match e.line with
    | .error f => ([], some f)
    | .ok text =>
      let (texts, fault) := lines es
      (text :: texts, fault)

end Event

/-- A step of planning that records events. Only a fault of an evaluation ends it early. -/
abbrev Traced (α : Type) := ExceptT Fault (StateM (List Event)) α

namespace Traced

def record (e : Event) : Traced Unit := modify (· ++ [e])

def lift {α : Type} (r : Except Fault α) : Traced α := ExceptT.mk (pure r)

def outcome {α : Type} (m : Traced α) : Except Fault α × List Event := m.run.run []

/-- The result where no log is kept. -/
def result {α : Type} (m : Traced α) : Except Fault α := m.outcome.1

/-- The result where a log is kept, and its lines. A line is written at once, so that an event
without a line ends the step. -/
def logged {α : Type} (m : Traced α) : Except Fault α × List String :=
  match Event.lines m.outcome.2 with
  | (texts, none) => (m.result, texts)
  | (texts, some f) => (.error f, texts)

end Traced
end ScalarExpr
