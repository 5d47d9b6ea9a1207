import DiceFormula.Decimal.Writing
import DiceFormula.Text.Quoted

namespace DiceFormula

inductive LogLevel
  | debug
  | warning
  deriving DecidableEq

inductive LogChannel
  | engine
  | evaluation
  | cache
  deriving DecidableEq

inductive LogEvent
  | cacheHit (text : String)
  | cacheMiss (text : String)
  | evicted (text : String)
  | evaluated (nodes : Nat) (elapsed : Float)
  | overBudget (elapsed : Float) (budget : Int)

namespace LogEvent

def level : LogEvent → LogLevel
  | overBudget _ _ => .warning
  | _ => .debug

def channel : LogEvent → LogChannel
  | cacheHit _ => .engine
  | cacheMiss _ => .engine
  | evicted _ => .cache
  | evaluated _ _ => .evaluation
  | overBudget _ _ => .evaluation

def message : LogEvent → String
  | cacheHit text => "Cache hit for " ++ Text.quoted text
  | cacheMiss text => "Cache miss for " ++ Text.quoted text
  | evicted text => "Evicted cached expression " ++ Text.quoted text
  | evaluated nodes elapsed =>
    let shown := Decimal.writeFixed 3 (.ofFloat elapsed)
    s!"Evaluated {nodes} nodes in {shown}ms"
  | overBudget elapsed budget =>
    let shown := Decimal.writeFixed 1 (.ofFloat elapsed)
    s!"Evaluation took {shown}ms, over the {budget}ms budget"

end LogEvent

end DiceFormula
