import DiceFormula.Decimal.Writing
import DiceFormula.Expr.Basic

namespace DiceFormula

inductive StepKind
  | tokenization
  | parsing
  | evaluation
  | diceRoll
  | reroll
  | conditional
  | operation
  | parentheses
  | finalResult
  deriving DecidableEq

def StepKind.label : StepKind → String
  | tokenization => "tokenization"
  | parsing => "parsing"
  | evaluation => "evaluation"
  | diceRoll => "dice_roll"
  | reroll => "reroll"
  | conditional => "conditional"
  | operation => "operation"
  | parentheses => "parentheses"
  | finalResult => "final_result"

structure Step where
  number : Nat
  kind : StepKind
  description : String
  value : Int
  details : Option String
  rolls : Option (List Int)
  expr : Option Expr
  deriving DecidableEq

structure TranscriptOptions where
  includeTokenization : Bool := true
  includeParsing : Bool := true
  includeIntermediateSteps : Bool := true
  includeDiceDetails : Bool := true
  includeTimestamps : Bool := false
  verbose : Bool := false
  deriving DecidableEq

structure Transcript where
  subject : String
  tokens : List String
  parsing : String
  steps : List Step
  result : Int
  elapsed : Option Float
  options : TranscriptOptions

namespace Transcript

/-- The details that a reader gets to see: only on a verbose account, and never empty ones. -/
def shownDetails (transcript : Transcript) (step : Step) : Option String :=
  if transcript.options.verbose then step.details.filter (· ≠ "") else none

def shownTime (transcript : Transcript) : Option String :=
  if transcript.options.includeTimestamps then
    transcript.elapsed.map fun elapsed => Decimal.writeFixed 3 (.ofFloat elapsed) ++ "ms"
  else none

def showsTokens (transcript : Transcript) : Bool :=
  transcript.options.includeTokenization && !transcript.tokens.isEmpty

def showsParsing (transcript : Transcript) : Bool :=
  transcript.options.includeParsing && transcript.parsing != ""

def joinTokens (transcript : Transcript) : String := String.intercalate " -> " transcript.tokens

def textStep (transcript : Transcript) (step : Step) : List String :=
  s!"  {step.number}. {step.description}" ::
    ((transcript.shownDetails step).map ("     Details: " ++ ·)).toList

def toText (transcript : Transcript) : String :=
  let tokens :=
    if transcript.showsTokens then ["Tokenization: " ++ transcript.joinTokens, ""] else []
  let parsing := if transcript.showsParsing then ["Parsing: " ++ transcript.parsing, ""] else []
  let time := (transcript.shownTime.map ("Execution Time: " ++ ·)).toList
  String.intercalate "\n" <|
    ["Expression: " ++ transcript.subject, ""] ++ tokens ++ parsing ++
      "Evaluation Steps:" :: transcript.steps.flatMap transcript.textStep ++
      ["", "Final Result: " ++ Decimal.writeWhole transcript.result] ++ time

def markdownStep (transcript : Transcript) (step : Step) : List String :=
  let label := step.kind.label
  s!"{step.number}. **{label}**: {step.description}" ::
    ((transcript.shownDetails step).map fun details => s!"   - *{details}*").toList

def toMarkdown (transcript : Transcript) : String :=
  let joined := transcript.joinTokens
  let result := Decimal.writeWhole transcript.result
  let tokens := if transcript.showsTokens then ["## Tokenization", s!"`{joined}`", ""] else []
  let parsing := if transcript.showsParsing then ["## Parsing", transcript.parsing, ""] else []
  let time := (transcript.shownTime.map fun shown => s!"*Execution Time: {shown}*").toList
  String.intercalate "\n" <|
    [s!"# Expression Evaluation: `{transcript.subject}`", ""] ++ tokens ++ parsing ++
      "## Evaluation Steps" :: transcript.steps.flatMap transcript.markdownStep ++
      ["", s!"## Final Result: **{result}**"] ++ time

end Transcript

end DiceFormula
