import DiceFormula.Transcript.Basic
import DiceFormula.Transcript.Wording

namespace DiceFormula

structure Recorder where
  subject : String
  options : TranscriptOptions
  steps : Array Step := #[]
  tokens : List String := []
  parsing : String := ""
  result : Option Int := none
  deriving DecidableEq

namespace Recorder

def add (recorder : Recorder) (kind : StepKind) (description : String) (value : Int)
    (details : Option String) (rolls : Option (List Int)) (expr : Option Expr) : Recorder :=
  let step := ⟨recorder.steps.size + 1, kind, description, value, details, rolls, expr⟩
  { recorder with steps := recorder.steps.push step }

def whenVerbose (recorder : Recorder) (details : String) : Option String :=
  if recorder.options.verbose then some details else none

def whenDetailed (recorder : Recorder) (details : String) : Option String :=
  if recorder.options.includeDiceDetails then some details else none

def noteTokens (recorder : Recorder) (texts : List String) : Recorder :=
  if recorder.options.includeTokenization then
    { recorder with tokens := texts }.add .tokenization (Wording.tokens texts) texts.length
      (recorder.whenVerbose (Wording.tokensInDetail texts)) none none
  else recorder

def noteParsing (recorder : Recorder) (description : String) (count : Int) : Recorder :=
  if recorder.options.includeParsing then
    { recorder with parsing := description }.add .parsing (Wording.parsing description) count
      (recorder.whenVerbose (Wording.parsingInDetail count)) none none
  else recorder

/-- The activity is worded even where the account is terse. No number is checked for its length: a
    literal built by hand with more than `Text.longestNumeral` digits is described all the same,
    where a writer that refuses such numerals would fail. -/
def noteNode (recorder : Recorder) (e : Expr) (result : Int) : Except RollFault Recorder := do
  if recorder.options.includeIntermediateSteps then
    let activity ← e.activity
    return recorder.add .evaluation (e.describe result) result (recorder.whenVerbose activity)
      none (some e)
  else return recorder

def noteDice (recorder : Recorder) (e : Expr) (rolls : List Int) (total : Int) : Recorder :=
  recorder.add .diceRoll (Wording.dice e rolls total) total
    (recorder.whenDetailed (Wording.diceInDetail rolls)) (some rolls) (some e)

def noteConditional (recorder : Recorder) (pool : Pool) (check : Check) (rolls : List Int)
    (successes : Int) : Recorder :=
  recorder.add .conditional (Wording.conditional pool check successes) successes
    (recorder.whenDetailed (Wording.conditionalInDetail rolls)) (some rolls)
    (some (.atom (.conditional pool check)))

def noteReroll (recorder : Recorder) (pool : Pool) (kind : RerollKind) (check : Check)
    (all finals : List Int) (total count : Int) : Recorder :=
  recorder.add .reroll (Wording.reroll pool check total count) total
    (recorder.whenDetailed (Wording.rerollInDetail kind all finals)) (some finals)
    (some (.atom (.reroll pool kind check)))

def noteGroup (recorder : Recorder) (value : Int) : Recorder :=
  if recorder.options.includeIntermediateSteps then
    recorder.add .parentheses (Wording.parentheses value) value none none none
  else recorder

/-- Only the result is checked for its length, since operands have been written before. One built by
    hand with more than `Text.longestNumeral` digits has not, and is described all the same, where a
    writer that refuses such numerals would fail. -/
def noteOperation (recorder : Recorder) (operator : Operator) (left right result : Int) :
    Except RollFault Recorder :=
  if Text.isWritable result then
    .ok (recorder.add .operation (Wording.operation operator left right result) result
      (recorder.whenVerbose (Wording.operationInDetail operator left right)) none none)
  else .error .resultTooLong

def noteResult (recorder : Recorder) (value : Int) : Recorder :=
  { recorder with result := some value }.add .finalResult (Wording.finalResult value) value
    none none none

/-- Without a final result the last step stands in for it. -/
def transcript (recorder : Recorder) (elapsed : Option Float) : Transcript where
  subject := recorder.subject
  tokens := recorder.tokens
  parsing := recorder.parsing
  steps := recorder.steps.toList
  result := recorder.result.getD ((recorder.steps.back?.map Step.value).getD 0)
  elapsed := elapsed
  options := recorder.options

end Recorder

end DiceFormula
