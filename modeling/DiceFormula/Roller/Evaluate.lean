import DiceFormula.Expr.Bounds
import DiceFormula.Roller.Basic

namespace DiceFormula

structure Outcome where
  text : String
  value : Int
  rolls : List Int
  bounds : Bounds
  elapsed : Float
  metrics : Metrics

namespace Roller

def boundsOf (e : Expr) : Working Bounds := do
  ofExcept ((e.bounds (← get).settings.explodeMultiplier).mapError .roll)

def range (text : String) : Working Bounds := do
  boundsOf (← parse text none)

def evaluate (text : String) (given : Option Source) : Working Int := do
  let e ← parse text none
  let (value, _) ← runSession given none (Session.evaluate e)
  return value

def evaluateDetailed (text : String) (given : Option Source) : Working Outcome := do
  let e ← parse text none
  let ((value, elapsed), trace) ← runSession given none (Session.evaluateTimed e)
  let bounds ← boundsOf e
  return ⟨text, value, trace.rolls.toList, bounds, elapsed, trace.metrics⟩

/-- Rolls and gives the account. The tokens shown are always fresh ones. -/
def explainOutcome (text : String) (options : Option TranscriptOptions) (given : Option Source) :
    Working (Outcome × Transcript) := do
  let recorder : Recorder := { subject := text, options := options.getD (← get).options }
  let tokens ← scan text
  let recorder := recorder.noteTokens (tokens.map Token.text)
  let e ← parse text (some tokens)
  let recorder := recorder.noteParsing ("Expression parsed as " ++ e.render) e.nodeCount
  let start ← modifyGet readClock
  let ((value, _), trace) ← runSession given (some recorder) (Session.evaluateTimed e)
  let recorder := (trace.recorder.getD recorder).noteResult value
  let stop ← modifyGet readClock
  let elapsed := Clock.elapsedMilliseconds start stop
  let bounds ← boundsOf e
  return (⟨text, value, trace.rolls.toList, bounds, elapsed, trace.metrics⟩,
    recorder.transcript (some elapsed))

/-- The formula is rolled before the format is looked at. -/
def explain (text format : String) : Working String := do
  let (_, transcript) ← explainOutcome text none none
  if format = "markdown" then return transcript.toMarkdown
  else if format = "text" then return transcript.toText
  else throw (.unknownFormat format)

/-- The message about a text that cannot be read, if there is one. Faults without a diagnosis
    pass through. -/
def validationErrors (text : String) : Working (List String) :=
  tryCatch (do discard (parse text none); return []) fun fault =>
    match fault.diagnosis? with
    | some diagnosis => return [diagnosis.message]
    | none => throw fault

def validate (text : String) : Working Bool := do
  return (← validationErrors text).isEmpty

def clearCache (roller : Roller) : Roller :=
  { roller with parsed := roller.parsed.map Lru.clear }

def cacheStats (roller : Roller) : LruStats :=
  match roller.parsed with
  | some store => store.stats
  | none => ⟨0, 0, 0, 0⟩

end Roller

structure Term where
  kind : StepKind
  written : Option String
  rolls : List Int
  subtotal : Int
  details : Option String
  deriving DecidableEq

structure RollRecord where
  text : String
  normalized : String
  seed : Int
  terms : List Term
  rolls : List Int
  bounds : Bounds
  total : Int
  explanation : String
  deriving DecidableEq

def StepKind.isTerm : StepKind → Bool
  | diceRoll | conditional | reroll => true
  | _ => false

def Step.term (step : Step) : Term where
  kind := step.kind
  written := step.expr.map Expr.render
  rolls := step.rolls.getD []
  subtotal := step.value
  details := step.details.filter (· ≠ "")

def Roller.rollRecord (text : String) (seed : Int) : Working RollRecord := do
  let (outcome, transcript) ← explainOutcome text none (some (Source.ofSeed seed))
  let e ← parse text none
  return {
    text := text
    normalized := e.render
    seed := seed
    terms := (transcript.steps.filter (·.kind.isTerm)).map Step.term
    rolls := outcome.rolls
    bounds := outcome.bounds
    total := outcome.value
    explanation := transcript.toText }

end DiceFormula
