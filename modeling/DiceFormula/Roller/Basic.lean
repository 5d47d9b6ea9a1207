import DiceFormula.Expr.OfText
import DiceFormula.Lru
import DiceFormula.Roll.Session
import DiceFormula.Settings.Basic

namespace DiceFormula

structure Roller where
  settings : Settings
  options : TranscriptOptions
  injected : Option Source
  ambient : Source
  parsed : Option (Lru Expr)
  clock : Clock
  log : Array LogEvent

abbrev Working := ExceptT Fault (StateM Roller)

namespace Roller

def create (settings : Settings) (options : TranscriptOptions) (injected : Option Source)
    (ambient : Source) (clock : Clock) : Roller where
  settings := settings
  options := options
  injected := injected
  ambient := ambient
  parsed :=
    if settings.enableCaching then
      some { capacity := settings.cacheSize, capacity_pos := settings.cacheSize_pos }
    else none
  clock := clock
  log := #[]

def emit (event : LogEvent) (roller : Roller) : Roller :=
  { roller with log := roller.log.push event }

def readClock (roller : Roller) : Float × Roller :=
  let (reading, clock) := roller.clock.read
  (reading, { roller with clock := clock })

def lookUp (text : String) (roller : Roller) : Option Expr × Roller :=
  match roller.parsed with
  | none => (none, roller)
  | some store =>
    let (found, store) := store.get text
    let event := if found.isSome then LogEvent.cacheHit text else .cacheMiss text
    (found, { roller with parsed := some store }.emit event)

def keep (text : String) (e : Expr) (roller : Roller) : Roller :=
  match roller.parsed with
  | none => roller
  | some store =>
    let (evicted, store) := store.put text e
    evicted.foldl (fun roller key => roller.emit (.evicted key))
      { roller with parsed := some store }

/-- The given source, else the injected one, else a fresh one. -/
def source (given : Option Source) (roller : Roller) : Source :=
  match given, roller.injected, roller.settings.seed with
  | some source, _, _ => source
  | none, some source, _ => source
  | none, none, some seed => Source.ofSeed seed
  | none, none, none => roller.ambient

/-- Puts a source back where it was taken from. A given one and a seeded one are done with. -/
def restore (given : Option Source) (source : Source) (roller : Roller) : Roller :=
  match given, roller.injected, roller.settings.seed with
  | some _, _, _ => roller
  | none, some _, _ => { roller with injected := some source }
  | none, none, some _ => roller
  | none, none, none => { roller with ambient := source }

def session (given : Option Source) (recorder : Option Recorder) (roller : Roller) : Session where
  rerollLimit := roller.settings.maxRerolls
  budget := some roller.settings.maxExecutionTime
  trace := { supply := roller.source given, recorder := recorder }
  clock := roller.clock
  log := roller.log

def runSession (given : Option Source) (recorder : Option Recorder)
    (work : Session → Except RollFault α × Session) : Working (α × Trace Source) :=
  ExceptT.mk fun roller =>
    let (result, session) := work (roller.session given recorder)
    let roller := roller.restore given session.trace.supply
    (result.map (·, session.trace) |>.mapError .roll,
      { roller with clock := session.clock, log := session.log })

def ofExcept (result : Except Fault α) : Working α := ExceptT.mk (pure result)

def lengthLimit (roller : Roller) : Int := roller.settings.maxExpressionLength

def scan (text : String) : Working (List Token) := do
  ofExcept (scanText (← get).lengthLimit text)

/-- The tree of a text. Tokens already scanned are used only where the tree has to be built. -/
def parse (text : String) (scanned : Option (List Token)) : Working Expr := do
  ofExcept ((checkLength (← get).lengthLimit text).mapError .scan)
  match ← modifyGet (lookUp text) with
  | some e => return e
  | none =>
    let tokens ← match scanned with
      | some tokens => pure tokens
      | none => scan text
    let e ← ofExcept (parseTokens tokens)
    modify (keep text e)
    return e

end Roller

end DiceFormula
