import DiceFormula.Roller.Evaluate
import DiceFormula.Settings.Environment

namespace DiceFormula

/-- One roller for all callers, made from the environment when it is first needed. -/
structure Service where
  environment : Environment
  roller : Option Roller := none
  ambient : Source
  clock : Clock

/-- Callers are refused with a message, except where they asked about the settings themselves. -/
inductive ServiceFault
  | refused (message : String)
  | setting (fault : SettingFault)
  | formula (fault : Fault)

abbrev Serving := ExceptT ServiceFault (StateM Service)

structure Verdict where
  valid : Bool
  errors : List String
  deriving DecidableEq

def ServiceFault.refuse : ServiceFault → ServiceFault
  | refused message => refused message
  | setting fault => refused fault.diagnosis.message
  | formula fault =>
    match fault.diagnosis? with
    | some diagnosis => refused diagnosis.message
    | none => formula fault

namespace Service

def current (service : Service) : Except SettingFault Roller :=
  match service.roller with
  | some roller => .ok roller
  | none => do
    let settings ← Settings.ofEnvironment service.environment
    return Roller.create settings {} none service.ambient service.clock

/-- Lets the roller do some work. A roller that could not be made is made again next time. -/
def use (work : Working α) : Serving α :=
  ExceptT.mk fun service =>
    match service.current with
    | .error fault => (.error (.setting fault), service)
    | .ok roller =>
      let (result, roller) := work.run roller
      (result.mapError .formula, { service with roller := some roller })

def refusing (work : Serving α) : Serving α := ExceptT.mk do
  return (← work.run).mapError ServiceFault.refuse

def roll (text : String) (seed : Int) : Serving RollRecord :=
  refusing (use (Roller.rollRecord text seed))

def explain (text format : String) : Serving String := refusing (use (Roller.explain text format))

def range (text : String) : Serving Bounds := refusing (use (Roller.range text))

def validate (text : String) : Serving Verdict := do
  let errors ← use (Roller.validationErrors text)
  return ⟨errors.isEmpty, errors⟩

def settings : Serving Settings := use (return (← get).settings)

def cacheStats : Serving LruStats := use (return (← get).cacheStats)

def setVariable (name value : String) : Serving Unit :=
  modify fun service => { service with environment := service.environment.set name value }

def unsetVariable (name : String) : Serving Unit :=
  modify fun service => { service with environment := service.environment.unset name }

end Service

end DiceFormula
