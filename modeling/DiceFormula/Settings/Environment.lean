import DiceFormula.Settings.Basic
import DiceFormula.Text.LetterCase
import DiceFormula.Text.Numeral

namespace DiceFormula

structure Environment where
  bindings : List (String × String) := []

namespace Environment

def find? (environment : Environment) (name : String) : Option String :=
  (environment.bindings.find? (·.1 = name)).map (·.2)

def unset (environment : Environment) (name : String) : Environment :=
  ⟨environment.bindings.filter (·.1 ≠ name)⟩

def set (environment : Environment) (name value : String) : Environment :=
  ⟨(name, value) :: (environment.unset name).bindings⟩

def stated? (environment : Environment) (name : String) : Option String :=
  (environment.find? name).filter fun raw => !raw.toList.all Text.isBlank

end Environment

def SettingName.variable : SettingName → String
  | maxRerolls => "DICE_MAX_REROLLS"
  | maxExpressionLength => "DICE_MAX_EXPRESSION_LENGTH"
  | cacheSize => "DICE_CACHE_SIZE"
  | maxExecutionTime => "DICE_MAX_EXECUTION_TIME"
  | explodeMultiplier => "DICE_EXPLODE_MULTIPLIER"
  | seed => "DICE_SEED"
  | enableCaching => "DICE_ENABLE_CACHING"

def readIntegerSetting (name : SettingName) (raw : String) : Except SettingFault Int :=
  match Text.readInteger? raw.toList with
  | some value => .ok value
  | none => .error (.notInteger name raw)

def trueWords : List String := ["1", "true", "yes", "on"]

def falseWords : List String := ["0", "false", "no", "off"]

/-- Case is ignored. No letter outside ASCII has a lower case that these words contain. -/
def readTruthSetting (name : SettingName) (raw : String) : Except SettingFault Bool :=
  let word := String.ofList (Text.lowerAscii (Text.trim raw.toList))
  if trueWords.contains word then .ok true
  else if falseWords.contains word then .ok false
  else .error (.notBoolean name raw)

namespace Draft

def readInteger (environment : Environment) (draft : Draft) (name : SettingName) :
    Except SettingFault Draft :=
  match environment.stated? name.variable with
  | none => .ok draft
  | some raw => do
    let value ← readIntegerSetting name raw
    return draft.set name (.integer value)

def readTruth (environment : Environment) (draft : Draft) (name : SettingName) :
    Except SettingFault Draft :=
  match environment.stated? name.variable with
  | none => .ok draft
  | some raw => do
    let value ← readTruthSetting name raw
    return draft.set name (.truth value)

end Draft

def integerSettings : List SettingName :=
  [.maxRerolls, .maxExpressionLength, .cacheSize, .maxExecutionTime, .explodeMultiplier, .seed]

/-- All variables are read before any limit is checked. -/
def Settings.ofEnvironment (environment : Environment) : Except SettingFault Settings := do
  let draft ← integerSettings.foldlM (Draft.readInteger environment) Draft.standard
  let draft ← draft.readTruth environment .enableCaching
  draft.settings

end DiceFormula
