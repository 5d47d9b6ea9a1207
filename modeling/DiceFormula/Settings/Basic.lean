import DiceFormula.Decimal.Writing
import DiceFormula.Fault
import DiceFormula.Random.Seed
import DiceFormula.Text.Quoted

namespace DiceFormula

inductive SettingValue
  | absent
  | truth (value : Bool)
  | integer (value : Int)
  | real (value : Float)
  | text (value : String)
  | items (values : List SettingValue)
  | fields (values : List (String × SettingValue))
  deriving Inhabited

namespace SettingValue

mutual

def render : SettingValue → String
  | absent => "None"
  | truth value => if value then "True" else "False"
  | integer value => toString value
  | real value => Decimal.writeShortest Decimal.plainLayout (.ofFloat value)
  | text value => Text.quoted value
  | items values => "[" ++ String.intercalate ", " (renderItems values) ++ "]"
  | fields values => "\x7b" ++ String.intercalate ", " (renderFields values) ++ "\x7d"

def renderItems : List SettingValue → List String
  | [] => []
  | value :: rest => value.render :: renderItems rest

def renderFields : List (String × SettingValue) → List String
  | [] => []
  | (name, value) :: rest => (Text.quoted name ++ ": " ++ value.render) :: renderFields rest

end

def isTrue : SettingValue → Bool
  | absent => false
  | truth value => value
  | integer value => value ≠ 0
  | real value => value != 0.0
  | text value => value ≠ ""
  | items values => !values.isEmpty
  | fields values => !values.isEmpty

def seed? : SettingValue → Option Int
  | absent => none
  | truth value => some value.toInt
  | integer value => some value
  | real value => some (Seed.ofReal (.ofFloat value))
  | text value => some (Seed.ofText value)
  | items _ => none
  | fields _ => none

end SettingValue

inductive SettingName
  | maxRerolls
  | maxExpressionLength
  | cacheSize
  | maxExecutionTime
  | explodeMultiplier
  | seed
  | enableCaching
  deriving DecidableEq

def SettingName.label : SettingName → String
  | maxRerolls => "max_rerolls"
  | maxExpressionLength => "max_expression_length"
  | cacheSize => "cache_size"
  | maxExecutionTime => "max_execution_time"
  | explodeMultiplier => "explode_multiplier"
  | seed => "seed"
  | enableCaching => "enable_caching"

inductive SettingFault
  | notPositive (name : SettingName) (value : SettingValue)
  | notInteger (name : SettingName) (raw : String)
  | notBoolean (name : SettingName) (raw : String)

def SettingFault.diagnosis (fault : SettingFault) : Diagnosis :=
  let (name, demand, shown) := match fault with
    | notPositive name value => (name.label, "a positive integer", value.render)
    | notInteger name raw => (name.label, "an integer", Text.quoted raw)
    | notBoolean name raw => (name.label, "a boolean", Text.quoted raw)
  ⟨"VALIDATION_ERROR", s!"Option '{name}' must be {demand}, got {shown}"⟩

/-- Five positive limits, two choices. The multiplier stands in for the true maximum of dice
    that have none. -/
structure Settings where
  maxRerolls : Nat := 100
  maxExpressionLength : Nat := 1000
  cacheSize : Nat := 100
  maxExecutionTime : Nat := 5000
  explodeMultiplier : Nat := 6
  enableCaching : Bool := true
  seed : Option Int := none
  maxRerolls_pos : 0 < maxRerolls := by decide
  maxExpressionLength_pos : 0 < maxExpressionLength := by decide
  cacheSize_pos : 0 < cacheSize := by decide
  maxExecutionTime_pos : 0 < maxExecutionTime := by decide
  explodeMultiplier_pos : 0 < explodeMultiplier := by decide
  deriving DecidableEq

abbrev Draft := SettingName → SettingValue

namespace Draft

def standard : Draft
  | .maxRerolls => .integer ({} : Settings).maxRerolls
  | .maxExpressionLength => .integer ({} : Settings).maxExpressionLength
  | .cacheSize => .integer ({} : Settings).cacheSize
  | .maxExecutionTime => .integer ({} : Settings).maxExecutionTime
  | .explodeMultiplier => .integer ({} : Settings).explodeMultiplier
  | .seed => .absent
  | .enableCaching => .truth ({} : Settings).enableCaching

def set (draft : Draft) (name : SettingName) (value : SettingValue) : Draft :=
  fun other => if other = name then value else draft other

/-- A truth value is no number here. -/
def positive (draft : Draft) (name : SettingName) : Except SettingFault { n : Nat // 0 < n } :=
  match draft name with
  | .integer value =>
    if positive : 0 < value.toNat then .ok ⟨value.toNat, positive⟩
    else .error (.notPositive name (.integer value))
  | value => .error (.notPositive name value)

def settings (draft : Draft) : Except SettingFault Settings := do
  let ⟨maxRerolls, maxRerolls_pos⟩ ← draft.positive .maxRerolls
  let ⟨maxExpressionLength, maxExpressionLength_pos⟩ ← draft.positive .maxExpressionLength
  let ⟨cacheSize, cacheSize_pos⟩ ← draft.positive .cacheSize
  let ⟨maxExecutionTime, maxExecutionTime_pos⟩ ← draft.positive .maxExecutionTime
  let ⟨explodeMultiplier, explodeMultiplier_pos⟩ ← draft.positive .explodeMultiplier
  let enableCaching := (draft .enableCaching).isTrue
  let seed := (draft .seed).seed?
  return { maxRerolls, maxExpressionLength, cacheSize, maxExecutionTime, explodeMultiplier,
           enableCaching, seed, maxRerolls_pos, maxExpressionLength_pos, cacheSize_pos,
           maxExecutionTime_pos, explodeMultiplier_pos }

end Draft

end DiceFormula
