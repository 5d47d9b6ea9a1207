import DiceFormula.Proofs.Run
import DiceFormula.Settings.Basic

namespace DiceFormula

def limitSettings : List SettingName :=
  [.maxRerolls, .maxExpressionLength, .cacheSize, .maxExecutionTime, .explodeMultiplier]

def Settings.draft (settings : Settings) : Draft
  | .maxRerolls => .integer settings.maxRerolls
  | .maxExpressionLength => .integer settings.maxExpressionLength
  | .cacheSize => .integer settings.cacheSize
  | .maxExecutionTime => .integer settings.maxExecutionTime
  | .explodeMultiplier => .integer settings.explodeMultiplier
  | .seed => settings.seed.elim .absent .integer
  | .enableCaching => .truth settings.enableCaching

theorem Settings.positive_draft (settings : Settings) :
    ∀ name ∈ limitSettings, ∃ limit : Nat, settings.draft name = .integer limit ∧ 1 ≤ limit := by
  simp only [limitSettings, List.forall_mem_cons]
  exact ⟨⟨_, rfl, settings.maxRerolls_pos⟩, ⟨_, rfl, settings.maxExpressionLength_pos⟩,
    ⟨_, rfl, settings.cacheSize_pos⟩, ⟨_, rfl, settings.maxExecutionTime_pos⟩,
    ⟨_, rfl, settings.explodeMultiplier_pos⟩, by simp⟩

theorem Settings.draft_seed {settings : Settings} (none : settings.seed = none) :
    settings.draft .seed = .absent := by
  show settings.seed.elim SettingValue.absent SettingValue.integer = .absent
  rw [none]
  rfl

theorem Draft.standard_eq : Draft.standard = Settings.draft {} := by
  funext name
  cases name <;> rfl

namespace Draft

variable {draft : Draft} {name : SettingName}

theorem positive_of_eq {limit : Nat} (entry : draft name = .integer limit)
    (positive : 0 < limit) : draft.positive name = .ok ⟨limit, positive⟩ := by
  unfold Draft.positive
  rw [entry]
  exact dif_pos positive

theorem eq_of_positive {limit : { n : Nat // 0 < n }} (checked : draft.positive name = .ok limit) :
    draft name = .integer limit.val := by
  unfold Draft.positive at checked
  split at checked
  · rename_i value entry
    split at checked
    · cases checked
      rw [entry]
      exact congrArg SettingValue.integer (Int.toNat_of_nonneg (by omega)).symm
    · cases checked
  · cases checked

theorem fault_of_positive {fault : SettingFault} (refused : draft.positive name = .error fault) :
    fault = .notPositive name (draft name) ∧
      ∀ value : Int, draft name = .integer value → value ≤ 0 := by
  unfold Draft.positive at refused
  split at refused
  · rename_i value entry
    split at refused
    · cases refused
    · cases refused
      rw [entry]
      refine ⟨rfl, fun other same => ?_⟩
      cases same
      omega
  · rename_i other
    cases refused
    exact ⟨rfl, fun value entry => absurd entry (other value)⟩

end Draft

theorem Settings.settings_draft (settings : Settings) : settings.draft.settings = .ok settings := by
  have rerolls : settings.draft.positive .maxRerolls = _ :=
    Draft.positive_of_eq rfl settings.maxRerolls_pos
  have length : settings.draft.positive .maxExpressionLength = _ :=
    Draft.positive_of_eq rfl settings.maxExpressionLength_pos
  have size : settings.draft.positive .cacheSize = _ :=
    Draft.positive_of_eq rfl settings.cacheSize_pos
  have time : settings.draft.positive .maxExecutionTime = _ :=
    Draft.positive_of_eq rfl settings.maxExecutionTime_pos
  have multiplier : settings.draft.positive .explodeMultiplier = _ :=
    Draft.positive_of_eq rfl settings.explodeMultiplier_pos
  have seed : (settings.draft .seed).seed? = settings.seed := by
    show (settings.seed.elim SettingValue.absent SettingValue.integer).seed? = settings.seed
    cases settings.seed with
    | none => rfl
    | some value => rfl
  rw [Draft.settings, rerolls, length, size, time, multiplier, seed]
  rfl

theorem Draft.entries_of_settings {draft : Draft} {settings : Settings}
    (made : draft.settings = .ok settings) :
    (∀ name ∈ limitSettings, draft name = settings.draft name) ∧
      (draft .enableCaching).isTrue = settings.enableCaching ∧
      (draft .seed).seed? = settings.seed := by
  obtain ⟨⟨_, _⟩, rerolls, made⟩ := ok_of_bind made
  obtain ⟨⟨_, _⟩, length, made⟩ := ok_of_bind made
  obtain ⟨⟨_, _⟩, size, made⟩ := ok_of_bind made
  obtain ⟨⟨_, _⟩, time, made⟩ := ok_of_bind made
  obtain ⟨⟨_, _⟩, multiplier, made⟩ := ok_of_bind made
  cases made
  refine ⟨?_, rfl, rfl⟩
  simp only [limitSettings, List.forall_mem_cons]
  exact ⟨eq_of_positive rerolls, eq_of_positive length, eq_of_positive size, eq_of_positive time,
    eq_of_positive multiplier, by simp⟩

theorem Draft.fault_of_settings {draft : Draft} {fault : SettingFault}
    (refused : draft.settings = .error fault) :
    ∃ name ∈ limitSettings, draft.positive name = .error fault := by
  rcases error_of_bind refused with failed | ⟨_, _, refused⟩
  · exact ⟨.maxRerolls, by decide, failed⟩
  rcases error_of_bind refused with failed | ⟨_, _, refused⟩
  · exact ⟨.maxExpressionLength, by decide, failed⟩
  rcases error_of_bind refused with failed | ⟨_, _, refused⟩
  · exact ⟨.cacheSize, by decide, failed⟩
  rcases error_of_bind refused with failed | ⟨_, _, refused⟩
  · exact ⟨.maxExecutionTime, by decide, failed⟩
  rcases error_of_bind refused with failed | ⟨_, _, refused⟩
  · exact ⟨.explodeMultiplier, by decide, failed⟩
  cases refused

end DiceFormula
