import DiceFormula.Proofs.Settings.Draft
import DiceFormula.Proofs.Text.Numeral
import DiceFormula.Settings.Environment

namespace DiceFormula

theorem integer_of_limit : ∀ name ∈ limitSettings, name ∈ integerSettings := by
  decide

theorem Settings.draft_cases (settings : Settings) (name : SettingName) :
    (name ∈ integerSettings ∧ ∃ value, settings.draft name = .integer value) ∨
      (name = .seed ∧ settings.seed = none) ∨ name = .enableCaching := by
  cases name with
  | enableCaching => exact .inr (.inr rfl)
  | seed =>
    cases chosen : settings.seed with
    | none => exact .inr (.inl ⟨rfl, rfl⟩)
    | some value =>
      refine .inl ⟨by decide, value, ?_⟩
      show settings.seed.elim SettingValue.absent SettingValue.integer = _
      rw [chosen]
      rfl
  | _ => exact .inl ⟨by decide, _, rfl⟩

def allSettings : List SettingName := integerSettings ++ [.enableCaching]

theorem mem_allSettings (name : SettingName) : name ∈ allSettings := by
  cases name <;> decide

def SettingName.read (name : SettingName) (raw : String) : Except SettingFault SettingValue :=
  match name with
  | .enableCaching => (readTruthSetting .enableCaching raw).map .truth
  | name => (readIntegerSetting name raw).map .integer

theorem SettingName.read_of_number {name : SettingName} (number : name ∈ integerSettings)
    (raw : String) : name.read raw = (readIntegerSetting name raw).map .integer := by
  cases name with
  | enableCaching => exact absurd number (by decide)
  | _ => rfl

theorem readIntegerSetting_eq_ok_iff {name : SettingName} {raw : String} {value : Int} :
    readIntegerSetting name raw = .ok value ↔ Text.readInteger? raw.toList = some value := by
  unfold readIntegerSetting
  cases Text.readInteger? raw.toList with
  | none => simp
  | some other => simp

theorem readIntegerSetting_eq_error_iff {name : SettingName} {raw : String}
    {fault : SettingFault} :
    readIntegerSetting name raw = .error fault ↔
      fault = .notInteger name raw ∧ Text.readInteger? raw.toList = none := by
  unfold readIntegerSetting
  cases Text.readInteger? raw.toList with
  | none => simp [eq_comm]
  | some other => simp

def wordsFor (value : Bool) : List String :=
  if value then trueWords else falseWords

theorem isSmall_of_listed {value : Bool} :
    ∀ word ∈ wordsFor value, Text.IsSmall word.toList ∧ word.toList ≠ [] := by
  cases value with
  | true => decide
  | false => decide

theorem readTruthSetting_of_listed {name : SettingName} {raw word : String} {value : Bool}
    (lowered : Text.lowerAscii (Text.trim raw.toList) = word.toList)
    (listed : word ∈ wordsFor value) : readTruthSetting name raw = .ok value := by
  have apart : ∀ word ∈ falseWords, trueWords.contains word ≠ true := by decide
  rw [readTruthSetting, lowered, String.ofList_toList]
  cases value with
  | true => exact if_pos (List.contains_iff_mem.mpr listed)
  | false => exact (if_neg (apart word listed)).trans (if_pos (List.contains_iff_mem.mpr listed))

theorem readTruthSetting_eq_error_iff {name : SettingName} {raw : String} {fault : SettingFault} :
    readTruthSetting name raw = .error fault ↔
      fault = .notBoolean name raw ∧
        ∀ word ∈ trueWords ++ falseWords,
          Text.lowerAscii (Text.trim raw.toList) ≠ word.toList := by
  constructor
  · intro failed
    unfold readTruthSetting at failed
    dsimp only at failed
    split at failed
    · cases failed
    split at failed
    · cases failed
    rename_i noTrue noFalse
    cases failed
    refine ⟨rfl, fun word listed same => ?_⟩
    rw [same, String.ofList_toList, List.contains_iff_mem] at noTrue noFalse
    exact (List.mem_append.mp listed).elim noTrue noFalse
  · rintro ⟨rfl, unlisted⟩
    have absent : ∀ word ∈ trueWords ++ falseWords,
        String.ofList (Text.lowerAscii (Text.trim raw.toList)) ≠ word := by
      rintro word listed rfl
      exact unlisted _ listed String.toList_ofList.symm
    have noTrue : ¬ trueWords.contains (String.ofList (Text.lowerAscii (Text.trim raw.toList))) :=
      fun listed => absent _ (List.mem_append_left _ (List.contains_iff_mem.mp listed)) rfl
    have noFalse : ¬ falseWords.contains (String.ofList (Text.lowerAscii (Text.trim raw.toList))) :=
      fun listed => absent _ (List.mem_append_right _ (List.contains_iff_mem.mp listed)) rfl
    rw [readTruthSetting, if_neg noTrue, if_neg noFalse]

/-- A variable that is not stated leaves the value as it is, one that is stated puts its own in the
    place of it. -/
inductive Environment.Enters (environment : Environment) (name : SettingName)
    (before : SettingValue) : SettingValue → Prop
  | unstated (none : environment.stated? name.variable = none) :
      Enters environment name before before
  | stated {raw : String} {value : SettingValue}
      (stated : environment.stated? name.variable = some raw) (read : name.read raw = .ok value) :
      Enters environment name before value

theorem Environment.Enters.read_eq {environment : Environment} {name : SettingName}
    {before after : SettingValue} {raw : String} (enters : environment.Enters name before after)
    (stated : environment.stated? name.variable = some raw) : name.read raw = .ok after := by
  cases enters with
  | unstated none =>
    rw [none] at stated
    cases stated
  | stated same read =>
    rw [same] at stated
    cases stated
    exact read

namespace Draft

variable {environment : Environment} {before after : Draft} {name : SettingName}

theorem set_self (draft : Draft) (name : SettingName) : draft.set name (draft name) = draft := by
  funext other
  unfold set
  split
  · rename_i same
    rw [same]
  · rfl

def enter (environment : Environment) (draft : Draft) (name : SettingName) :
    Except SettingFault Draft :=
  match environment.stated? name.variable with
  | none => .ok draft
  | some raw => (name.read raw).map (draft.set name)

theorem readInteger_eq (draft : Draft) (number : name ∈ integerSettings) :
    draft.readInteger environment name = draft.enter environment name := by
  unfold readInteger enter
  cases environment.stated? name.variable with
  | none => rfl
  | some raw =>
    dsimp only
    rw [SettingName.read_of_number number]
    cases readIntegerSetting name raw <;> rfl

theorem readTruth_eq (draft : Draft) :
    draft.readTruth environment .enableCaching = draft.enter environment .enableCaching := by
  unfold readTruth enter
  cases environment.stated? SettingName.enableCaching.variable with
  | none => rfl
  | some raw =>
    dsimp only [SettingName.read]
    cases readTruthSetting .enableCaching raw <;> rfl

theorem enter_eq_ok_iff :
    before.enter environment name = .ok after ↔
      ∃ value, environment.Enters name (before name) value ∧ after = before.set name value := by
  unfold enter
  constructor
  · intro entered
    split at entered
    · rename_i none
      cases entered
      exact ⟨before name, .unstated none, (set_self before name).symm⟩
    · rename_i raw stated
      obtain ⟨value, read, same⟩ := ok_of_map entered
      exact ⟨value, .stated stated read, same.symm⟩
  · rintro ⟨value, enters, rfl⟩
    cases enters with
    | unstated none => rw [none, set_self]
    | stated stated read =>
      rw [stated]
      dsimp only
      rw [read]
      rfl

theorem enter_error {fault : SettingFault}
    (failed : before.enter environment name = .error fault) :
    ∃ raw, environment.stated? name.variable = some raw ∧ name.read raw = .error fault := by
  unfold enter at failed
  split at failed
  · cases failed
  · rename_i raw stated
    exact ⟨raw, stated, error_of_map failed⟩

theorem foldlM_enter_eq_ok_iff {names : List SettingName} (nodup : names.Nodup) :
    names.foldlM (enter environment) before = .ok after ↔
      (∀ name ∈ names, environment.Enters name (before name) (after name)) ∧
        ∀ name, name ∉ names → after name = before name := by
  induction names generalizing before with
  | nil =>
    constructor
    · rintro ⟨⟩
      simp
    · rintro ⟨_, same⟩
      have unchanged : after = before := funext fun name => same name List.not_mem_nil
      rw [unchanged]
      rfl
  | cons first rest ih =>
    obtain ⟨new, distinct⟩ := List.nodup_cons.mp nodup
    have step : ∀ value, (rest.foldlM (enter environment) (before.set first value) = .ok after ↔
        (∀ name ∈ rest, environment.Enters name (before name) (after name)) ∧
          ∀ name, name ∉ rest → after name = before.set first value name) := by
      intro value
      rw [ih distinct]
      refine and_congr_left fun _ => forall₂_congr fun name member => ?_
      have other : name ≠ first := fun same => new (same ▸ member)
      rw [set, if_neg other]
    rw [List.foldlM_cons, List.forall_mem_cons]
    constructor
    · intro done
      obtain ⟨middle, entered, done⟩ := ok_of_bind done
      obtain ⟨value, enters, rfl⟩ := enter_eq_ok_iff.mp entered
      obtain ⟨others, kept⟩ := (step value).mp done
      have found : after first = value := by rw [kept first new, set, if_pos rfl]
      refine ⟨⟨found ▸ enters, others⟩, fun name absent => ?_⟩
      rw [List.mem_cons, not_or] at absent
      rw [kept name absent.2, set, if_neg absent.1]
    · rintro ⟨⟨enters, others⟩, kept⟩
      have entered := enter_eq_ok_iff.mpr ⟨after first, enters, rfl⟩
      rw [entered, ok_bind]
      refine (step (after first)).mpr ⟨others, fun name absent => ?_⟩
      unfold set
      split
      · rename_i same
        rw [same]
      · rename_i other
        exact kept name fun member => (List.mem_cons.mp member).elim other absent

theorem foldlM_enter_error {names : List SettingName} {fault : SettingFault}
    (failed : names.foldlM (enter environment) before = .error fault) :
    ∃ name ∈ names, ∃ raw,
      environment.stated? name.variable = some raw ∧ name.read raw = .error fault := by
  induction names generalizing before with
  | nil => cases failed
  | cons first rest ih =>
    rw [List.foldlM_cons] at failed
    rcases error_of_bind failed with failed | ⟨middle, _, failed⟩
    · exact ⟨first, List.mem_cons_self, enter_error failed⟩
    · obtain ⟨name, member, found⟩ := ih failed
      exact ⟨name, List.mem_cons_of_mem first member, found⟩

end Draft

theorem Settings.ofEnvironment_eq (environment : Environment) :
    Settings.ofEnvironment environment =
      (allSettings.foldlM (Draft.enter environment) Draft.standard >>= Draft.settings) := by
  have numbers : integerSettings.foldlM (Draft.readInteger environment) Draft.standard =
      integerSettings.foldlM (Draft.enter environment) Draft.standard := by
    simp (disch := decide) only [integerSettings, List.foldlM_cons, List.foldlM_nil,
      Draft.readInteger_eq]
  rw [allSettings, List.foldlM_append, ← numbers, bind_assoc, Settings.ofEnvironment]
  congr
  funext draft
  rw [Draft.readTruth_eq]
  simp only [List.foldlM_cons, List.foldlM_nil, bind_pure]

namespace Environment

variable {environment : Environment}

theorem stated_of_padded {variableName raw : String} {core : List Char}
    (found : environment.find? variableName = some raw) (padded : Text.Padded core raw)
    (nonempty : core ≠ []) (visible : ∀ c ∈ core, Text.isBlank c = false) :
    environment.stated? variableName = some raw := by
  have written := Text.not_blank_of_padded padded nonempty visible
  rw [stated?, found, Option.filter_some, written]
  rfl

/-- The numbers under their variables in decimal digits, caching as one of the words for it, with
    any blanks around them. -/
structure Gives (environment : Environment) (settings : Settings) : Prop where
  numbers : ∀ name value, settings.draft name = .integer value →
    ∃ raw, environment.find? name.variable = some raw ∧
      Text.Padded (toString value).toList raw
  seedless : settings.seed = none → ∀ raw,
    environment.find? SettingName.seed.variable = some raw → raw.toList.all Text.isBlank = true
  caching : ∃ word ∈ wordsFor settings.enableCaching, ∃ spelled raw,
    environment.find? SettingName.enableCaching.variable = some raw ∧
      Text.SpelledAs word.toList spelled ∧ Text.Padded spelled raw

theorem Gives.enters {settings : Settings} (gives : environment.Gives settings)
    (writable : ∀ name value, settings.draft name = .integer value → Text.isWritable value = true)
    (name : SettingName) :
    environment.Enters name (Draft.standard name) (settings.draft name) := by
  rcases settings.draft_cases name with ⟨number, value, entry⟩ | ⟨rfl, none⟩ | rfl
  · obtain ⟨raw, found, padded⟩ := gives.numbers name value entry
    have stated := stated_of_padded found padded (Text.toString_ne_nil value)
      (Text.visible_toString value)
    have read : readIntegerSetting name raw = .ok value :=
      readIntegerSetting_eq_ok_iff.mpr
        (Text.readInteger_of_padded (writable name value entry) padded)
    rw [entry]
    apply Enters.stated stated
    rw [SettingName.read_of_number number, read]
    rfl
  · rw [Settings.draft_seed none]
    apply Enters.unstated
    apply Option.filter_eq_none_iff.mpr
    intro raw found
    rw [gives.seedless none raw found]
    decide
  · obtain ⟨word, listed, spelled, raw, found, spells, padded⟩ := gives.caching
    obtain ⟨small, nonempty⟩ := isSmall_of_listed word listed
    have visible := Text.visible_of_spelledAs small spells
    have unempty := Text.spelled_ne_nil nonempty spells
    have lowered : Text.lowerAscii (Text.trim raw.toList) = word.toList := by
      rw [Text.trim_of_padded padded unempty visible, Text.lowerAscii_of_spelledAs small spells]
    have read : readTruthSetting .enableCaching raw = .ok settings.enableCaching :=
      readTruthSetting_of_listed lowered listed
    apply Enters.stated (stated_of_padded found padded unempty visible)
    rw [SettingName.read, read]
    rfl

/-- A text in the environment that the fault is about, and that is not a number, not a word for yes
    or no, or not a positive number. A number that is shown is short enough to be written. -/
inductive Faulty (environment : Environment) : SettingFault → Prop
  | notInteger {name : SettingName} {raw : String} (number : name ∈ integerSettings)
      (stated : environment.stated? name.variable = some raw)
      (unread : Text.readInteger? raw.toList = none) : Faulty environment (.notInteger name raw)
  | notBoolean {raw : String}
      (stated : environment.stated? SettingName.enableCaching.variable = some raw)
      (unlisted : ∀ word ∈ trueWords ++ falseWords,
        Text.lowerAscii (Text.trim raw.toList) ≠ word.toList) :
      Faulty environment (.notBoolean .enableCaching raw)
  | notPositive {name : SettingName} {raw : String} {value : Int} (limit : name ∈ limitSettings)
      (stated : environment.stated? name.variable = some raw)
      (read : Text.readInteger? raw.toList = some value) (low : value ≤ 0)
      (writable : Text.isWritable value = true) :
      Faulty environment (.notPositive name (.integer value))

theorem enters_all_iff {draft : Draft} :
    allSettings.foldlM (Draft.enter environment) Draft.standard = .ok draft ↔
      ∀ name, environment.Enters name (Draft.standard name) (draft name) := by
  rw [Draft.foldlM_enter_eq_ok_iff (by decide)]
  constructor
  · rintro ⟨enters, _⟩ name
    exact enters name (mem_allSettings name)
  · intro enters
    exact ⟨fun name _ => enters name, fun name absent => absurd (mem_allSettings name) absent⟩

theorem Enters.number_cases {name : SettingName} {before after : SettingValue}
    (number : name ∈ integerSettings) (enters : environment.Enters name before after) :
    after = before ∨ ∃ raw n, environment.stated? name.variable = some raw ∧
      Text.readInteger? raw.toList = some n ∧ after = .integer n := by
  cases enters with
  | unstated none => exact .inl rfl
  | stated stated read =>
    rw [SettingName.read_of_number number] at read
    obtain ⟨n, read, same⟩ := ok_of_map read
    exact .inr ⟨_, n, stated, readIntegerSetting_eq_ok_iff.mp read, same.symm⟩

theorem Enters.truth {before : Bool} {value : SettingValue}
    (enters : environment.Enters .enableCaching (.truth before) value) :
    ∃ after, value = .truth after := by
  cases enters with
  | unstated none => exact ⟨before, rfl⟩
  | stated stated read =>
    obtain ⟨after, _, same⟩ := ok_of_map read
    exact ⟨after, same.symm⟩

theorem draft_eq {draft : Draft} {settings : Settings}
    (enters : ∀ name, environment.Enters name (Draft.standard name) (draft name))
    (made : draft.settings = .ok settings) : draft = settings.draft := by
  obtain ⟨limits, caching, seed⟩ := Draft.entries_of_settings made
  have seeds : draft .seed = settings.draft .seed := by
    rw [Settings.draft, ← seed]
    rcases (enters .seed).number_cases (by decide) with entry | ⟨_, n, _, _, entry⟩
    · rw [entry]
      rfl
    · rw [entry]
      rfl
  have caches : draft .enableCaching = settings.draft .enableCaching := by
    obtain ⟨after, entry⟩ := (enters .enableCaching).truth
    rw [Settings.draft, ← caching, entry]
    rfl
  funext name
  cases name with
  | seed => exact seeds
  | enableCaching => exact caches
  | _ => exact limits _ (by decide)

end Environment

theorem Settings.ofEnvironment_eq_ok_iff {environment : Environment} {settings : Settings} :
    Settings.ofEnvironment environment = .ok settings ↔
      ∀ name, environment.Enters name (Draft.standard name) (settings.draft name) := by
  rw [Settings.ofEnvironment_eq]
  constructor
  · intro done
    obtain ⟨draft, entered, made⟩ := ok_of_bind done
    have enters := Environment.enters_all_iff.mp entered
    rw [← Environment.draft_eq enters made]
    exact enters
  · intro enters
    rw [Environment.enters_all_iff.mpr enters, ok_bind, settings_draft]

theorem Settings.faulty_of_ofEnvironment {environment : Environment} {fault : SettingFault}
    (failed : Settings.ofEnvironment environment = .error fault) : environment.Faulty fault := by
  rw [ofEnvironment_eq] at failed
  rcases error_of_bind failed with failed | ⟨draft, entered, failed⟩
  · obtain ⟨name, member, raw, stated, failed⟩ := Draft.foldlM_enter_error failed
    rcases List.mem_append.mp member with number | caching
    · rw [SettingName.read_of_number number] at failed
      obtain ⟨rfl, unread⟩ := readIntegerSetting_eq_error_iff.mp (error_of_map failed)
      exact .notInteger number stated unread
    · obtain rfl := List.mem_singleton.mp caching
      obtain ⟨rfl, unlisted⟩ := readTruthSetting_eq_error_iff.mp (error_of_map failed)
      exact .notBoolean stated unlisted
  · have enters := Environment.enters_all_iff.mp entered
    obtain ⟨name, limit, refused⟩ := Draft.fault_of_settings failed
    obtain ⟨rfl, low⟩ := Draft.fault_of_positive refused
    rcases (enters name).number_cases (integer_of_limit name limit) with
      entry | ⟨raw, value, stated, read, entry⟩
    · obtain ⟨standard, positive, least⟩ := ({} : Settings).positive_draft name limit
      rw [← Draft.standard_eq, ← entry] at positive
      have := low standard positive
      omega
    · rw [entry]
      exact .notPositive limit stated read (low value entry) (Text.isWritable_of_readInteger read)

theorem Settings.not_faulty_of_ofEnvironment {environment : Environment} {settings : Settings}
    (done : Settings.ofEnvironment environment = .ok settings) (fault : SettingFault) :
    ¬ environment.Faulty fault := by
  have enters := ofEnvironment_eq_ok_iff.mp done
  intro faulty
  cases faulty with
  | notInteger number stated unread =>
    have read := (enters _).read_eq stated
    rw [SettingName.read_of_number number] at read
    obtain ⟨value, read, _⟩ := ok_of_map read
    rw [readIntegerSetting_eq_ok_iff.mp read] at unread
    cases unread
  | notBoolean stated unlisted =>
    have read := (enters _).read_eq stated
    obtain ⟨value, read, _⟩ := ok_of_map read
    rw [readTruthSetting_eq_error_iff.mpr ⟨rfl, unlisted⟩] at read
    cases read
  | @notPositive name raw value limit stated read low writable =>
    obtain ⟨least, entry, positive⟩ := settings.positive_draft name limit
    have entered := (enters name).read_eq stated
    rw [SettingName.read_of_number (integer_of_limit name limit),
      readIntegerSetting_eq_ok_iff.mpr read, entry] at entered
    cases entered
    omega

theorem SettingFault.code_eq (fault : SettingFault) :
    fault.diagnosis.code = "VALIDATION_ERROR" := by
  cases fault <;> rfl

/-- Settings come back out of every environment that gives them. Whatever the environment, either
    what is not stated in it stands as it does without it, every limit is positive and no text is
    faulty, or the fault found is that of a text in it. -/
theorem Settings.restored_or_refused :
    (∀ (settings : Settings) (environment : Environment),
      (∀ name value, settings.draft name = .integer value → Text.isWritable value = true) →
      environment.Gives settings →
      Settings.ofEnvironment environment = .ok settings) ∧
    ∀ environment : Environment,
      (∃ settings, Settings.ofEnvironment environment = .ok settings ∧
        (1 ≤ settings.maxRerolls ∧ 1 ≤ settings.maxExpressionLength ∧ 1 ≤ settings.cacheSize ∧
          1 ≤ settings.maxExecutionTime ∧ 1 ≤ settings.explodeMultiplier) ∧
        (∀ name, environment.Enters name (Draft.standard name) (settings.draft name)) ∧
        ∀ fault, ¬ environment.Faulty fault) ∨
      ∃ fault, Settings.ofEnvironment environment = .error fault ∧
        fault.diagnosis.code = "VALIDATION_ERROR" ∧ environment.Faulty fault := by
  constructor
  · intro settings environment writable gives
    exact ofEnvironment_eq_ok_iff.mpr (gives.enters writable)
  · intro environment
    cases read : Settings.ofEnvironment environment with
    | ok settings =>
      refine .inl ⟨settings, rfl, ?_, ofEnvironment_eq_ok_iff.mp read,
        not_faulty_of_ofEnvironment read⟩
      exact ⟨settings.maxRerolls_pos, settings.maxExpressionLength_pos, settings.cacheSize_pos,
        settings.maxExecutionTime_pos, settings.explodeMultiplier_pos⟩
    | error fault =>
      exact .inr ⟨fault, rfl, fault.code_eq, faulty_of_ofEnvironment read⟩

theorem Settings.restored_from_padded_texts :
    let settings : Settings :=
      { maxRerolls := 7, maxExpressionLength := 80, cacheSize := 1, maxExecutionTime := 250,
        explodeMultiplier := 12, enableCaching := false, seed := some (-42) }
    let environment : Environment :=
      ⟨[("HOME", "/"), ("DICE_MAX_REROLLS", " 7\n"), ("DICE_MAX_EXPRESSION_LENGTH", "80"),
        ("DICE_CACHE_SIZE", "\t1"), ("DICE_MAX_EXECUTION_TIME", "250  "),
        ("DICE_EXPLODE_MULTIPLIER", "12"), ("DICE_SEED", "  -42 "), ("DICE_FACES", "six"),
        ("DICE_ENABLE_CACHING", " oFf\t")]⟩
    (∀ name value, settings.draft name = .integer value → Text.isWritable value = true) ∧
      environment.Gives settings ∧ Settings.ofEnvironment environment = .ok settings := by
  intro settings environment
  have writable : ∀ name value, settings.draft name = .integer value →
      Text.isWritable value = true := by
    intro name value entry
    cases name <;> cases entry <;> decide +kernel
  have gives : environment.Gives settings := by
    refine ⟨?_, nofun, ?_⟩
    · intro name value entry
      cases name with
      | maxRerolls =>
        cases entry
        exact ⟨" 7\n", rfl, [' '], ['\n'], rfl, rfl, by decide⟩
      | maxExpressionLength =>
        cases entry
        exact ⟨"80", rfl, [], [], rfl, rfl, by decide⟩
      | cacheSize =>
        cases entry
        exact ⟨"\t1", rfl, ['\t'], [], rfl, rfl, by decide⟩
      | maxExecutionTime =>
        cases entry
        exact ⟨"250  ", rfl, [], [' ', ' '], rfl, rfl, by decide⟩
      | explodeMultiplier =>
        cases entry
        exact ⟨"12", rfl, [], [], rfl, rfl, by decide⟩
      | seed =>
        cases entry
        exact ⟨"  -42 ", rfl, [' ', ' '], [' '], rfl, rfl, by decide⟩
      | enableCaching => cases entry
    · refine ⟨"off", by decide, ['o', 'F', 'f'], " oFf\t", rfl, ?_, [' '], ['\t'], rfl, rfl, rfl⟩
      show List.Forall₂ _ ['o', 'f', 'f'] ['o', 'F', 'f']
      simp
  exact ⟨writable, gives, restored_or_refused.1 settings environment writable gives⟩

end DiceFormula
