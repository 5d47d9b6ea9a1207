import DiceFormula.Proofs.Roll.Telling

namespace DiceFormula

namespace TranscriptOptions

def everything : TranscriptOptions where
  includeTimestamps := true
  verbose := true

def keeps (options : TranscriptOptions) : StepKind → Bool
  | .tokenization => options.includeTokenization
  | .parsing => options.includeParsing
  | .evaluation => options.includeIntermediateSteps
  | .parentheses => options.includeIntermediateSteps
  | _ => true

def explains (options : TranscriptOptions) (kind : StepKind) : Bool :=
  if kind.isTerm then options.includeDiceDetails else options.verbose

/-- What is left of steps that tell everything, numbered anew. -/
def trim (options : TranscriptOptions) (steps : List Step) : List Step :=
  (steps.filter fun step => options.keeps step.kind).mapIdx fun index step =>
    { step with
      number := index + 1
      details := step.details.filter fun _ => options.explains step.kind }

variable {options : TranscriptOptions} {step : Step}

theorem trim_concat_kept (kept : options.keeps step.kind = true) (steps : List Step) :
    options.trim (steps ++ [step]) = options.trim steps ++ [{ step with
      number := (options.trim steps).length + 1
      details := step.details.filter fun _ => options.explains step.kind }] := by
  have chosen : [step].filter (fun step => options.keeps step.kind) = [step] :=
    List.filter_cons_of_pos kept
  rw [trim, List.filter_append, chosen, List.mapIdx_concat, trim, List.length_mapIdx]

theorem trim_concat_dropped (dropped : options.keeps step.kind = false) (steps : List Step) :
    options.trim (steps ++ [step]) = options.trim steps := by
  have chosen : [step].filter (fun step => options.keeps step.kind) = [] :=
    List.filter_cons_of_neg (ne_true_of_eq_false dropped)
  rw [trim, List.filter_append, chosen, List.append_nil, trim]

end TranscriptOptions

def Recorder.trim (options : TranscriptOptions) (recorder : Recorder) : Recorder where
  subject := recorder.subject
  options := options
  steps := (options.trim recorder.steps.toList).toArray
  tokens := if options.includeTokenization then recorder.tokens else []
  parsing := if options.includeParsing then recorder.parsing else ""
  result := recorder.result

namespace Recorder

variable {options : TranscriptOptions} {recorder : Recorder} {kind : StepKind}

theorem trim_add_kept (kept : options.keeps kind = true) (recorder : Recorder)
    (description : String) (value : Int) (details : Option String) (rolls : Option (List Int))
    (expr : Option Expr) :
    (recorder.add kind description value details rolls expr).trim options =
      (recorder.trim options).add kind description value
        (details.filter fun _ => options.explains kind) rolls expr := by
  have told (number : Nat) :
      (options.trim (recorder.steps.push
        ⟨number, kind, description, value, details, rolls, expr⟩).toList).toArray =
      (recorder.trim options).steps.push ⟨(recorder.trim options).steps.size + 1, kind,
        description, value, details.filter fun _ => options.explains kind, rolls, expr⟩ := by
    rw [Array.toList_push, TranscriptOptions.trim_concat_kept kept, ← List.push_toArray]
    rfl
  exact congrArg (fun steps => { recorder.trim options with steps := steps }) (told _)

theorem trim_add_dropped (dropped : options.keeps kind = false) (recorder : Recorder)
    (description : String) (value : Int) (details : Option String) (rolls : Option (List Int))
    (expr : Option Expr) :
    (recorder.add kind description value details rolls expr).trim options =
      recorder.trim options := by
  unfold add trim
  rw [Array.toList_push, TranscriptOptions.trim_concat_dropped dropped]

theorem trim_add_detailed (whole : recorder.options = .everything) (term : kind.isTerm = true)
    (description : String) (value : Int) (details : String) (rolls : Option (List Int))
    (expr : Option Expr) :
    (recorder.add kind description value (recorder.whenDetailed details) rolls expr).trim options =
      (recorder.trim options).add kind description value
        ((recorder.trim options).whenDetailed details) rolls expr := by
  have kept : options.keeps kind = true := by
    cases kind with
    | diceRoll => rfl
    | conditional => rfl
    | reroll => rfl
    | _ => cases term
  have everything : recorder.whenDetailed details = some details := by
    rw [whenDetailed, whole]
    rfl
  rw [trim_add_kept kept, everything, TranscriptOptions.explains, if_pos term]
  rfl

theorem trim_add_verbose (whole : recorder.options = .everything) (other : kind.isTerm = false)
    (kept : options.keeps kind = true) (description : String) (value : Int) (details : String)
    (rolls : Option (List Int)) (expr : Option Expr) :
    (recorder.add kind description value (recorder.whenVerbose details) rolls expr).trim options =
      (recorder.trim options).add kind description value
        ((recorder.trim options).whenVerbose details) rolls expr := by
  have everything : recorder.whenVerbose details = some details := by
    rw [whenVerbose, whole]
    rfl
  rw [trim_add_kept kept, everything, TranscriptOptions.explains,
    if_neg (ne_true_of_eq_false other)]
  rfl

theorem trim_gated {told later : Recorder} (whole : told.options = .everything)
    (other : kind.isTerm = false) (aloud : options.keeps kind = true → told.trim options = later)
    (silent : options.keeps kind = false → told.trim options = recorder.trim options)
    (description : String) (value : Int) (details : String) :
    (told.add kind description value (told.whenVerbose details) none none).trim options =
      if options.keeps kind then
        later.add kind description value (later.whenVerbose details) none none
      else recorder.trim options := by
  cases kept : options.keeps kind with
  | false =>
    rw [trim_add_dropped kept, silent kept]
    rfl
  | true =>
    rw [trim_add_verbose whole other kept, aloud kept]
    rfl

theorem trim_noteTokens (whole : recorder.options = .everything) (texts : List String) :
    (recorder.noteTokens texts).trim options = (recorder.trim options).noteTokens texts := by
  let told : Recorder := { recorder with tokens := texts }
  have noted : recorder.noteTokens texts = told.add .tokenization (Wording.tokens texts)
      texts.length (told.whenVerbose (Wording.tokensInDetail texts)) none none :=
    if_pos (by rw [whole]; rfl)
  have aloud (kept : options.keeps .tokenization = true) :
      told.trim options = { recorder.trim options with tokens := texts } := by
    have included : options.includeTokenization = true := kept
    unfold trim
    rw [included]
    rfl
  have silent (dropped : options.keeps .tokenization = false) :
      told.trim options = recorder.trim options := by
    have excluded : options.includeTokenization = false := dropped
    unfold trim
    rw [excluded]
    rfl
  have everything : told.options = .everything := whole
  rw [noted]
  exact trim_gated everything rfl aloud silent _ _ _

theorem trim_noteParsing (whole : recorder.options = .everything) (description : String)
    (count : Int) :
    (recorder.noteParsing description count).trim options =
      (recorder.trim options).noteParsing description count := by
  let told : Recorder := { recorder with parsing := description }
  have noted : recorder.noteParsing description count = told.add .parsing
      (Wording.parsing description) count
      (told.whenVerbose (Wording.parsingInDetail count)) none none :=
    if_pos (by rw [whole]; rfl)
  have aloud (kept : options.keeps .parsing = true) :
      told.trim options = { recorder.trim options with parsing := description } := by
    have included : options.includeParsing = true := kept
    unfold trim
    rw [included]
    rfl
  have silent (dropped : options.keeps .parsing = false) :
      told.trim options = recorder.trim options := by
    have excluded : options.includeParsing = false := dropped
    unfold trim
    rw [excluded]
    rfl
  have everything : told.options = .everything := whole
  rw [noted]
  exact trim_gated everything rfl aloud silent _ _ _

theorem trim_noteGroup (whole : recorder.options = .everything) (value : Int) :
    (recorder.noteGroup value).trim options = (recorder.trim options).noteGroup value := by
  have noted : recorder.noteGroup value =
      recorder.add .parentheses (Wording.parentheses value) value none none none :=
    if_pos (by rw [whole]; rfl)
  rw [noted]
  cases included : options.includeIntermediateSteps with
  | false =>
    have dropped : options.keeps .parentheses = false := included
    rw [trim_add_dropped dropped]
    exact (if_neg (ne_true_of_eq_false included)).symm
  | true =>
    have kept : options.keeps .parentheses = true := included
    rw [trim_add_kept kept]
    exact (if_pos included).symm

theorem trim_noteResult (recorder : Recorder) (value : Int) :
    (recorder.noteResult value).trim options = (recorder.trim options).noteResult value :=
  trim_add_kept rfl { recorder with result := some value } _ _ _ _ _

/-- The second account tells everything, and the first is what is left of it. -/
structure Trims (options : TranscriptOptions) (one two : Recorder) : Prop where
  whole : two.options = .everything
  trimmed : one = two.trim options

namespace Trims

variable {one two : Recorder}

theorem noteTokens (trims : one.Trims options two) (texts : List String) :
    (one.noteTokens texts).Trims options (two.noteTokens texts) := by
  obtain ⟨whole, rfl⟩ := trims
  exact ⟨(options_noteTokens two texts).trans whole, (trim_noteTokens whole texts).symm⟩

theorem noteParsing (trims : one.Trims options two) (description : String) (count : Int) :
    (one.noteParsing description count).Trims options (two.noteParsing description count) := by
  obtain ⟨whole, rfl⟩ := trims
  exact ⟨(options_noteParsing two description count).trans whole,
    (trim_noteParsing whole description count).symm⟩

theorem noteNode (trims : one.Trims options two) {e : Expr} {activity : String}
    (known : e.activity = .ok activity) (value : Int) :
    Noted (Trims options) (one.noteNode e value) (two.noteNode e value) := by
  obtain ⟨whole, rfl⟩ := trims
  have included : two.options.includeIntermediateSteps = true := by rw [whole]; rfl
  have same : (two.trim options).options = options := rfl
  unfold Recorder.noteNode
  rw [known, if_pos included, same]
  cases told : options.includeIntermediateSteps with
  | false =>
    have dropped : options.keeps .evaluation = false := told
    exact .ok ⟨whole, (trim_add_dropped dropped two _ _ _ _ _).symm⟩
  | true =>
    have kept : options.keeps .evaluation = true := told
    exact .ok ⟨whole, (trim_add_verbose whole rfl kept ..).symm⟩

theorem noteOperation (trims : one.Trims options two) (operator : Operator)
    (left right value : Int) :
    Noted (Trims options) (one.noteOperation operator left right value)
      (two.noteOperation operator left right value) := by
  obtain ⟨whole, rfl⟩ := trims
  unfold Recorder.noteOperation
  split
  · exact .ok ⟨whole, (trim_add_verbose whole rfl rfl ..).symm⟩
  · exact .error _

end Trims

theorem inStep_trims : InStep (Trims options) where
  noteTerm kind term _ _ _ _ _ one two trims := by
    obtain ⟨whole, rfl⟩ := trims
    exact ⟨whole, (trim_add_detailed whole term ..).symm⟩
  noteGroup value one two trims := by
    obtain ⟨whole, rfl⟩ := trims
    exact ⟨(options_noteGroup two value).trans whole, (trim_noteGroup whole value).symm⟩
  noteNode _ _ known value _ _ trims := trims.noteNode known value
  noteOperation operator left right value _ _ trims := trims.noteOperation operator left right value

end Recorder

def Transcript.trim (options : TranscriptOptions) (transcript : Transcript) : Transcript where
  subject := transcript.subject
  tokens := if options.includeTokenization then transcript.tokens else []
  parsing := if options.includeParsing then transcript.parsing else ""
  steps := options.trim transcript.steps
  result := transcript.result
  elapsed := transcript.elapsed
  options := options

def Transcript.untimed (transcript : Transcript) : Transcript := { transcript with elapsed := none }

theorem Recorder.Trims.transcript {options : TranscriptOptions} {one two : Recorder}
    (trims : one.Trims options two) (value : Int) (elapsed other : Option Float) :
    ((one.noteResult value).transcript elapsed).untimed =
      (((two.noteResult value).transcript other).trim options).untimed := by
  obtain ⟨_, rfl⟩ := trims
  rw [← trim_noteResult]
  rfl

end DiceFormula
