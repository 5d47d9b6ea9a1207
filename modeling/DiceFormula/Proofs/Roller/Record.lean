import DiceFormula.Proofs.Expr.Canonical
import DiceFormula.Proofs.Random.Face
import DiceFormula.Proofs.Roll.Account
import DiceFormula.Proofs.Roller.Outcome

namespace DiceFormula

theorem termsOf_add (recorder : Recorder) {kind : StepKind} (other : kind.isTerm = false)
    (description : String) (value : Int) (details : Option String) (rolls : Option (List Int))
    (expr : Option Expr) :
    termsOf (recorder.add kind description value details rolls expr).steps.toList =
      termsOf recorder.steps.toList := by
  rw [(recorder.extends_add kind description value details rolls expr).steps, termsOf_append]
  simp [termsOf, other]

theorem termsOf_noteTokens (recorder : Recorder) (texts : List String) :
    termsOf (recorder.noteTokens texts).steps.toList = termsOf recorder.steps.toList := by
  unfold Recorder.noteTokens
  split
  · exact termsOf_add _ rfl _ _ _ _ _
  · rfl

theorem termsOf_noteParsing (recorder : Recorder) (description : String) (count : Int) :
    termsOf (recorder.noteParsing description count).steps.toList =
      termsOf recorder.steps.toList := by
  unfold Recorder.noteParsing
  split
  · exact termsOf_add _ rfl _ _ _ _ _
  · rfl

theorem termsOf_noteResult (recorder : Recorder) (value : Int) :
    termsOf (recorder.noteResult value).steps.toList = termsOf recorder.steps.toList :=
  termsOf_add _ rfl _ _ _ _ _

namespace Roller

variable {settings : Settings} {roller : Roller} {text : String}

theorem termsOf_opening (text : String) (options : Option TranscriptOptions) (tokens : List Token)
    (e : Expr) (roller : Roller) :
    termsOf (roller.opening text options tokens e).steps.toList = [] := by
  rw [opening, termsOf_noteParsing, termsOf_noteTokens]
  rfl

theorem range_eq (sound : roller.Sound settings) (text : String) :
    ((range text).run roller).1 = (do
      let e ← Expr.ofText settings.maxExpressionLength text
      (e.bounds settings.explodeMultiplier).mapError .roll) := by
  have read : ((parse text none).run roller).1 = _ := sound.parse_eq text (by simp)
  have alike := RollsAlike.parse roller text none
  rw [range, run_bind, ← read]
  cases parsed : (parse text none).run roller with
  | mk result after =>
    rw [parsed] at alike
    cases result with
    | error fault => rfl
    | ok e =>
      dsimp only
      rw [run_boundsOf, alike.settings, sound.settled]
      rfl

theorem told_of_explained {options : Option TranscriptOptions} {given : Option Source}
    {outcome : Outcome} {transcript : Transcript} (sound : roller.Sound settings)
    (done : ((explainOutcome text options given).run roller).1 = .ok (outcome, transcript)) :
    ∃ e kept steps, Expr.ofText settings.maxExpressionLength text = .ok e ∧
      e.bounds settings.explodeMultiplier = .ok outcome.bounds ∧
      e.Told kept outcome.value steps outcome.rolls ∧
      termsOf transcript.steps = termsOf steps := by
  obtain ⟨elapsed, explained⟩ := explainOutcome_eq sound text options given
  rw [explained] at done
  obtain ⟨tokens, scanned, done⟩ := ok_of_bind done
  obtain ⟨e, parsed, done⟩ := ok_of_bind done
  obtain ⟨concluded, done, accounted⟩ := ok_of_map done
  obtain ⟨value, bounds, rolled, bounded, rfl⟩ := ok_of_conclude done
  cases accounted
  have read : Expr.ofText settings.maxExpressionLength text = .ok e := by
    rw [Expr.ofText, scanned]
    exact parsed
  rw [sound.settled] at bounded
  obtain ⟨later, steps, goes, extended, told⟩ := evaluate_told rfl rolled
  refine ⟨e, _, steps, read, bounded, told, ?_⟩
  let opened := roller.opening text options tokens e
  let left := roller.rolling e given (some opened)
  have account_eq : left.2.recorder = some later := goes
  show termsOf ((left.2.recorder.getD opened).noteResult value).steps.toList = _
  rw [account_eq, Option.getD_some, termsOf_noteResult, extended.steps, termsOf_append,
    termsOf_opening]
  rfl

theorem rollRecord_eq (sound : roller.Sound settings) (text : String) (seed : Int) :
    ((rollRecord text seed).run roller).1 = (do
      let (outcome, transcript) ←
        ((explainOutcome text none (some (Source.ofSeed seed))).run roller).1
      let e ← Expr.ofText settings.maxExpressionLength text
      return {
        text := text
        normalized := e.render
        seed := seed
        terms := termsOf transcript.steps
        rolls := outcome.rolls
        bounds := outcome.bounds
        total := outcome.value
        explanation := transcript.toText }) := by
  have after := (keeps_explainOutcome text none (some (Source.ofSeed seed)) roller sound).1
  rw [rollRecord, run_bind]
  cases explained : (explainOutcome text none (some (Source.ofSeed seed))).run roller with
  | mk result left =>
    rw [explained] at after
    cases result with
    | error fault => rfl
    | ok told =>
      have read : ((parse text none).run left).1 = _ := after.parse_eq text (by simp)
      dsimp only
      rw [run_bind, ok_bind, ← read]
      cases (parse text none).run left with
      | mk again last =>
        cases again with
        | error fault => rfl
        | ok e => rfl

/-- What is on record of a roll adds up. The terms tell of the dice of the formula one by one, in
    order, and the faces are cut up among them. With the subtotals in the place of the dice, the
    formula comes to the total. The bounds are those of the text, before and after. -/
theorem rollRecord_adds_up (roller : Roller) (reachable : roller.Reachable) (text : String)
    (seed : Int) (record : RollRecord)
    (done : ((rollRecord text seed).run roller).1 = .ok record) :
    ∃ e values, Expr.ofText roller.lengthLimit text = .ok e ∧
      Accounts e.dice record.terms record.rolls ∧
      e.Reckons (record.terms.map Term.subtotal) values record.total ∧
      ((range text).run roller).1 = .ok record.bounds ∧
      ((range text).run ((rollRecord text seed).run roller).2).1 = .ok record.bounds := by
  have later : ((rollRecord text seed).run roller).2.Sound roller.settings :=
    (keeps_rollRecord text seed roller reachable.sound).1
  rw [range_eq reachable.sound, range_eq later]
  rw [rollRecord_eq reachable.sound] at done
  obtain ⟨⟨outcome, transcript⟩, explained, done⟩ := ok_of_bind done
  obtain ⟨other, again, done⟩ := ok_of_bind done
  cases done
  obtain ⟨e, kept, steps, read, bounded, told, terms_eq⟩ :=
    told_of_explained reachable.sound explained
  obtain ⟨values, reckons, _⟩ := told.values
  have natural : ∀ pool ∈ e.pools, 0 ≤ pool.count := fun pool member =>
    Int.le_trans (by decide) ((canonical_of_ofText read).nodes.pools pool member).1.1
  have accounts := told.dice natural
  rw [← terms_eq] at reckons accounts
  have ranged : (e.bounds roller.settings.explodeMultiplier).mapError Fault.roll =
      .ok outcome.bounds := by rw [bounded]; rfl
  rw [read, ok_bind]
  exact ⟨e, values, read, accounts, reckons, ranged, ranged⟩

theorem rollRecord_adds_up_to_one :
    let roller := create {} {} none (.ofSeed 0) ⟨fun _ => 0, 0⟩
    let text := "(2d1 + 3d1>=1) / 2 - 1d1ro1"
    roller.Reachable ∧ ∃ record e values, ((rollRecord text 42).run roller).1 = .ok record ∧
      Expr.ofText roller.lengthLimit text = .ok e ∧
      Accounts e.dice record.terms record.rolls ∧
      e.Reckons (record.terms.map Term.subtotal) values record.total ∧
      record.total = 1 ∧ record.bounds = ⟨0, 1⟩ ∧
      ((range text).run roller).1 = .ok record.bounds := by
  intro roller text
  have reachable : roller.Reachable := .create _ _ _ _ _
  let tokens : List Token := (scanText roller.lengthLimit text).toOption.getD []
  let e : Expr := .binary .subtract
    (.binary .divide (.group (.binary .add (.atom (.dice ⟨2, 1⟩))
      (.atom (.conditional ⟨3, 1⟩ ⟨.greaterOrEqual, 1⟩)))) (.atom (.number 2)))
    (.atom (.reroll ⟨1, 1⟩ .once ⟨.equal, 1⟩))
  have scanned : scanText roller.settings.maxExpressionLength text = .ok tokens := by
    decide +kernel
  have parsed : parseTokens tokens = .ok e := by decide +kernel
  let recorder := roller.opening text none tokens e
  have ones : (roller.rolling e (some (.twosThenOnes 0 0)) (some recorder)).1 = .ok 1 := by
    decide +kernel
  have shown (source : Source) : (Supply.rollDie 1 source).1 = .ok 1 := by
    rw [Source.rollDie_eq]
    dsimp only
    exact source.next.1.rollDie_one
  have agree : Supply.Agree (· = 1) fun _ _ : Source => True := by
    rintro _ rfl one two _
    exact ⟨(shown one).trans (shown two).symm, trivial⟩
  have single : ∀ pool ∈ e.pools, pool.sides = 1 := by decide
  have rolled (source : Source) :
      (roller.rolling e (some source) (some recorder)).1 = .ok 1 := by
    rw [← ones]
    unfold rolling
    refine (sameFaces_evaluate agree _ single ?_ ?_).1
    · trivial
    · rfl
  have bounded : e.bounds roller.settings.explodeMultiplier = .ok ⟨0, 1⟩ := by decide +kernel
  have read : Expr.ofText roller.settings.maxExpressionLength text = .ok e := by
    rw [Expr.ofText, scanned]
    exact parsed
  have told (source : Source) : ∃ outcome transcript,
      ((explainOutcome text none (some source)).run roller).1 = .ok (outcome, transcript) ∧
        outcome.value = 1 ∧ outcome.bounds = ⟨0, 1⟩ := by
    obtain ⟨elapsed, explained⟩ := explainOutcome_eq reachable.sound text none (some source)
    rw [explained, scanned, ok_bind, parsed, ok_bind]
    dsimp only
    rw [conclude, rolled, bounded]
    exact ⟨_, _, rfl, rfl, rfl⟩
  obtain ⟨outcome, transcript, explained, total, bounds⟩ := told (.ofSeed 42)
  have recorded := rollRecord_eq reachable.sound text 42
  rw [explained, read] at recorded
  obtain ⟨same, values, again, accounts, reckons, ranged, _⟩ :=
    rollRecord_adds_up roller reachable text 42 _ recorded
  cases again.symm.trans read
  exact ⟨reachable, _, e, values, recorded, read, accounts, reckons, total, bounds, ranged⟩

end Roller

end DiceFormula
