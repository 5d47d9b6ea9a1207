import DiceFormula.Proofs.Expr.RoundTrip
import DiceFormula.Proofs.Roll.Retelling
import DiceFormula.Proofs.Roller.Replay

namespace DiceFormula

/-- All that is on record of a roll beside the words of the text and of its account. -/
def RollRecord.besideWords (record : RollRecord) : RollRecord :=
  { record with text := "", explanation := "" }

namespace Roller

variable {roller : Roller} {text other : String} {e : Expr}

theorem steady_sameRules (roller : Roller) (given : Option Source) :
    Steady given roller.SameRules where
  store _ _ _ same := ⟨same.rerolls, same.length, same.multiplier, same.options⟩
  clock _ _ same := ⟨same.rerolls, same.length, same.multiplier, same.options⟩
  restore before source same := by
    obtain ⟨_, _, restored⟩ := restore_besideSources given source before
    rw [restored]
    exact ⟨same.rerolls, same.length, same.multiplier, same.options⟩

theorem sameRules_after (roller : Roller) (requests : List Request) :
    roller.SameRules (roller.after requests) :=
  Steady.after (steady_sameRules roller) ⟨rfl, rfl, rfl, rfl⟩ requests

theorem retells_opening (text other : String) (tokens others : List Token) (e : Expr)
    (roller : Roller) :
    (roller.opening text none tokens e).Retells (roller.opening other none others e) := by
  constructor
  · rw [options_opening, options_opening]
  · rw [termsOf_opening, termsOf_opening]

theorem termsOf_account {trace : Trace Source} {later : Recorder}
    (goes : trace.recorder = some later) (recorder : Recorder) (elapsed : Float)
    (outcome : Outcome) :
    termsOf (account recorder elapsed (outcome, trace)).2.steps = termsOf later.steps.toList := by
  unfold account
  rw [goes]
  exact termsOf_noteResult later outcome.value

theorem besideWords_recordOf {first second : Recorder} (retells : first.Retells second)
    (text other : String) (e : Expr) (given : Option Source) (seed : Int) (elapsed time : Float)
    (roller : Roller) :
    ((roller.conclude text e elapsed (roller.rolling e given (some first))).map
        (recordOf text seed e first elapsed)).map RollRecord.besideWords =
      ((roller.conclude other e time (roller.rolling e given (some second))).map
        (recordOf other seed e second time)).map RollRecord.besideWords := by
  obtain ⟨same, alike⟩ := told_rolling inStep_retells retells e given roller
  obtain ⟨one, two, kept, held, later⟩ := alike.account
  unfold conclude
  rw [same]
  cases (roller.rolling e given (some second)).1 with
  | error fault => rfl
  | ok value =>
    cases e.bounds roller.settings.explodeMultiplier with
    | error fault => rfl
    | ok bounds =>
      refine congrArg Except.ok ?_
      unfold RollRecord.besideWords recordOf
      dsimp only
      rw [termsOf_account kept, termsOf_account held, later.terms, alike.rolls]

theorem rollRecord_besideWords {roller later : Roller}
    (same : roller.SameRules later) (first : roller.Sound roller.settings)
    (second : later.Sound later.settings)
    (read : Expr.ofText roller.settings.maxExpressionLength text = .ok e)
    (again : Expr.ofText roller.settings.maxExpressionLength other = .ok e) (seed : Int) :
    ((rollRecord other seed).run later).1.map RollRecord.besideWords =
      ((rollRecord text seed).run roller).1.map RollRecord.besideWords := by
  obtain ⟨tokens, scanned, parsed⟩ := ok_of_bind read
  obtain ⟨others, rescanned, reparsed⟩ := ok_of_bind again
  rw [same.length] at rescanned
  obtain ⟨elapsed, recorded⟩ := rollRecord_of_parsed first seed scanned parsed
  obtain ⟨time, repeated⟩ := rollRecord_of_parsed second seed rescanned reparsed
  rw [recorded, repeated, ← same.opening, ← same.rolling, ← same.conclude]
  exact besideWords_recordOf (retells_opening other text others tokens e roller) ..

/-- The same roller reads what a formula is written as, and rolls it from the seed on record as it
    rolled the text, whatever it was asked in between. Only if the writing is longer than the text
    was and no longer fits is it refused, and then for its length. -/
theorem rollRecord_normalized (roller : Roller) (reachable : roller.Reachable) (text : String)
    (e : Expr) (read : ((parse text none).run roller).1 = .ok e) (requests : List Request) :
    ((parse e.render none).run (roller.after requests)).1 =
        (if e.render.length ≤ roller.lengthLimit then .ok e
        else .error (.scan (.tooLong e.render.length roller.lengthLimit))) ∧
      (e.render.length ≤ roller.lengthLimit → ∀ seed,
        ((rollRecord e.render seed).run (roller.after requests)).1.map RollRecord.besideWords =
          ((rollRecord text seed).run roller).1.map RollRecord.besideWords) ∧
      ∀ seed record, ((rollRecord text seed).run roller).1 = .ok record →
        record.normalized = e.render ∧ record.seed = seed := by
  have same := sameRules_after roller requests
  have first := reachable.sound
  have second := (reachable.after requests).sound
  rw [first.parse_eq text (by simp)] at read
  have canonical := canonical_of_ofText read
  rw [second.parse_eq e.render (by simp), ← same.length, lengthLimit]
  refine ⟨?_, fun fits seed => ?_, fun seed record done => ?_⟩
  · split
    · rename_i fits
      exact ofText_render canonical fits
    · rename_i long
      exact ofText_of_long (Int.not_le.mp long)
  · exact rollRecord_besideWords same first second read (ofText_render canonical fits) seed
  · rw [rollRecord_eq first] at done
    obtain ⟨told, _, done⟩ := ok_of_bind done
    obtain ⟨other, again, done⟩ := ok_of_bind done
    cases again.symm.trans read
    cases done
    exact ⟨rfl, rfl⟩

/-- A limit of three leaves room for `d20`, but not for the number of dice that its writing has in
    front of it. -/
theorem normalized_refused_at_three :
    let roller := create { maxExpressionLength := 3 } {} none (.ofSeed 0) ⟨fun _ => 0, 0⟩
    let e : Expr := .atom (.dice ⟨1, 20⟩)
    roller.Reachable ∧ ((parse "d20" none).run roller).1 = .ok e ∧ e.render = "1d20" ∧
      ((parse "1d20" none).run ((parse "d20" none).run roller).2).1 =
        .error (.scan (.tooLong 4 3)) := by
  refine ⟨.create _ _ _ _ _, ?_, ?_, ?_⟩
  all_goals decide +kernel

theorem rollRecord_normalized_five :
    let roller := create {} {} none (.ofSeed 0) ⟨fun _ => 0, 0⟩
    let later := roller.after [.validate "2d", .clearCache]
    let e : Expr := .binary .add (.atom (.dice ⟨2, 1⟩)) (.atom (.number 3))
    roller.Reachable ∧ ((parse "02d1+3" none).run roller).1 = .ok e ∧ e.render = "2d1 + 3" ∧
      ((parse e.render none).run later).1 = .ok e ∧
      ∃ record again, ((rollRecord "02d1+3" 42).run roller).1 = .ok record ∧
        record.normalized = e.render ∧ ((rollRecord e.render 42).run later).1 = .ok again ∧
        again.besideWords = record.besideWords ∧ record.total = 5 := by
  intro roller later e
  have reachable : roller.Reachable := .create _ _ _ _ _
  have read : ((parse "02d1+3" none).run roller).1 = .ok e := by decide +kernel
  have written : e.render = "2d1 + 3" := by decide +kernel
  have fits : e.render.length ≤ roller.lengthLimit := by decide +kernel
  let tokens : List Token := (scanText roller.lengthLimit "02d1+3").toOption.getD []
  have scanned : scanText roller.settings.maxExpressionLength "02d1+3" = .ok tokens := by
    decide +kernel
  have parsed : parseTokens tokens = .ok e := by decide +kernel
  have comes : (roller.rolling e (some (.twosThenOnes 0 0))
      (some (roller.opening "02d1+3" none tokens e))).1 = .ok 5 := by decide +kernel
  have bounded : e.bounds roller.settings.explodeMultiplier = .ok ⟨5, 5⟩ := by decide +kernel
  obtain ⟨record, recorded, total⟩ :=
    rollRecord_of_single reachable.sound scanned parsed (by decide) comes bounded 42
  obtain ⟨reread, repeats, named⟩ :=
    rollRecord_normalized roller reachable "02d1+3" e read [.validate "2d", .clearCache]
  rw [if_pos fits] at reread
  have same := repeats fits 42
  rw [recorded] at same
  obtain ⟨again, repeated, words⟩ := ok_of_map same
  exact ⟨reachable, read, written, reread, record, again, recorded, (named 42 record recorded).1,
    repeated, words, total⟩

end Roller

end DiceFormula
