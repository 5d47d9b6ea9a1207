import DiceFormula.Proofs.Roll.Simulation

namespace DiceFormula

variable {σ : Type}

abbrev Trace.Unwatched : Trace σ → Trace σ → Prop :=
  Trace.Alike Eq fun watched silent => (∃ recorder, watched = some recorder) ∧ silent = none

abbrev Rolling.Unwatched (work : Rolling σ α) : Prop := Lockstep Trace.Unwatched work work

theorem unwatched_map (record : Recorder → Recorder) (watched silent : Option Recorder)
    (kept : (∃ recorder, watched = some recorder) ∧ silent = none) :
    (∃ recorder, watched.map record = some recorder) ∧ silent.map record = none := by
  obtain ⟨⟨recorder, rfl⟩, rfl⟩ := kept
  exact ⟨⟨record recorder, rfl⟩, rfl⟩

theorem unwatched_note (record : Recorder → Recorder) :
    Rolling.Unwatched (Rolling.note record : Rolling σ Unit) :=
  .modify fun _ _ alike => alike.note (unwatched_map record)

theorem unwatched_tryNote {record : Recorder → Except RollFault Recorder}
    (written : ∀ recorder, ∃ later, record recorder = .ok later) :
    Rolling.Unwatched (Rolling.tryNote record : Rolling σ Unit) := by
  intro watched silent alike
  obtain ⟨⟨recorder, kept⟩, quiet⟩ := alike.account
  obtain ⟨later, done⟩ := written recorder
  rw [run_tryNote_some kept, run_tryNote_none quiet, done]
  exact ⟨rfl, alike.supply, ⟨⟨later, rfl⟩, quiet⟩, alike.rolls, alike.metrics⟩

/-- Where the silent evaluation comes to a number that cannot be written, the account ends the other
    one. Everywhere else the two go the same way. -/
def Rolling.WatchedBut (overlong : Trace σ → Prop) (work : Rolling σ α) : Prop :=
  ∀ watched silent : Trace σ, watched.Unwatched silent →
    (overlong silent → (work.run watched).1 = .error .resultTooLong) ∧
    (¬overlong silent → (work.run watched).1 = (work.run silent).1 ∧
      (work.run watched).2.Unwatched (work.run silent).2)

namespace Rolling.WatchedBut

theorem ofUnwatched {work : Rolling σ α} (alike : Rolling.Unwatched work) :
    WatchedBut (fun _ => False) work :=
  fun watched silent together => ⟨False.elim, fun _ => alike watched silent together⟩

theorem bind {begins : Trace σ → Prop} {goes : α → Trace σ → Prop} {first : Rolling σ α}
    {next : α → Rolling σ β} (starts : WatchedBut begins first)
    (goesOn : ∀ value, WatchedBut (goes value) (next value)) :
    WatchedBut
      (fun silent => begins silent ∨
        ∃ value between, first.run silent = (.ok value, between) ∧ goes value between)
      (first >>= next) := by
  intro watched silent together
  obtain ⟨stops, alike⟩ := starts watched silent together
  rw [run_bind, run_bind]
  by_cases long : begins silent
  · have stopped := stops long
    refine ⟨fun _ => ?_, fun short => absurd (.inl long) short⟩
    cases ran : first.run watched with
    | mk result left =>
      rw [ran] at stopped
      dsimp only at stopped
      rw [stopped]
  · obtain ⟨same, between⟩ := alike long
    cases ran : first.run watched with
    | mk result left =>
      cases went : first.run silent with
      | mk other right =>
        rw [ran, went] at same between
        dsimp only at same between
        subst same
        cases result with
        | error fault =>
          refine ⟨?_, fun _ => ⟨rfl, between⟩⟩
          rintro (early | ⟨value, after, done, _⟩)
          · exact absurd early long
          · rw [went] at done
            cases done
        | ok value =>
          obtain ⟨later, further⟩ := goesOn value left right between
          refine ⟨?_, fun short => further fun long => short (.inr ⟨value, right, went, long⟩)⟩
          rintro (early | ⟨_, _, done, late⟩)
          · exact absurd early long
          · rw [went] at done
            cases done
            exact later late

theorem ofUnwatched_bind {begins : Trace σ → Prop} {first : Rolling σ α} {next : α → Rolling σ β}
    (starts : WatchedBut begins first) (goesOn : ∀ value, Rolling.Unwatched (next value)) :
    WatchedBut begins (first >>= next) := by
  intro watched silent together
  obtain ⟨stops, alike⟩ := (starts.bind fun value => ofUnwatched (goesOn value)) _ _ together
  refine ⟨fun long => stops (.inl long), fun short => alike ?_⟩
  rintro (early | ⟨_, _, _, never⟩)
  · exact short early
  · exact never

theorem modify_bind {overlong : Trace σ → Prop} {change : Trace σ → Trace σ} {next : Rolling σ α}
    (frame : ∀ watched silent : Trace σ, watched.Unwatched silent →
      (change watched).Unwatched (change silent))
    (goesOn : WatchedBut overlong next) :
    WatchedBut (fun silent => overlong (change silent)) (do modify change; next) :=
  fun watched silent together => goesOn _ _ (frame watched silent together)

theorem ofExcept_bind {goes : α → Trace σ → Prop} {result : Except RollFault α}
    {next : α → Rolling σ β}
    (goesOn : ∀ value, result = .ok value → WatchedBut (goes value) (next value)) :
    WatchedBut (fun silent => ∃ value, result = .ok value ∧ goes value silent)
      (Rolling.ofExcept result >>= next) := by
  cases result with
  | error fault =>
    intro watched silent together
    refine ⟨?_, fun _ => ⟨rfl, together⟩⟩
    rintro ⟨_, done, _⟩
    cases done
  | ok value =>
    intro watched silent together
    obtain ⟨stops, alike⟩ := goesOn value rfl watched silent together
    refine ⟨?_, fun short => alike fun long => short ⟨value, rfl, long⟩⟩
    rintro ⟨_, done, long⟩
    cases done
    exact stops long

end Rolling.WatchedBut

theorem noteNode_of_activity {e : Expr} {activity : String} (known : e.activity = .ok activity)
    (result : Int) (recorder : Recorder) : ∃ later, recorder.noteNode e result = .ok later := by
  unfold Recorder.noteNode
  rw [known]
  split
  · exact ⟨_, rfl⟩
  · exact ⟨_, rfl⟩

theorem watchedBut_noteOperation (operator : Operator) (left right result : Int) :
    Rolling.WatchedBut (fun _ => Text.isWritable result = false)
      (Rolling.noteOperation operator left right result : Rolling σ Unit) := by
  intro watched silent alike
  obtain ⟨⟨recorder, kept⟩, quiet⟩ := alike.account
  rw [Rolling.noteOperation, run_tryNote_some kept, run_tryNote_none quiet,
    Recorder.noteOperation]
  cases Text.isWritable result with
  | false => exact ⟨fun _ => rfl, fun short => absurd rfl short⟩
  | true =>
    refine ⟨fun long => (nomatch long), fun _ => ?_⟩
    exact ⟨rfl, alike.supply, ⟨⟨_, rfl⟩, quiet⟩, alike.rolls, alike.metrics⟩

variable [Supply σ]

theorem simulated_unwatched :
    Trace.Simulated (fun _ => True) (Trace.Unwatched : Trace σ → Trace σ → Prop) :=
  Trace.Alike.simulated agree_self unwatched_map

/-- Some operation of the formula, evaluated from here, comes to a number that cannot be written. -/
def Expr.Overlong (limit : Int) : Expr → Trace σ → Prop
  | atom _, _ => False
  | group inner, trace => inner.Overlong limit (trace.countNodes 1)
  | binary operator left right, trace =>
    left.Overlong limit (trace.countNodes 1) ∨
      ∃ leftValue between, (left.roll limit).run (trace.countNodes 1) = (.ok leftValue, between) ∧
        (right.Overlong limit between ∨
          ∃ rightValue after, (right.roll limit).run between = (.ok rightValue, after) ∧
            ∃ value, operator.apply leftValue rightValue = .ok value ∧
              Text.isWritable value = false)

theorem unwatched_roll_atom (limit : Int) (a : Atom) :
    Rolling.Unwatched ((Expr.atom a).roll limit : Rolling σ Int) := by
  obtain ⟨activity, known⟩ := Expr.activity_atom a
  rw [Expr.roll]
  refine Lockstep.bind (.modify fun _ _ alike => alike.countNodes 1) fun _ => ?_
  refine Lockstep.bind (simulated_unwatched.atom limit fun _ _ => trivial) fun value => ?_
  exact .bind (unwatched_tryNote (noteNode_of_activity known value)) fun _ => .pure value

theorem watchedBut_roll (limit : Int) (e : Expr) :
    Rolling.WatchedBut (e.Overlong limit) (e.roll limit : Rolling σ Int) := by
  have counted : ∀ watched silent : Trace σ, watched.Unwatched silent →
      (watched.countNodes 1).Unwatched (silent.countNodes 1) :=
    fun _ _ alike => alike.countNodes 1
  induction e with
  | atom a => exact .ofUnwatched (unwatched_roll_atom limit a)
  | group inner ih =>
    rw [Expr.roll]
    refine .modify_bind counted (.ofUnwatched_bind ih fun value => ?_)
    refine .bind (unwatched_note _) fun _ => .bind ?_ fun _ => .pure value
    exact unwatched_tryNote (noteNode_of_activity rfl value)
  | binary operator left right leftIh rightIh =>
    rw [Expr.roll_binary]
    refine .modify_bind counted (.bind leftIh fun leftValue => .bind rightIh fun rightValue => ?_)
    refine .ofExcept_bind fun value applied => ?_
    obtain ⟨activity, known⟩ := Expr.activity_of_apply applied left right
    refine .ofUnwatched_bind (watchedBut_noteOperation _ _ _ value) fun _ => ?_
    exact .bind (unwatched_tryNote (noteNode_of_activity known value)) fun _ => .pure value

end DiceFormula
