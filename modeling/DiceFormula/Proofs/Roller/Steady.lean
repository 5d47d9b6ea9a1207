import DiceFormula.Proofs.Roller.Reachable

namespace DiceFormula

namespace Roller

/-- Neither the store nor the log nor the clock has a part in this, nor has what is put back when
    the dice have been rolled from the given source, or from the roller's own. -/
structure Steady (given : Option Source) (invariant : Roller → Prop) : Prop where
  store : ∀ roller parsed log, invariant roller →
    invariant { roller with parsed := parsed, log := log }
  clock : ∀ roller clock, invariant roller → invariant { roller with clock := clock }
  restore : ∀ roller source, invariant roller → invariant (roller.restore given source)

namespace Steady

variable {given : Option Source} {invariant : Roller → Prop}

theorem parse (steady : Steady given invariant) (text : String) (scanned : Option (List Token)) :
    Keeps invariant (fun _ => True) (Roller.parse text scanned) := by
  intro roller holds
  obtain ⟨parsed, log, same⟩ := parse_besideStore roller text scanned
  rw [same]
  exact ⟨steady.store roller parsed log holds, fun _ _ => trivial⟩

theorem readClock (steady : Steady given invariant) :
    Keeps invariant (fun _ => True) (modifyGet Roller.readClock : Working Float) :=
  .modifyGet fun roller holds => ⟨trivial, steady.clock roller _ holds⟩

theorem runSession (steady : Steady given invariant) (recorder : Option Recorder)
    (work : Session → Except RollFault α × Session) :
    Keeps invariant (fun _ => True) (Roller.runSession given recorder work) := by
  intro roller holds
  let session := (work (roller.session given recorder)).2
  have restored := steady.restore roller session.trace.supply holds
  have timed := steady.clock _ session.clock restored
  exact ⟨steady.store _ _ session.log timed, fun _ _ => trivial⟩

theorem evaluate (steady : Steady given invariant) (text : String) :
    Keeps invariant (fun _ => True) (Roller.evaluate text given) := by
  apply Keeps.bind (steady.parse text none)
  intro _ _
  exact .bind (steady.runSession none _) fun _ _ => .pure trivial

theorem evaluateDetailed (steady : Steady given invariant) (text : String) :
    Keeps invariant (fun _ => True) (Roller.evaluateDetailed text given) := by
  apply Keeps.bind (steady.parse text none)
  intro e _
  apply Keeps.bind (steady.runSession none _)
  intro _ _
  exact .bind (keeps_boundsOf e) fun _ _ => .pure trivial

theorem explainOutcome (steady : Steady given invariant) (text : String)
    (options : Option TranscriptOptions) :
    Keeps invariant (fun _ => True) (Roller.explainOutcome text options given) := by
  refine .bind .get fun _ _ => .bind (.bind .get fun _ _ => .tried _) fun tokens _ => ?_
  refine .bind (steady.parse text _) fun e _ => .bind steady.readClock fun _ _ => ?_
  refine .bind (steady.runSession _ _) fun _ _ => .bind steady.readClock fun _ _ => ?_
  exact .bind (keeps_boundsOf e) fun _ _ => .pure trivial

theorem explain (steady : Steady none invariant) (text format : String) :
    Keeps invariant (fun _ => True) (Roller.explain text format) := by
  refine .bind (steady.explainOutcome text none) fun _ _ => ?_
  dsimp only
  split
  · exact .pure trivial
  · split
    · exact .pure trivial
    · exact .throw _

theorem range (steady : Steady given invariant) (text : String) :
    Keeps invariant (fun _ => True) (Roller.range text) :=
  .bind (steady.parse text none) fun e _ => keeps_boundsOf e

theorem validationErrors (steady : Steady given invariant) (text : String) :
    Keeps invariant (fun _ => True) (Roller.validationErrors text) := by
  refine .tryCatch ?_ fun fault => ?_
  · have read : Keeps invariant (fun _ => True) (discard (Roller.parse text none) : Working Unit) :=
      (steady.parse text none).map
    exact .bind read fun _ _ => .pure trivial
  · cases fault.diagnosis? with
    | some diagnosis => exact .pure trivial
    | none => exact .throw fault

theorem validate (steady : Steady given invariant) (text : String) :
    Keeps invariant (fun _ => True) (Roller.validate text) := (steady.validationErrors text).map

theorem rollRecord {seed : Int} (steady : Steady (some (.ofSeed seed)) invariant) (text : String) :
    Keeps invariant (fun _ => True) (Roller.rollRecord text seed) :=
  .bind (steady.explainOutcome text none) fun _ _ => (steady.parse text none).map

theorem clearCache (steady : Steady given invariant) {roller : Roller} (holds : invariant roller) :
    invariant roller.clearCache := steady.store roller _ roller.log holds

theorem work (steady : ∀ given, Steady given invariant) (request : Request) :
    Keeps invariant (fun _ => True) request.work := by
  cases request with
  | evaluate text given => exact ((steady given).evaluate text).map
  | evaluateDetailed text given => exact ((steady given).evaluateDetailed text).map
  | explainOutcome text options given => exact ((steady given).explainOutcome text options).map
  | explain text format => exact ((steady none).explain text format).map
  | range text => exact ((steady none).range text).map
  | validationErrors text => exact ((steady none).validationErrors text).map
  | validate text => exact ((steady none).validate text).map
  | parse text => exact ((steady none).parse text none).map
  | rollRecord text seed => exact ((steady _).rollRecord text).map
  | clearCache => exact (Keeps.modify fun _ holds => (steady none).clearCache holds).map
  | cacheStats => exact Keeps.get.map

end Steady

def after (requests : List Request) (roller : Roller) : Roller :=
  requests.foldl (fun roller request => (request.work.run roller).2) roller

theorem Steady.after {invariant : Roller → Prop} (steady : ∀ given, Steady given invariant)
    {roller : Roller} (holds : invariant roller) (requests : List Request) :
    invariant (roller.after requests) := by
  induction requests generalizing roller with
  | nil => exact holds
  | cons request rest ih => exact ih (Steady.work steady request roller holds).1

theorem Reachable.after {roller : Roller} (reachable : roller.Reachable)
    (requests : List Request) : (roller.after requests).Reachable := by
  induction requests generalizing roller with
  | nil => exact reachable
  | cons request rest ih => exact ih (reachable.perform request)

end Roller

end DiceFormula
