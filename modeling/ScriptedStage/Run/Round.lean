import ScriptedStage.Journal.Levels
import ScriptedStage.Run.Interpreter

/-!
One round of a run: every actor whose script starts with a trigger, and which has not finished,
executes one step of its script. Actors do not see each other's changes during a round; the changes
are collected and applied afterwards.
-/
namespace ScriptedStage

/-- What a round came to. -/
structure Round where
  states : Executions
  /-- The changes to actors, in the order of the roster. -/
  deltas : List (String × Delta) := []
  /-- The actors that finished their scripts. -/
  completed : List String := []
  deriving Inhabited

namespace Round

/-- The block that an actor executes next. -/
def nextBlock? (a : Actor) (states : Executions) : Option (Execution × Block) :=
  match states.get? a.id with
  | none => none
  | some e =>
    if !e.eligible || a.script.length ≤ 1 || (a.script.length : Int) ≤ e.pointer then none
    else (a.script[e.pointer.toNat]?).map fun b => (e, b)

/-- The delta of a step as it is traced. -/
def deltaValue (d : Option Delta) : Value := (d.map Value.record).getD .null

/-- What is noted about an actor that finished its script. -/
def completedNote (actor : String) : Note :=
  .say "scheduler" .info ("Actor " ++ actor ++ " completed its script")

/-- Takes the result of a step of an actor into a round. -/
def record (r : Round) (a : Actor) (pointer : Int) (step : StepResult) : Round × List Note :=
  let deltas := match step.delta with
    | some (d :: ds) => r.deltas ++ [(a.id, d :: ds)]
    | _ => r.deltas
  if step.advance then
    let state := { step.state with pointer := pointer + 1 }
    if (a.script.length : Int) ≤ state.pointer then
      ({ states := r.states.set a.id state.rewound, deltas := deltas, completed := r.completed ++ [a.id] },
        [completedNote a.id])
    else ({ r with states := r.states.set a.id state, deltas := deltas }, [])
  else ({ r with states := r.states.set a.id step.state, deltas := deltas }, [])

/-- One step of each actor, from a round so far. -/
def playFrom (i : Interpreter) (r : Round) : List Actor → List Note × Except Fault Round
  | [] => ([], .ok r)
  | a :: rest =>
    match nextBlock? a r.states with
    | none => playFrom i r rest
    | some (e, b) =>
      match i.execute a e b with
      | .error fault => ([], .error fault)
      | .ok step =>
        let trace := Note.traced "scheduler" a.id b.id
          [("delta", deltaValue step.delta), ("advance", .bool step.advance)]
        let (r', done) := r.record a e.pointer step
        let (notes, outcome) := playFrom i r' rest
        (step.notes ++ trace :: done ++ notes, outcome)

/-- One step of each actor of a roster. -/
def play (i : Interpreter) (actors : List Actor) (states : Executions) : List Note × Except Fault Round :=
  playFrom i { states := states } actors

end Round

end ScriptedStage
