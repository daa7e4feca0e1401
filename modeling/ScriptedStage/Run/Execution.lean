import ScriptedStage.Actor

/-!
Execution states. For each actor the scheduler keeps a pointer into the top-level script, the
progress of the repeat blocks that are under way, and whether the script can run at all. Slot 0 of a
script that can run is its trigger, so such a script starts at 1.
-/
namespace ScriptedStage

/-- The progress of one repeat block: passes left, and the child to run next. -/
structure LoopProgress where
  remaining : Int
  child : Int := 0
  deriving DecidableEq, Repr, Inhabited

/-- What the scheduler keeps for one actor. -/
structure Execution where
  pointer : Int := 0
  loops : Assoc LoopProgress := []
  eligible : Bool := false
  deriving DecidableEq, Repr, Inhabited

namespace Execution

/-- The pointer at the start of a run. -/
def startPointer (e : Execution) : Int := if e.eligible then 1 else 0

/-- Sets the progress of a block. -/
def setLoop (e : Execution) (block : String) (p : LoopProgress) : Execution :=
  { e with loops := e.loops.set block p }

/-- Forgets the progress of a block. -/
def clearLoop (e : Execution) (block : String) : Execution := { e with loops := e.loops.erase block }

/-- The state at the start of a run. -/
def rewound (e : Execution) : Execution := ⟨e.startPointer, [], e.eligible⟩

/-- The state of a script that had none. -/
def initial (script : Script) : Execution :=
  ⟨if script.isEligible then 1 else 0, [], script.isEligible⟩

end Execution

/-- The execution states of a roster, by actor id. -/
abbrev Executions := Assoc Execution

namespace Executions

/-- Fits the states to a roster: an actor that stays keeps its pointer and loops, a new one starts
afresh, one that is gone is dropped. Of two actors with one id the later decides. -/
def reconcile (previous : Executions) (actors : List Actor) : Executions :=
  actors.foldl
    (fun states a =>
      states.set a.id
        (match previous.get? a.id with
          | none => .initial a.script
          | some e => { e with eligible := a.script.isEligible }))
    []

/-- The states of a roster at the start of a run. -/
def rewind (actors : List Actor) : Executions :=
  actors.foldl (fun states a => states.set a.id (.initial a.script)) []

end Executions

end ScriptedStage
