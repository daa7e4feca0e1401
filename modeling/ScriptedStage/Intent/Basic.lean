import ScriptedStage.Actor

/-!
Intents: the ten ways in which the stage is changed. Each has an action name by which it is
requested and a plain form that shows all of its fields.
-/
namespace ScriptedStage

/-- New values for fields of an actor. A field is left alone, or set to nothing, or
set to a value. -/
structure ActorPatch where
  x : Option (Option Float) := none
  y : Option (Option Float) := none
  heading : Option (Option Float) := none
  scale : Option (Option Float) := none
  message : Option (Option String) := none
  deriving DecidableEq, Repr, Inhabited

namespace ActorPatch

/-- A number or nothing as a value. -/
def numberValue (x : Option Float) : Value := (x.map Value.float).getD .null

/-- A text or nothing as a value. -/
def textValue (s : Option String) : Value := (s.map Value.str).getD .null

/-- The fields that are set, by name. -/
def updates (p : ActorPatch) : Delta :=
  (p.x.map fun v => ("x", numberValue v)).toList ++
  (p.y.map fun v => ("y", numberValue v)).toList ++
  (p.heading.map fun v => ("heading", numberValue v)).toList ++
  (p.scale.map fun v => ("scale", numberValue v)).toList ++
  (p.message.map fun v => ("displayed_message", textValue v)).toList

/-- Whether no field is set. -/
def isEmpty (p : ActorPatch) : Bool := p.updates.isEmpty

/-- All fields, with nothing for those that are not set. -/
def dump (p : ActorPatch) : Value :=
  .record [("x", numberValue p.x.join), ("y", numberValue p.y.join),
    ("heading", numberValue p.heading.join), ("scale", numberValue p.scale.join),
    ("displayed_message", textValue p.message.join)]

/-- The actor with the set fields replaced. -/
def apply (p : ActorPatch) (a : Actor) : Actor :=
  { a with
    x := (p.x.map numberValue).getD a.x
    y := (p.y.map numberValue).getD a.y
    heading := (p.heading.map numberValue).getD a.heading
    scale := (p.scale.map numberValue).getD a.scale
    message := p.message.getD a.message }

end ActorPatch

/-- A request to change the stage. -/
inductive Intent where
  | addActor (kind : String) (x y : Float)
  | removeActor (actor : String)
  | selectActor (actor : Option String)
  /-- Appends a block, as sent, to the top level of a script. -/
  | addBlock (actor : String) (block : Block)
  /-- Appends a block, as sent, to the children of a container. -/
  | addBlockTo (actor container : String) (block : Block)
  | removeBlock (actor block : String)
  | startRun
  | stopRun
  | updateActor (actor : String) (patch : ActorPatch)
  | handleCollision (first second : String)
  deriving Repr, Inhabited

namespace Intent

/-- The action name of an intent. -/
def action : Intent → String
  | .addActor .. => "ADD_ACTOR"
  | .removeActor _ => "REMOVE_ACTOR"
  | .selectActor _ => "SELECT_ACTOR"
  | .addBlock .. => "ADD_BLOCK_TO_ROOT"
  | .addBlockTo .. => "ADD_BLOCK_TO_CONTAINER"
  | .removeBlock .. => "REMOVE_BLOCK"
  | .startRun => "START_RUN"
  | .stopRun => "STOP_RUN"
  | .updateActor .. => "UPDATE_ACTOR_STATE"
  | .handleCollision .. => "HANDLE_COLLISION"

/-- All fields of an intent. -/
def dump : Intent → Value
  | .addActor kind x y => .record [("kind", .str kind), ("x", .float x), ("y", .float y)]
  | .removeActor a => .record [("actor_id", .str a)]
  | .selectActor a => .record [("actor_id", ActorPatch.textValue a)]
  | .addBlock a b => .record [("actor_id", .str a), ("block", b.dump)]
  | .addBlockTo a c b => .record [("actor_id", .str a), ("container_id", .str c), ("block", b.dump)]
  | .removeBlock a b => .record [("actor_id", .str a), ("block_id", .str b)]
  | .startRun | .stopRun => .record []
  | .updateActor a p => .record [("actor_id", .str a), ("updates", p.dump)]
  | .handleCollision a b => .record [("actor_a_id", .str a), ("actor_b_id", .str b)]

/-- The block that an intent carries. -/
def block? : Intent → Option Block
  | .addBlock _ b | .addBlockTo _ _ b => some b
  | _ => none

end Intent

end ScriptedStage
