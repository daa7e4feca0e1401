import ScriptedStage.Session.Tick

/-!
The operations of a session: setting the stage up, editing scripts, running frames, and closing.
-/
namespace ScriptedStage

/-- How a session is set up. -/
structure SessionOptions where
  rules : StageRules := {}
  initial : Stage := {}
  host : SessionHost := .manual {}
  collisions : Bool := true
  /-- The directory and the name of a recording. -/
  recording : Option (String × Option String) := none
  journal : Journal := {}
  deriving Inhabited

namespace Session

/-- Takes up a run that is on already, and begins the recording. -/
def setUp : Act Unit := do
  if ← Act.read (·.stage.running) then beginRun
  match ← Act.read (·.recorder) with
  | none => pure ()
  | some r =>
    .change fun s => { s with recording := true }
    .note (.say "session" .info ("Recording runs to " ++ r.path))

/-- A session that has not begun its work. -/
def prepared (o : SessionOptions) : Session :=
  { rules := o.rules, stage := o.initial, journal := o.journal, host := o.host
    bus := if o.collisions then EventBus.subscribe {} .collision .reverseMoves else {}
    monitor := if o.collisions then some {} else none
    interpreter := { minScale := o.rules.settings.minScale, maxScale := o.rules.settings.maxScale }
    executions := Executions.reconcile [] o.initial.actors
    recorder := o.recording.map fun r => Recorder.inDirectory r.1 r.2 }

/-- A new session. -/
def create (o : SessionOptions) : Session := (setUp (prepared o)).1

/-- Reads an intent of a known action and applies it; the new stage if it changed anything. -/
def request (action : String) (payload : Assoc Value) : Act (Option Stage) := do
  let intent ← Act.ofExcept (Intent.read action (.record payload))
  dispatch intent

/-- Adds an actor; gives its id. -/
def addActor (kind x y : Value) : Act (Option String) := do
  let new ← request "ADD_ACTOR" [("kind", kind), ("x", x), ("y", y)]
  return new.bind (·.selected)

/-- Removes an actor. -/
def removeActor (actor : Value) : Act Bool := do
  return (← request "REMOVE_ACTOR" [("actor_id", actor)]).isSome

/-- Selects an actor, or none. -/
def selectActor (actor : Value) : Act Bool := do
  return (← request "SELECT_ACTOR" [("actor_id", actor)]).isSome

/-- Appends a block, which has to be valid, to the top level of a script. -/
def addBlock (actor block : Value) : Act Bool := do
  let sent ← Act.ofChecked (Block.check block)
  let id ← Act.ofChecked ((Schema.nonEmptyText actor).within (.field "actor_id"))
  return (← dispatch (.addBlock id sent)).isSome

/-- Appends a block, which has to be valid, to the children of a container. -/
def addBlockTo (actor container block : Value) : Act Bool := do
  let sent ← Act.ofChecked (Block.check block)
  let ids ← Act.ofChecked
    (.both Prod.mk ((Schema.nonEmptyText actor).within (.field "actor_id"))
      ((Schema.nonEmptyText container).within (.field "container_id")))
  return (← dispatch (.addBlockTo ids.1 ids.2 sent)).isSome

/-- Removes a block. -/
def removeBlock (actor block : Value) : Act Bool := do
  return (← request "REMOVE_BLOCK" [("actor_id", actor), ("block_id", block)]).isSome

/-- Makes a block of a type and appends it to the top level of a script or to a container. -/
def newBlock (actor : Value) (container : Option Value) (type : String) (values : Option Value) :
    Act Bool := do
  let block ← fun s =>
    let (b, f) := s.factory.create type values []
    Act.ofExcept b { s with factory := f }
  match container with
  | none => addBlock actor block.toValue
  | some c => addBlockTo actor c block.toValue

/-- Starts a run. -/
def start : Act Bool := do return (← dispatch .startRun).isSome

/-- Stops the run. -/
def halt : Act Bool := do return (← dispatch .stopRun).isSome

/-- Runs the frame that waits, if any. -/
def step : Act Bool := frame "tick"

/-- Runs frames until the run stops, at most `most`. -/
def run (most : Int) : Act Nat := do
  if let .outside .. ← Act.read (·.host) then .stop (.foreignHost "run")
  let count ← frames "run" most.toNat
  if ← Act.read (·.stage.running) then
    .note (.say "session" .warning ("Run still active after " ++ toString count ++ " frame(s)"))
  return count

/-- Reads an intent and applies it; one that cannot be read changes nothing. -/
def raw (action payload : Value) : Act Bool := do
  match ← Act.report (Stage.readIntent action payload) with
  | none => return false
  | some intent => return (← dispatch intent).isSome

/-- Gives blocks of a type a behaviour. -/
def register (type : String) (b : Behaviour) : Act Unit :=
  .change fun s => { s with interpreter := s.interpreter.register type b }

/-- Takes the reaction off the bus. -/
def detach : Act Unit := do
  match ← Act.read (·.monitor) with
  | none => .stop .absent
  | some _ => .change fun s => { s with bus := s.bus.unsubscribe .collision .reverseMoves }

/-- Puts the reaction on the bus, once. -/
def attach : Act Unit := do
  detach
  .change fun s => { s with bus := s.bus.subscribe .collision .reverseMoves }

/-- Ends the work of the session: the scheduler no longer follows the stage, the reaction is taken
off the bus and the recording is finished. -/
def close : Act Unit := do
  cancelFrame
  .change fun s =>
    { s with
      following := false
      bus := s.bus.unsubscribe .collision .reverseMoves
      recording := false
      recorder := s.recorder.map (·.close) }

end Session

end ScriptedStage
