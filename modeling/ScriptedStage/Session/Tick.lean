import ScriptedStage.Session.Basic

/-!
What happens in a frame. The scheduler plays a round, applies the changes of the actors, lets the
monitor look for new collisions, to which the reaction answers at once, records the round, and then
either ends the run, because a script is complete, or asks for the next frame.
-/
namespace ScriptedStage.Session

/-- Applies the changes of a round. A change has to be a patch of an actor. -/
def applyDeltas : List (String × Delta) → Act Unit
  | [] => pure ()
  | (actor, delta) :: rest => do
    let patch ← Act.ofChecked (ActorPatch.check (.record delta))
    let id ← Act.ofChecked ((Schema.nonEmptyText (.str actor)).within (.field "actor_id"))
    let _ ← dispatch (.updateActor id patch)
    applyDeltas rest

/-- The reaction to a collision. -/
def react (e : CollisionEvent) : Act Unit := do
  .note (.say "reactions" .debug ("Reacting to collision " ++ e.first ++ " <-> " ++ e.second))
  let id (name value : String) := (Schema.nonEmptyText (.str value)).within (.field name)
  let intent ← Act.ofChecked
    (.both Intent.handleCollision (id "actor_a_id" e.first) (id "actor_b_id" e.second))
  let _ ← dispatch intent
  .change fun s => { s with handled := s.handled + 1 }

/-- Calls reactions one after another. -/
def callReactions (e : CollisionEvent) : List Reaction → Act Unit
  | [] => pure ()
  | .reverseMoves :: rest => do
    react e
    callReactions e rest

/-- Publishes a collision and lets the reactions answer. -/
def publish (e : CollisionEvent) : Act Unit := do
  let (bus, handlers) ← Act.read fun s => s.bus.publish (.collision e)
  .change fun s => { s with bus := bus }
  emit "bus" e.record
  Act.report (EventBus.publishNotes (.collision e) handlers, .ok ())
  callReactions e handlers

/-- Announces collisions one after another. -/
def announce : List CollisionEvent → Act Unit
  | [] => pure ()
  | e :: rest => do
    .note (CollisionMonitor.collisionNote e)
    publish e
    announce rest

/-- Looks for new collisions if the session watches for them. -/
def watch : Act (List CollisionEvent) := do
  match ← Act.read (·.monitor) with
  | none => return []
  | some monitor =>
    if ← Act.read (·.stage.running) then
      let actors ← Act.read (·.stage.actors)
      let tick ← Act.read (·.ticks)
      let (monitor, events) ← Act.report (monitor.check actors (.ok tick))
      .change fun s => { s with monitor := some monitor }
      announce events
      return events
    else return []

/-- The record of a round. -/
def roundRecord (tick : Nat) (r : Round) (collisions : List CollisionEvent) : Record :=
  [("type", .str "tick"), ("tick", .int tick), ("updates", .int r.deltas.length),
    ("completed", .list (r.completed.map .str)),
    ("collisions", .list (collisions.map fun e => .list [.str e.first, .str e.second]))]

/-- One round of a running stage; nothing happens if it does not run. -/
def tick : Act Unit := do
  .change fun s => { s with awaited := none }
  if ← Act.read (·.stage.running) then
    .change fun s => { s with ticks := s.ticks + 1 }
    let round ← fun s => Act.report (Round.play s.interpreter s.stage.actors s.executions) s
    .change fun s => { s with executions := round.states }
    applyDeltas round.deltas
    let collisions ← watch
    let ticks ← Act.read (·.ticks)
    emit "scheduler" (roundRecord ticks round collisions)
    if !round.completed.isEmpty then
      let _ ← dispatch .stopRun
    else if ← Act.read (·.stage.running) then requestFrame

/-- Answers requests of a frame one after another. -/
def answerRequests : List FrameRequest → Act Unit
  | [] => pure ()
  | .tick :: rest => do
    tick
    answerRequests rest

/-- Runs the frame that waits, if any; says whether one ran. An outside host cannot be driven. -/
def frame (caller : String) : Act Bool := do
  match ← Act.read (·.host) with
  | .outside .. => .stop (.foreignHost caller)
  | .manual h =>
    if h.pending.isEmpty then return false
    else
      .change fun s => { s with host := .manual h.takeBatch.1 }
      answerRequests h.takeBatch.2
      .change fun s =>
        { s with host := match s.host with
            | .manual h => .manual h.finishFrame
            | host => host }
      return true

/-- Runs frames while any wait, at most `n`; gives the number of frames that ran. -/
def frames (caller : String) : Nat → Act Nat
  | 0 => return 0
  | n + 1 => do
    if ← frame caller then return (← frames caller n) + 1
    else return 0

end ScriptedStage.Session
