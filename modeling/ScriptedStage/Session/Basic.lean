import ScriptedStage.Block.Factory
import ScriptedStage.Collision.Monitor
import ScriptedStage.Frame.Host
import ScriptedStage.Run.Round
import ScriptedStage.Stage.Reduce

/-!
A session: a stage together with everything that reacts to it. The scheduler runs the scripts from a
frame host while the stage is running, the collision monitor watches the actors, and a reaction
turns collisions into reversed moves. A recorder may keep a trace of the runs.

An action on a session may stop with a fault; the session then stays as the fault found it.
-/
namespace ScriptedStage

/-- What a session asks of its frame host. -/
inductive FrameRequest where
  /-- Run the next round. -/
  | tick
  deriving DecidableEq, Repr, Inhabited

/-- The reaction to collisions. -/
inductive Reaction where
  /-- Reverse the first moves of both actors. -/
  | reverseMoves
  deriving DecidableEq, Repr, Inhabited

/-- Where frames come from. -/
inductive SessionHost where
  /-- Frames are run by the session itself. -/
  | manual (h : FrameHost FrameRequest)
  /-- Frames are run from outside. Of such a host only the number of waiting requests is known, and
  the handle that it gives for a request. -/
  | outside (pending : Int) (handle : Nat := 0)
  deriving Inhabited

namespace SessionHost

/-- How many requests are waiting. -/
def pending : SessionHost → Int
  | .manual h => h.pending.length
  | .outside n _ => n

/-- Asks for the next frame. -/
def request : SessionHost → SessionHost × Nat
  | .manual h => (.manual (h.request .tick).1, (h.request .tick).2)
  | .outside n handle => (.outside (n + 1) handle, handle)

/-- Withdraws a request. -/
def cancel : SessionHost → Nat → SessionHost
  | .manual h, handle => .manual (h.cancel handle)
  | .outside n handle, _ => .outside (n - 1) handle

end SessionHost

/-- A stage with its scheduler, monitor, reaction and recorder. -/
structure Session where
  rules : StageRules := {}
  stage : Stage := {}
  journal : Journal := {}
  host : SessionHost := .manual {}
  factory : BlockFactory := { token := BlockFactory.defaultToken }
  bus : EventBus Reaction := {}
  /-- None if the session does not watch for collisions. -/
  monitor : Option CollisionMonitor := some {}
  /-- How many collisions the reaction has handled. -/
  handled : Nat := 0
  interpreter : Interpreter := {}
  executions : Executions := []
  /-- The handle of the frame that the scheduler waits for. -/
  awaited : Option Nat := none
  ticks : Nat := 0
  /-- Whether the scheduler follows the changes of the stage. -/
  following : Bool := true
  recorder : Option Recorder := none
  /-- Whether records go to the recorder. -/
  recording : Bool := false
  deriving Inhabited

/-- An action on a session. -/
def Act (α : Type) : Type := Session → Session × Except Fault α

namespace Act

variable {α β : Type}

instance : Monad Act where
  pure a := fun s => (s, .ok a)
  bind m f := fun s =>
    match m s with
    | (s, .ok a) => f a s
    | (s, .error e) => (s, .error e)

/-- Stops with a fault. -/
def stop (e : Fault) : Act α := fun s => (s, .error e)

/-- Something read off the session. -/
def read (f : Session → α) : Act α := fun s => (s, .ok (f s))

/-- A change of the session. -/
def change (f : Session → Session) : Act Unit := fun s => (f s, .ok ())

/-- Prints notes and goes on with the outcome that they lead up to. -/
def report (reported : List Note × Except Fault α) : Act α := fun s =>
  ({ s with journal := (s.journal.settle reported).1 }, (s.journal.settle reported).2)

/-- Prints a note. -/
def note (n : Note) : Act Unit := report ([n], .ok ())

/-- A result that may be a fault. -/
def ofExcept : Except Fault α → Act α
  | .ok a => pure a
  | .error e => stop e

/-- A reading that may have issues. -/
def ofChecked (c : Checked α) : Act α := ofExcept (c.mapError Fault.invalid)

end Act

namespace Session

/-- Gives a record to the recorder if there is one. -/
def emit (source : String) (record : Record) : Act Unit := fun s =>
  match s.recording, s.recorder with
  | true, some r => ({ s with recorder := some (r.take source record).1 }, (r.take source record).2)
  | _, _ => (s, .ok ())

/-! ## The scheduler's frames -/

/-- Withdraws the frame that the scheduler waits for. -/
def cancelFrame : Act Unit := .change fun s =>
  match s.awaited with
  | none => s
  | some handle => { s with host := s.host.cancel handle, awaited := none }

/-- Asks for the next frame. -/
def requestFrame : Act Unit := do
  cancelFrame
  .change fun s => { s with host := s.host.request.1, awaited := some s.host.request.2 }

/-- A run begins: all actors go back to the start of their scripts. -/
def beginRun : Act Unit := do
  .change fun s => { s with executions := .rewind s.stage.actors }
  let count ← Act.read fun s => s.executions.length
  .note (.say "scheduler" .info ("Run started with " ++ toString count ++ " actor(s)"))
  requestFrame

/-- A run ends: no frame is awaited and the monitor starts afresh. -/
def endRun : Act Unit := do
  cancelFrame
  .change fun s => { s with monitor := s.monitor.map (·.reset) }
  let ticks ← Act.read (·.ticks)
  .note (.say "scheduler" .info ("Run ended after " ++ toString ticks ++ " tick(s)"))

/-! ## Changes of the stage -/

/-- Whether an intent that is accepted may change the actors. -/
def touchesActors : Intent → Bool
  | .selectActor _ | .startRun | .stopRun => false
  | _ => true

/-- The scheduler follows a change of the stage. -/
def follow (i : Intent) (before after : Stage) : Act Unit := do
  if touchesActors i then
    .change fun s => { s with executions := s.executions.reconcile after.actors }
  if !before.running && after.running then beginRun
  else if before.running && !after.running then endRun

/-- Applies an intent; the new stage if it changed anything. -/
def dispatch (i : Intent) : Act (Option Stage) := do
  let before ← Act.read (·.stage)
  let rules ← Act.read (·.rules)
  let (notes, new) := before.dispatch rules i
  match ← Act.report (notes, .ok new) with
  | none => return none
  | some after =>
    .change fun s => { s with stage := after }
    if ← Act.read (·.following) then follow i before after
    return some after

end Session

end ScriptedStage
