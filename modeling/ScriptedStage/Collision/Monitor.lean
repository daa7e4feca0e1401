import ScriptedStage.Collision.Bounds
import ScriptedStage.Event.Bus

/-!
The collision monitor. It compares the boxes of every two actors and reports each pair once when the
two begin to overlap; a pair has to part before it is reported again.
-/
namespace ScriptedStage

/-- Two ids, the smaller first. -/
abbrev IdPair := String × String

/-- The pair of two ids, in whichever order they are given. -/
def IdPair.of (a b : String) : IdPair := if b < a then (b, a) else (a, b)

/-- The pairs that overlapped at the last check. -/
structure CollisionMonitor where
  overlapping : List IdPair := []
  deriving DecidableEq, Repr, Inhabited

namespace CollisionMonitor

/-- What is noted about an actor without a box. -/
def sizelessNote (actor : String) : Note :=
  .say "collision" .debug ("Actor " ++ actor ++ " has no size, skipped for collisions")

/-- What is noted about a collision. -/
def collisionNote (e : CollisionEvent) : Note :=
  .say "collision" .info ("Collision: " ++ e.first ++ " <-> " ++ e.second)

/-- The actors that have a box, with what is noted about the others. The first fault
ends the notes. -/
def boxed : List Actor → List Note × Except Fault (List (String × Bounds))
  | [] => ([], .ok [])
  | a :: rest =>
    match Bounds.ofActor a with
    | .error e => ([], .error e)
    | .ok none =>
      let (notes, boxes) := boxed rest
      (sizelessNote a.id :: notes, boxes)
    | .ok (some b) =>
      let (notes, boxes) := boxed rest
      (notes, boxes.map ((a.id, b) :: ·))

/-- The pairs that a boxed actor makes with those it overlaps. -/
def pairsWith (a : String × Bounds) (others : List (String × Bounds)) : List IdPair :=
  (others.filter fun b => a.1 ≠ b.1 && a.2.overlaps b.2).map fun b => .of a.1 b.1

/-- The overlapping pairs in the order of the roster, with repetitions. -/
def allPairs : List (String × Bounds) → List IdPair
  | [] => []
  | a :: rest => pairsWith a rest ++ allPairs rest

/-- The overlapping pairs in the order of the roster, each once. -/
def pairs (boxes : List (String × Bounds)) : List IdPair := (allPairs boxes).eraseDups

/-- Compares all actors. Gives the monitor for the next check and an event for each new pair. The
tick is looked at only if there is an event. -/
def check (m : CollisionMonitor) (actors : List Actor) (tick : Checked Int) :
    List Note × Except Fault (CollisionMonitor × List CollisionEvent) :=
  let (notes, boxes) := boxed actors
  (notes, do
    let current := pairs (← boxes)
    let fresh := current.filter fun p => !m.overlapping.contains p
    if fresh.isEmpty then return (⟨current⟩, [])
    else
      let t ← (tick.within (.field "tick")).mapError Fault.invalid
      return (⟨current⟩, fresh.map fun p => ⟨p.1, p.2, t⟩))

/-- Forgets the overlaps. -/
def reset (_ : CollisionMonitor) : CollisionMonitor := {}

/-- Publishes events, each after its note. The handlers of an event are called before the next one
is published; what they work on is neither the bus nor the monitor. -/
def deliverAll {H σ : Type} (call : H → CollisionEvent → σ → σ) (bus : EventBus H) (world : σ) :
    List CollisionEvent → (EventBus H × σ) × List Note
  | [] => ((bus, world), [])
  | e :: rest =>
    let (bus, handlers) := bus.publish (.collision e)
    let world := handlers.foldl (fun world handler => call handler e world) world
    let (delivered, notes) := deliverAll call bus world rest
    (delivered, collisionNote e :: EventBus.publishNotes (.collision e) handlers ++ notes)

/-- Publishes events to handlers that do nothing. -/
def publishAll {H : Type} (bus : EventBus H) (events : List CollisionEvent) : EventBus H × List Note :=
  let ((bus, _), notes) := deliverAll (fun _ _ world => world) bus () events
  (bus, notes)

end CollisionMonitor

end ScriptedStage
