import ScriptedStage.Journal.Note
import ScriptedStage.Recording.Recorder
import ScriptedStage.Schema.Checked

/-!
Events and the bus that delivers them. Handlers subscribe to a kind of event; a published event goes
to the handlers that were subscribed to its kind at that moment, in the order of subscription. The
bus keeps the last events in a history, which may also keep them all.

Publishing is split in two, so that handlers may use the bus while they are being called: `publish`
notes the event and gives the handlers to call, and whoever drives the bus calls them.
-/
namespace ScriptedStage

/-- Two actors, in the order of their ids, that began to overlap at a tick. -/
structure CollisionEvent where
  first : String
  second : String
  tick : Int := 0
  deriving DecidableEq, Repr, Inhabited

namespace CollisionEvent

/-- Reads an event; fields that it does not have are ignored. -/
def check : Value → Checked CollisionEvent
  | .object entries =>
    .both (fun (pair : String × String) tick => ⟨pair.1, pair.2, tick⟩)
      (.both Prod.mk (Schema.required entries "actor_a_id" Schema.text)
        (Schema.required entries "actor_b_id" Schema.text))
      (Schema.withDefault entries "tick" 0 Schema.integer)
  | _ => .fail .notRecord

/-- The event as a record of a recording. -/
def record (e : CollisionEvent) : Record :=
  [("type", .str "CollisionEvent"), ("actor_a_id", .str e.first), ("actor_b_id", .str e.second),
    ("tick", .int e.tick)]

/-- Whether the event names an actor. -/
def names (e : CollisionEvent) (actor : String) : Bool := e.first = actor || e.second = actor

end CollisionEvent

/-- What an event is. Handlers of one kind never see events of another. -/
inductive EventKind where
  | collision
  | text
  | integer
  | truth
  | number
  | nothing
  | list
  | mapping
  | date
  deriving DecidableEq, Repr, Inhabited

/-- The name of a kind in notes. -/
def EventKind.name : EventKind → String
  | .collision => "CollisionEvent"
  | .text => "str"
  | .integer => "int"
  | .truth => "bool"
  | .number => "float"
  | .nothing => "NoneType"
  | .list => "list"
  | .mapping => "dict"
  | .date => "date"

/-- A collision or a plain value. -/
inductive Event where
  | collision (e : CollisionEvent)
  | plain (v : Value)
  deriving Inhabited

namespace Event

/-- The kind of an event. -/
def kind : Event → EventKind
  | .collision _ => .collision
  | .plain .null => .nothing
  | .plain (.bool _) => .truth
  | .plain (.int _) => .integer
  | .plain (.float _) => .number
  | .plain (.str _) => .text
  | .plain (.date _) => .date
  | .plain (.list _) => .list
  | .plain (.object _) => .mapping

/-- Collisions are recorded, plain values are not. -/
def record? : Event → Option Record
  | .collision e => some e.record
  | .plain _ => none

/-- Reads an event: a mapping is a collision, anything else a plain value. -/
def check : Value → Checked Event
  | .object entries => (CollisionEvent.check (.object entries)).map .collision
  | v => .ok (.plain v)

end Event

/-- Subscriptions to kinds of events, in order, and the last events, the newest at the end. -/
structure EventBus (H : Type) where
  handlers : List (EventKind × H) := []
  history : List Event := []
  /-- How many events a bounded history keeps. -/
  capacity : Nat := 256
  /-- A history that is not bounded keeps all events. -/
  bounded : Bool := true
  deriving Inhabited

namespace EventBus

variable {H : Type}

/-- A bus whose history keeps a given number of events. -/
def keeping (capacity : Int) : Except Fault (EventBus H) :=
  if capacity < 0 then .error .badValue else .ok { capacity := capacity.toNat }

/-- A bus whose history keeps all events. -/
def keepingAll : EventBus H := { bounded := false }

/-- Adds a handler for a kind of event. -/
def subscribe (b : EventBus H) (kind : EventKind) (handler : H) : EventBus H :=
  { b with handlers := b.handlers ++ [(kind, handler)] }

/-- Takes away the oldest subscription of a handler to a kind of event. -/
def unsubscribe [DecidableEq H] (b : EventBus H) (kind : EventKind) (handler : H) : EventBus H :=
  { b with handlers := b.handlers.erase (kind, handler) }

/-- The handlers that an event of a kind goes to. -/
def handlersOf (b : EventBus H) (kind : EventKind) : List H :=
  (b.handlers.filter fun h => h.1 = kind).map (·.2)

/-- What a history keeps of a list of events: the last `capacity` of them, or all if
it is not bounded. -/
def recent (b : EventBus H) (events : List Event) : List Event :=
  if b.bounded then events.drop (events.length - b.capacity) else events

/-- The history keeps the last events, whenever the older ones were dropped. -/
theorem recent_append (b : EventBus H) (older newer : List Event) :
    b.recent (b.recent older ++ newer) = b.recent (older ++ newer) := by
  cases hbounded : b.bounded with
  | false => simp [recent, hbounded]
  | true =>
    have hlen : older.length - b.capacity ≤ older.length := Nat.sub_le _ _
    simp only [recent, hbounded, if_true]
    rw [← List.drop_append_of_le_length hlen, List.drop_drop]
    congr 1
    simp only [List.length_drop, List.length_append]
    omega

theorem recent_recent (b : EventBus H) (events : List Event) :
    b.recent (b.recent events) = b.recent events := by
  have happend := b.recent_append events []
  rwa [List.append_nil, List.append_nil] at happend

/-- Notes an event, and gives the handlers to call. -/
def publish (b : EventBus H) (e : Event) : EventBus H × List H :=
  ({ b with history := b.recent (b.history ++ [e]) }, b.handlersOf e.kind)

/-- Forgets all events. -/
def clearHistory (b : EventBus H) : EventBus H := { b with history := [] }

/-- What the bus notes when an event is published: only that nobody takes it. -/
def publishNotes (e : Event) (handlers : List H) : List Note :=
  if handlers.isEmpty then [.say "bus" .debug ("No handler for " ++ e.kind.name)] else []

end EventBus

end ScriptedStage
