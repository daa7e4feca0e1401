import ScriptedStage.Block.Basic

/-!
Actors and the stage. An actor is a sprite with a position, a heading, a size and a program. Its
numeric fields are values rather than numbers: settings and raw updates may put anything there, and
an operation that needs a number says so when it meets something else.
-/
namespace ScriptedStage

/-- A sprite on the stage. The position is that of its centre, the heading is in degrees with 90 to
the right, and the scale is a percentage of the width and height. -/
structure Actor where
  id : String
  kind : String := "cat"
  x : Value := .float 0
  y : Value := .float 0
  heading : Value := .float 90
  scale : Value := .float 100
  width : Value := .float 50
  height : Value := .float 50
  message : Option String := none
  script : Script := []
  deriving Repr, Inhabited

/-- Changes to single fields of an actor, by field name. -/
abbrev Delta := Assoc Value

namespace Actor

/-- Sets one field. Only the kinds of value that a field can hold are taken. -/
def setField (a : Actor) (name : String) (v : Value) : Except Fault Actor :=
  match name, v with
  | "x", v => .ok { a with x := v }
  | "y", v => .ok { a with y := v }
  | "heading", v => .ok { a with heading := v }
  | "scale", v => .ok { a with scale := v }
  | "width", v => .ok { a with width := v }
  | "height", v => .ok { a with height := v }
  | "displayed_message", .null => .ok { a with message := none }
  | "displayed_message", .str s => .ok { a with message := some s }
  | "id", .str s => .ok { a with id := s }
  | "kind", .str s => .ok { a with kind := s }
  | _, _ => .error .wrongKind

/-- Sets the fields of a delta in order. -/
def applyDelta (a : Actor) : Delta → Except Fault Actor
  | [] => .ok a
  | (name, v) :: rest => do (← a.setField name v).applyDelta rest

end Actor

/-- The whole stage: the actors in order, the selected one, and whether a run is on. -/
structure Stage where
  actors : List Actor := []
  selected : Option String := none
  running : Bool := false
  deriving Repr, Inhabited

namespace Stage

/-- The first actor with an id. -/
def actor? (s : Stage) (id : String) : Option Actor := s.actors.find? fun a => a.id = id

/-- The ids of the actors in order. -/
def ids (s : Stage) : List String := s.actors.map (·.id)

end Stage

end ScriptedStage
