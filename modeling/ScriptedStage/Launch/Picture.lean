import ScriptedStage.Actor
import ScriptedStage.Number
import ScriptedStage.Settings

/-!
How a stage is drawn. The stage is enlarged to fit the window and centred in it; every actor is a
rectangle in the colour of its kind, with its id below and its message beside it. Positions on the
screen are whole pixels.
-/
namespace ScriptedStage

/-- A colour by its parts red, green and blue. -/
structure Colour where
  red : Nat
  green : Nat
  blue : Nat
  deriving DecidableEq, Repr, Inhabited

namespace Colour

def background : Colour := ⟨245, 245, 245⟩
def border : Colour := ⟨180, 180, 180⟩
def outline : Colour := ⟨255, 170, 0⟩

/-- The colour of actors of a kind. -/
def ofKind (kind : String) : Colour :=
  match kind with
  | "cat" => ⟨255, 140, 26⟩
  | "dog" => ⟨76, 151, 255⟩
  | "cat2" => ⟨153, 102, 255⟩
  | _ => ⟨120, 120, 120⟩

end Colour

/-- A rectangle of pixels, by its corner at the top left and its size. -/
structure Rectangle where
  x : Int
  y : Int
  width : Int
  height : Int
  deriving DecidableEq, Repr, Inhabited

namespace Rectangle

/-- The rectangle of a size around a centre. Halves of pixels are dropped. -/
def around (cx cy width height : Int) : Rectangle :=
  { x := cx - width.tdiv 2, y := cy - height.tdiv 2, width := width, height := height }

/-- The middle between the left and the right side. -/
def centreX (r : Rectangle) : Int := r.x + r.width.tdiv 2

/-- The middle between the top and the bottom. -/
def centreY (r : Rectangle) : Int := r.y + r.height.tdiv 2

end Rectangle

/-- One step of drawing in a window. -/
inductive Drawing where
  /-- Open a window of a size. -/
  | openWindow (width height : Int)
  | caption (text : String)
  /-- Wait for the next frame at a rate. -/
  | wait (rate : Value)
  | fill (c : Colour)
  /-- Draw a rectangle with a line of a width, or filled if the width is zero. -/
  | rectangle (c : Colour) (r : Rectangle) (line : Nat)
  | text (text : String) (x y : Int)
  /-- Show what was drawn. -/
  | present
  | closeWindow
  deriving Repr, Inhabited

/-- Where the stage is in the window, and how much it is enlarged. -/
structure View where
  zoom : Float
  area : Rectangle
  deriving Repr, Inhabited

namespace View

/-- The height of a line of text. -/
def lineHeight : Int := 16

/-- The integer part of a product. -/
def scaled (v : Value) (factor : Float) : Except Fault Int := do
  (← (← v.number).mul (.float factor)).integerPart

/-- The view of a stage in a window: as large as fits, in the middle. -/
def ofWindow (settings : Settings) (width height : Int) : Except Fault View := do
  let across ← (Number.int width).div (← settings.width.number)
  let down ← (Number.int height).div (← settings.height.number)
  let zoom := if down < across then down else across
  let w ← scaled settings.width zoom
  let h ← scaled settings.height zoom
  return { zoom := zoom, area := .around (width.fdiv 2) (height.fdiv 2) w h }

/-- The rectangle of an actor, at least a pixel wide and high. -/
def rectangleOf (v : View) (a : Actor) : Except Fault Rectangle := do
  let factor := (← (← a.scale.number).div (.float 100)) * v.zoom
  let w ← scaled a.width factor
  let h ← scaled a.height factor
  let cx ← (Number.int v.area.centreX).add (← (← a.x.number).mul (.float v.zoom))
  let cy ← (Number.int v.area.centreY).sub (← (← a.y.number).mul (.float v.zoom))
  return .around (← cx.integerPart) (← cy.integerPart) (max 1 w) (max 1 h)

/-- The drawing of an actor in its rectangle. -/
def drawActor (selected : Option String) (a : Actor) (r : Rectangle) : List Drawing :=
  [.rectangle (.ofKind a.kind) r 0] ++
  (if selected = some a.id then [.rectangle .outline r 2] else []) ++
  [.text a.id r.x (r.y + r.height + 2)] ++
  (match a.message with
    | none | some "" => []
    | some m => [.text m (r.x + r.width + 4) (r.y - lineHeight)])

/-- The drawings of actors, up to the first that cannot be drawn. -/
def drawActors (v : View) (selected : Option String) : List Actor → List Drawing × Except Fault Unit
  | [] => ([], .ok ())
  | a :: rest =>
    match v.rectangleOf a with
    | .error e => ([], .error e)
    | .ok r =>
      let (more, outcome) := v.drawActors selected rest
      (drawActor selected a r ++ more, outcome)

/-- What is said about the run. -/
def status (running : Bool) : String := if running then "RUNNING" else "STOPPED  (SPACE to start)"

/-- The drawing of a stage. -/
def drawStage (v : View) (s : Stage) : List Drawing × Except Fault Unit :=
  let frame : List Drawing := [.fill .background, .rectangle .border v.area 1]
  match v.drawActors s.selected s.actors with
  | (drawn, .error e) => (frame ++ drawn, .error e)
  | (drawn, .ok _) => (frame ++ drawn ++ [.text (status s.running) 8 8], .ok ())

end View

end ScriptedStage
