import ScriptedStage.Actor
import ScriptedStage.Number

/-!
Bounding boxes. An actor covers a box around its position whose sides are its width and height,
scaled by a percentage. Boxes that only touch do not overlap.
-/
namespace ScriptedStage

/-- A box with sides along the axes. -/
structure Bounds where
  left : Number
  right : Number
  top : Number
  bottom : Number
  deriving DecidableEq, Repr, Inhabited

namespace Bounds

/-- Half of a scaled side. -/
def halfSide (side : Value) (factor : Number) : Except Fault Number := do
  let scaled ← (← side.number).mul factor
  return .float (← scaled.div (.int 2))

/-- The box of an actor; an actor without width or height has none. -/
def ofActor (a : Actor) : Except Fault (Option Bounds) :=
  if a.width.isFalsy || a.height.isFalsy then .ok none
  else do
    let scale ← if a.scale.isFalsy then .ok (.int 0) else a.scale.number
    let factor := Number.float (← scale.div (.float 100))
    let halfWidth ← halfSide a.width factor
    let halfHeight ← halfSide a.height factor
    let x ← a.x.number
    let left ← x.sub halfWidth
    let right ← x.add halfWidth
    let y ← a.y.number
    let top ← y.sub halfHeight
    let bottom ← y.add halfHeight
    return some ⟨left, right, top, bottom⟩

/-- Whether two boxes share an inner point. -/
def overlaps (a b : Bounds) : Bool :=
  a.left.lt b.right && b.left.lt a.right && a.top.lt b.bottom && b.top.lt a.bottom

/-- A box from its four sides. -/
def ofSides (left right top bottom : Value) : Except Fault Bounds := do
  return ⟨← left.number, ← right.number, ← top.number, ← bottom.number⟩

theorem overlaps_comm (a b : Bounds) : a.overlaps b = b.overlaps a := by
  simp only [overlaps]
  cases a.left.lt b.right <;> cases b.left.lt a.right <;> cases a.top.lt b.bottom <;>
    cases b.top.lt a.bottom <;> rfl

end Bounds

end ScriptedStage
