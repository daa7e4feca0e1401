import ScriptedStage.Journal.Note
import ScriptedStage.Run.Execution

/-!
The interpreter. `execute` runs one block for one actor and gives the changes to the actor, whether
the caller may move on to the next block, and the new execution state. A repeat block runs one leaf
of its body per call and lets the caller move on only with the last leaf of its last pass, so that a
nest of repeats unfolds one leaf at a time. Blocks of an unknown type and stray triggers do nothing.
-/
namespace ScriptedStage

/-- The outcome of running one block. -/
structure StepResult where
  /-- The fields of the actor that change, or none when the block does not touch the actor. -/
  delta : Option Delta
  /-- Whether the caller may move past the block. -/
  advance : Bool
  state : Execution
  notes : List Note := []

/-- What a block type does. -/
inductive Behaviour where
  | move
  | turnRight
  | turnLeft
  | goTo
  | say
  | changeSize
  | repeatTimes
  | nothing
  /-- A behaviour registered from outside: always the same changes and the same answer. -/
  | fixed (delta : Option Delta) (advance : Bool)
  deriving Repr, Inhabited

/-- The behaviours of the palette. -/
def builtInBehaviours : Assoc Behaviour :=
  [(BlockType.moveSteps, .move), (BlockType.turnRight, .turnRight), (BlockType.turnLeft, .turnLeft),
   (BlockType.goTo, .goTo), (BlockType.say, .say), (BlockType.changeSize, .changeSize),
   (BlockType.repeatTimes, .repeatTimes), (BlockType.flagClicked, .nothing)]

/-- An interpreter: the behaviour of each block type, and the limits of an actor's size. -/
structure Interpreter where
  behaviours : Assoc Behaviour := builtInBehaviours
  minScale : Value := .float 10
  maxScale : Value := .float 500
  deriving Repr, Inhabited

namespace Interpreter

/-- Gives a block type a behaviour, in place of the one it had. -/
def register (i : Interpreter) (type : String) (b : Behaviour) : Interpreter :=
  { i with behaviours := i.behaviours.set type b }

/-- Whether a block type has a behaviour. -/
def supports (i : Interpreter) (type : String) : Bool := (i.behaviours.get? type).isSome

/-- The angle of a heading in radians, measured from the direction to the right. -/
def angle (heading : Value) : Except Fault Float := do
  let turned ← (← heading.number).sub (.int 90)
  let a := (← turned.toFloat) * (3.141592653589793 / 180)
  if a.isInf then .error .badValue else .ok a

/-- Moves along the heading. -/
def moveDelta (a : Actor) (steps : Number) : Except Fault Delta := do
  let angle ← angle a.heading
  let x ← (← a.x.number).add (← steps.mul (.float angle.cos))
  let y ← (← a.y.number).add (← steps.mul (.float angle.sin))
  return [("x", x.toValue), ("y", y.toValue)]

/-- Turns by some degrees, to the right when `turn` adds them and to the left when it
subtracts them. -/
def turnDelta (a : Actor) (turn : Number → Number → Except Fault Number) (degrees : Number) :
    Except Fault Delta := do
  return [("heading", (wrapHeading (← turn (← a.heading.number) degrees)).toValue)]

/-- What a say block shows: nothing for an empty text and for an integer too long to write. -/
def sayDelta (values : List Value) : Delta :=
  let text :=
    match values with
    | [] | .null :: _ => ""
    | v :: _ => v.display.toOption.getD ""
  [("displayed_message", if text.isEmpty then .null else .str text)]

/-- The larger of two values; the first when neither is larger. -/
def larger (a b : Value) : Except Fault Value := do return if ← a.less b then b else a

/-- The smaller of two values; the first when neither is smaller. -/
def smaller (a b : Value) : Except Fault Value := do return if ← b.less a then b else a

/-- Changes the size within the limits. -/
def sizeDelta (i : Interpreter) (a : Actor) (amount : Number) : Except Fault Delta := do
  let scale ← (← a.scale.number).add amount
  return [("scale", ← smaller (← larger scale.toValue i.minScale) i.maxScale)]

/-- The number of passes of a repeat block. -/
def passes (b : Block) : Int := (b.parameter 0).asNumber.integerPart.toOption.getD 0

/-- Ends a pass: the last one lets the caller move on. -/
def finishPass (block : String) (progress : LoopProgress) (state : Execution) (delta : Option Delta)
    (notes : List Note) : StepResult :=
  if progress.remaining - 1 ≤ 0 then ⟨delta, true, state.clearLoop block, notes⟩
  else ⟨delta, false, state.setLoop block ⟨progress.remaining - 1, 0⟩, notes⟩

/-- What a repeat block does once its child has run. -/
def afterChild (block : String) (count : Nat) (progress : LoopProgress) (child : StepResult) :
    StepResult :=
  let next := if child.advance then progress.child + 1 else progress.child
  if next < count then
    ⟨child.delta, false, child.state.setLoop block ⟨progress.remaining, next⟩, child.notes⟩
  else finishPass block progress child.state child.delta child.notes

/-- What a call of a repeat block has to do. -/
inductive RepeatCall where
  /-- Nothing is left to run. -/
  | done (result : StepResult)
  /-- A child runs. -/
  | child (progress : LoopProgress)

/-- Decides what a call of a repeat block does, from its recorded progress or from the start. -/
def planRepeat (b : Block) (state : Execution) : RepeatCall :=
  let count := b.kids.length
  let begin (progress : LoopProgress) : RepeatCall :=
    if progress.remaining ≤ 0 || count = 0 then .done ⟨none, true, state.clearLoop b.id, []⟩
    else if (count : Int) ≤ progress.child then .done (finishPass b.id progress state none [])
    else .child progress
  match state.loops.get? b.id with
  | some progress => begin progress
  | none =>
    if passes b ≤ 0 || count = 0 then .done ⟨none, true, state, []⟩ else begin ⟨passes b, 0⟩

/-- A position in a list of `count` items; a negative one counts from the end. -/
def position? (count : Nat) (i : Int) : Option Nat :=
  if 0 ≤ i then some i.toNat
  else if 0 ≤ i + count then some (i + count).toNat
  else none

mutual
/-- Runs one block for one actor. -/
def execute (i : Interpreter) (a : Actor) (state : Execution) : Block → Except Fault StepResult
  | ⟨id, type, values, children⟩ =>
    let b : Block := ⟨id, type, values, children⟩
    let leaf (delta : Except Fault Delta) : Except Fault StepResult :=
      delta.map fun d => ⟨some d, true, state, []⟩
    match i.behaviours.get? type with
    | none =>
      .ok ⟨none, true, state, [.say "interpreter" .debug s!"Skipping unsupported block {id} ({type})"]⟩
    | some .nothing => .ok ⟨none, true, state, []⟩
    | some (.fixed delta advance) => .ok ⟨delta, advance, state, []⟩
    | some .move => leaf (moveDelta a (b.parameter 0).asNumber)
    | some .turnRight => leaf (turnDelta a Number.add (b.parameter 0).asNumber)
    | some .turnLeft => leaf (turnDelta a Number.sub (b.parameter 0).asNumber)
    | some .goTo =>
      leaf (.ok [("x", (b.parameter 0).asNumber.toValue), ("y", (b.parameter 1).asNumber.toValue)])
    | some .say => leaf (.ok (sayDelta values))
    | some .changeSize => leaf (sizeDelta i a (b.parameter 0).asNumber)
    | some .repeatTimes =>
      match planRepeat b state with
      | .done result => .ok result
      | .child progress =>
        match position? b.kids.length progress.child, children with
        | some n, some cs =>
          (executeNth i a state cs n).map (afterChild id b.kids.length progress)
        | _, _ => .error .outOfRange
/-- Runs the block at a position of a list. -/
def executeNth (i : Interpreter) (a : Actor) (state : Execution) :
    List Block → Nat → Except Fault StepResult
  | [], _ => .error .outOfRange
  | b :: _, 0 => execute i a state b
  | _ :: rest, n + 1 => executeNth i a state rest n
end

/-- Runs the block of a slot; an empty slot is skipped. -/
def executeSlot (i : Interpreter) (a : Actor) (state : Execution) : Option Block → Except Fault StepResult
  | none => .ok ⟨none, true, state, []⟩
  | some b => i.execute a state b

end Interpreter

end ScriptedStage
