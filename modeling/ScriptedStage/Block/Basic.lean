import ScriptedStage.Assoc
import ScriptedStage.Number
import ScriptedStage.Numeric.Read
import ScriptedStage.Value.Text

/-!
Blocks. A block is one instruction of an actor's program: an id, the name of its type, a list of
literal values, and for containers a list of child blocks. A type name that the palette does not
know is kept; such a block does nothing when it is run. `children` is `none` for a block that has no
room for children and `some []` for an empty container; the two are written differently.
-/
namespace ScriptedStage

/-- One instruction or container of a program. -/
structure Block where
  id : String
  type : String
  values : List Value := []
  children : Option (List Block) := none
  deriving Repr, Inhabited

/-- The top-level blocks of an actor's program. -/
abbrev Script := List Block

/-- What the palette says about a block type. -/
structure BlockDefinition where
  category : String
  label : String
  defaults : List Value := []
  container : Bool := false
  /-- An event trigger, which makes a script runnable when it comes first. -/
  hat : Bool := false

namespace BlockType

def moveSteps : String := "MOTION_MOVE_STEPS"
def turnRight : String := "MOTION_TURN_DEGREES"
def turnLeft : String := "MOTION_TURN_ANTICLOCKWISE"
def goTo : String := "MOTION_GOTO_XY"
def say : String := "LOOKS_SAY"
def changeSize : String := "LOOKS_CHANGE_SIZE_BY"
def repeatTimes : String := "CONTROL_REPEAT"
def flagClicked : String := "EVENT_FLAG_CLICKED"

/-- The block types of the palette. -/
def palette : Assoc BlockDefinition :=
  [(moveSteps, { category := "Motion", label := "Move \x7b\x7d steps", defaults := [.int 10] }),
   (turnRight, { category := "Motion", label := "Turn right \x7b\x7d degrees", defaults := [.int 15] }),
   (turnLeft, { category := "Motion", label := "Turn left \x7b\x7d degrees", defaults := [.int 15] }),
   (goTo, { category := "Motion", label := "Go to x:\x7b\x7d y:\x7b\x7d", defaults := [.int 0, .int 0] }),
   (say, { category := "Looks", label := "Say \x7b\x7d", defaults := [.str "Hello!"] }),
   (changeSize, { category := "Looks", label := "Change size by \x7b\x7d", defaults := [.int 10] }),
   (repeatTimes,
     { category := "Controls", label := "Repeat \x7b\x7d times", defaults := [.int 10],
       container := true }),
   (flagClicked, { category := "Events", label := "When Green Flag clicked", hat := true })]

/-- The palette entry of a type name. -/
def definition? (type : String) : Option BlockDefinition := palette.get? type

/-- A type whose blocks have children. -/
def isContainer (type : String) : Bool := (definition? type).any (·.container)

/-- A type whose blocks start a script. -/
def isTrigger (type : String) : Bool := (definition? type).any (·.hat)

/-- The values that a new block of a type starts with. -/
def defaults (type : String) : List Value := ((definition? type).map (·.defaults)).getD []

end BlockType

/-- Reads a literal as a number. What is no number, and what is not finite, reads as zero; a text
that spells a whole number reads as an integer. -/
def Value.asNumber : Value → Number
  | .int n => if (Numeric.ofInteger n).isInf then .int 0 else .int n
  | .float x => if x.isFinite then .float x else .int 0
  | .str s =>
    match Numeric.readFloatAnyScript s with
    | none => .int 0
    | some x =>
      if !x.isFinite then .int 0
      else if Numeric.isIntegral x then .int (Numeric.truncate x)
      else .float x
  | _ => .int 0

namespace Block

def isContainer (b : Block) : Bool := BlockType.isContainer b.type
def isTrigger (b : Block) : Bool := BlockType.isTrigger b.type

/-- The children, with none counting as no children. -/
def kids (b : Block) : List Block := b.children.getD []

/-- A parameter of a block; one that is not there is zero. -/
def parameter (b : Block) (i : Nat) : Value := b.values.getD i (.int 0)

mutual
/-- A block and all blocks below it, each before its children. -/
def preorder : Block → List Block
  | ⟨id, type, values, none⟩ => [⟨id, type, values, none⟩]
  | ⟨id, type, values, some cs⟩ => ⟨id, type, values, some cs⟩ :: preorderAll cs
/-- The blocks of a list of trees, tree by tree. -/
def preorderAll : List Block → List Block
  | [] => []
  | b :: rest => preorder b ++ preorderAll rest
end

mutual
/-- Drops the children of every block that is not a container. -/
def prune : Block → Block
  | ⟨id, type, values, none⟩ => ⟨id, type, values, none⟩
  | ⟨id, type, values, some cs⟩ =>
    ⟨id, type, values, if BlockType.isContainer type then some (pruneAll cs) else none⟩
/-- Prunes each of a list of blocks. -/
def pruneAll : List Block → List Block
  | [] => []
  | b :: rest => prune b :: pruneAll rest
end

mutual
/-- The plain form of a block: its id, type and values, and its children when it has
room for any. -/
def toValue : Block → Value
  | ⟨id, type, values, none⟩ =>
    .record [("id", .str id), ("type", .str type), ("values", .list values)]
  | ⟨id, type, values, some cs⟩ =>
    .record [("id", .str id), ("type", .str type), ("values", .list values),
      ("children", .list (toValues cs))]
/-- The plain forms of a list of blocks. -/
def toValues : List Block → List Value
  | [] => []
  | b :: rest => toValue b :: toValues rest
end

mutual
/-- The form of a block with every field written out, absent children as null. -/
def dump : Block → Value
  | ⟨id, type, values, none⟩ =>
    .record [("id", .str id), ("type", .str type), ("values", .list values), ("children", .null)]
  | ⟨id, type, values, some cs⟩ =>
    .record [("id", .str id), ("type", .str type), ("values", .list values),
      ("children", .list (dumpAll cs))]
/-- The written-out forms of a list of blocks. -/
def dumpAll : List Block → List Value
  | [] => []
  | b :: rest => dump b :: dumpAll rest
end

end Block

namespace Script

/-- All blocks of a script in pre-order. -/
def preorder (s : Script) : List Block := Block.preorderAll s

/-- The ids of a script in pre-order. -/
def ids (s : Script) : List String := s.preorder.map (·.id)

/-- A script can run when its first block is an event trigger. -/
def isEligible : Script → Bool
  | [] => false
  | b :: _ => b.isTrigger

end Script

end ScriptedStage
