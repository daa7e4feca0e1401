import ScriptedStage.Block.Plain

/-!
New blocks. A factory issues ids made of the type name, a token that belongs to the factory, and a
number that goes up by one with each id.
-/
namespace ScriptedStage

/-- Issues block ids. -/
structure BlockFactory where
  token : String
  /-- The number of ids issued so far. -/
  issued : Nat := 0
  deriving Repr

namespace BlockFactory

/-- The token of a factory that was not given one. -/
def defaultToken : String := "f00d42"

/-- The id with a number. -/
def idOf (token type : String) (n : Nat) : String := type ++ "_" ++ token ++ "_" ++ toString n

/-- Issues the next id. -/
def nextId (f : BlockFactory) (type : String) : String × BlockFactory :=
  (idOf f.token type (f.issued + 1), { f with issued := f.issued + 1 })

/-- A new block of a type, with the palette's values unless others are given. Only containers get
children. The id is issued before the values are looked at, so a block that fails on its values has
used up a number. -/
def create (f : BlockFactory) (type : String) (values : Option Value) (children : List Block) :
    Except Fault Block × BlockFactory :=
  let (id, f) := f.nextId type
  let chosen : Except Fault (List Value) :=
    match values with
    | none | some .null => .ok (BlockType.defaults type)
    | some v => Block.itemsOf v
  (chosen.map fun vs => ⟨id, type, vs, if BlockType.isContainer type then some children else none⟩, f)

end BlockFactory

end ScriptedStage
