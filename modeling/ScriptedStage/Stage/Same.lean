import ScriptedStage.Actor
import ScriptedStage.Number

/-!
When two stages are the same. Numbers are compared by value, so that `1` and `1.0` are the
same. A NaN differs from every number in a field of an actor; a literal NaN in a script is
the same as another one.
-/
namespace ScriptedStage

/-- Whether two literals are the same. -/
def Value.sameLiteral : Value → Value → Bool
  | .float x, .float y => x == y || (x.isNaN && y.isNaN)
  | a, b => a.same b

mutual
/-- Whether two blocks are the same, children included. -/
def Block.same : Block → Block → Bool
  | ⟨id, type, values, children⟩, ⟨id', type', values', children'⟩ =>
    id == id' && type == type' && values.length == values'.length &&
      (values.zip values').all (fun p => p.1.sameLiteral p.2) && Block.sameChildren children children'
/-- Whether two blocks have the same room for children and the same children. -/
def Block.sameChildren : Option (List Block) → Option (List Block) → Bool
  | none, none => true
  | some bs, some bs' => Block.sameAll bs bs'
  | _, _ => false
/-- Whether two scripts are the same. -/
def Block.sameAll : List Block → List Block → Bool
  | [], [] => true
  | b :: bs, b' :: bs' => Block.same b b' && Block.sameAll bs bs'
  | _, _ => false
end

/-- Whether two actors are the same. -/
def Actor.same (a b : Actor) : Bool :=
  a.id == b.id && a.kind == b.kind && a.x.same b.x && a.y.same b.y && a.heading.same b.heading &&
    a.scale.same b.scale && a.width.same b.width && a.height.same b.height && a.message == b.message &&
    Block.sameAll a.script b.script

/-- Whether two stages are the same. -/
def Stage.same (s t : Stage) : Bool :=
  s.selected == t.selected && s.running == t.running && s.actors.length == t.actors.length &&
    (s.actors.zip t.actors).all fun p => p.1.same p.2

end ScriptedStage
