import ScriptedStage.Assoc
import ScriptedStage.Text.Case
import ScriptedStage.Value.Basic

/-!
The sprite catalog: the kinds of actor that can be put on the stage, and the ids that
new actors get.
-/
namespace ScriptedStage

/-- A kind of actor with its natural size. -/
structure Sprite where
  kind : String
  name : String
  image : String := ""
  width : Value := .float 50
  height : Value := .float 50
  deriving Repr, Inhabited

/-- A sprite of a kind, with a name to show. -/
def Sprite.ofKind (kind : String) : Sprite := { kind := kind, name := Text.title kind }

/-- The kinds of actor, by name of the kind. -/
abbrev Catalog := Assoc Sprite

/-- Texts in the order of their code points. -/
def sortTexts (texts : List String) : List String := texts.mergeSort fun a b => !(b < a)

namespace Catalog

/-- The kinds that come with the stage. -/
def builtIn : Catalog :=
  [("cat", { kind := "cat", name := "Cat", image := "assets/cat.svg" }),
   ("dog", { kind := "dog", name := "Dog", image := "assets/dog.svg" }),
   ("cat2", { kind := "cat2", name := "Cat2", image := "assets/cat2.svg" })]

/-- The names of the kinds in order. -/
def kinds (c : Catalog) : List String := sortTexts c.keys

end Catalog

/-- The id of a kind with a number. -/
def actorIdOf (kind : String) (n : Nat) : String := kind ++ "-" ++ toString n

/-- The id of a kind with the least number from one on that is not taken. One more number than there
are ids is enough to find one. -/
def freeActorId (kind : String) (taken : List String) : String :=
  let numbers := (List.range (taken.length + 1)).map (· + 1)
  actorIdOf kind ((numbers.find? fun n => !taken.contains (actorIdOf kind n)).getD (taken.length + 1))

end ScriptedStage
