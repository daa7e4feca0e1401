import ScriptedStage.Actor
import ScriptedStage.Block.Factory
import ScriptedStage.Project.Document
import ScriptedStage.Script.Edit
import ScriptedStage.Settings

/-!
From a project document to a stage. Actors and blocks without ids get some; an actor's kind has to
be in the catalog, actors may not share an id, and neither may the blocks of one script. A stage
goes back into a document by `Stage.toDocument`.
-/
namespace ScriptedStage

/-- A note about a project. -/
def projectNote (level : Level) (text : String) : Note := .say "project" level text

/-- An id that was given; an empty one counts as none. -/
def givenId : Option String → Option String
  | some "" => none
  | id => id

namespace BlockEntry

/-- What is noted about children of a block that cannot have any. -/
def droppedNote (e : BlockEntry) : Note :=
  projectNote .warning ("Block " ++ (givenId e.id).getD "<new>" ++ " of type " ++ e.type ++
    " cannot have children, dropped")

/-- The id of a block: the one written down, or else a new one. -/
def chooseId (f : BlockFactory) (id : Option String) (type : String) : String × BlockFactory :=
  match givenId id with
  | some id => (id, f)
  | none => f.nextId type

mutual
/-- A block of a script. Its children get their ids before it does. -/
def build (f : BlockFactory) : BlockEntry → Block × BlockFactory × List Note
  | ⟨id, type, values, children⟩ =>
    if BlockType.isContainer type then
      let (kids, f, notes) := buildKids f children
      let (id, f) := chooseId f id type
      (⟨id, type, values.getD (BlockType.defaults type), some kids⟩, f, notes)
    else
      let notes := if (children.getD []).isEmpty then [] else [droppedNote ⟨id, type, values, none⟩]
      let (id, f) := chooseId f id type
      (⟨id, type, values.getD (BlockType.defaults type), none⟩, f, notes)
/-- The children of a container, if any were written down. -/
def buildKids (f : BlockFactory) : Option (List BlockEntry) → List Block × BlockFactory × List Note
  | none => ([], f, [])
  | some entries => buildAll f entries
/-- Blocks in order. -/
def buildAll (f : BlockFactory) : List BlockEntry → List Block × BlockFactory × List Note
  | [] => ([], f, [])
  | e :: rest =>
    let (b, f, notes) := build f e
    let (bs, f, more) := buildAll f rest
    (b :: bs, f, notes ++ more)
end

end BlockEntry

namespace ActorEntry

/-- The actor of an entry, given the actors before it. -/
def build (catalog : Catalog) (settings : Settings) (before : List Actor) (f : BlockFactory)
    (e : ActorEntry) :
    List Note × Except ProjectError (Actor × BlockFactory) :=
  match catalog.get? e.kind with
  | none => ([], .error (.unknownKind e.kind catalog.kinds))
  | some sprite =>
    let taken := before.map (·.id)
    let id := (givenId e.id).getD (freeActorId e.kind taken)
    if taken.contains id then ([], .error (.duplicateActor id))
    else
      let (script, f, notes) := BlockEntry.buildAll f e.script
      match Script.duplicateIds script with
      | [] =>
        (notes, .ok
          ({ id := id, kind := e.kind, x := .float e.x, y := .float e.y
             heading := (e.heading.map Value.float).getD settings.defaultHeading
             scale := (e.scale.map Value.float).getD settings.defaultScale
             width := sprite.width, height := sprite.height, script := script }, f))
      | duplicates => (notes, .error (.duplicateBlocks id (sortTexts duplicates)))

/-- The actors of entries, after those that are there already. -/
def buildAll (catalog : Catalog) (settings : Settings) (before : List Actor) (f : BlockFactory) :
    List ActorEntry → List Note × Except ProjectError (List Actor)
  | [] => ([], .ok before)
  | e :: rest =>
    match build catalog settings before f e with
    | (notes, .error error) => (notes, .error error)
    | (notes, .ok (a, f)) =>
      let (more, outcome) := buildAll catalog settings (before ++ [a]) f rest
      (notes ++ more, outcome)

end ActorEntry

namespace ProjectDocument

/-- The selected actor: the one written down if it is there, or else the first. -/
def chooseSelected (selected : Option String) (ids : List String) : Option String × List Note :=
  match selected with
  | none => (ids.head?, [])
  | some id =>
    if ids.contains id then (some id, [])
    else
      (ids.head?, [projectNote .warning
        ("Selected actor " ++ id ++ " not in project, selecting first actor")])

/-- The stage of a document, stopped. -/
def build (catalog : Catalog) (settings : Settings) (f : BlockFactory) (d : ProjectDocument) :
    List Note × Except ProjectError Stage :=
  match ActorEntry.buildAll catalog settings [] f d.actors with
  | (notes, .error error) => (notes, .error error)
  | (notes, .ok actors) =>
    let (selected, more) := chooseSelected d.selected (actors.map (·.id))
    (notes ++ more, .ok { actors := actors, selected := selected, running := false })

/-- The settings of a document, and then its stage. -/
def realize (catalog : Catalog) (rate : Option String) (f : BlockFactory) (d : ProjectDocument) :
    List Note × Except Fault (Settings × Stage) :=
  match Settings.read (.record d.stage) rate with
  | (notes, .error e) => (notes, .error e)
  | (notes, .ok settings) =>
    let (more, outcome) := d.build catalog settings f
    (notes ++ more, (outcome.mapError Fault.project).map fun stage => (settings, stage))

end ProjectDocument

/-- An actor as a document holds it. -/
def Actor.toDocument (a : Actor) : Value :=
  .record [("id", .str a.id), ("kind", .str a.kind), ("x", a.x), ("y", a.y), ("heading", a.heading),
    ("scale", a.scale), ("script", .list (Block.toValues a.script))]

/-- A stage as a document. Messages and the run are not part of it. -/
def Stage.toDocument (s : Stage) (settings : Settings) (name : String) : Value :=
  .record [("name", .str name), ("stage", settings.toValue),
    ("selected", (s.selected.map Value.str).getD .null), ("actors", .list (s.actors.map Actor.toDocument))]

end ScriptedStage
