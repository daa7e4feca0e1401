import ScriptedStage.Block.Basic
import ScriptedStage.Schema.Checked

/-!
Project documents: a named stage with settings, actors and their scripts, as someone writes it down.
Ids may be left out, and so may values that the palette knows. Fields that an actor or a block does
not have are issues; at the top they are ignored.
-/
namespace ScriptedStage

/-- A block as written down. -/
structure BlockEntry where
  id : Option String
  type : String
  values : Option (List Value)
  children : Option (List BlockEntry)
  deriving Inhabited

/-- An actor as written down. -/
structure ActorEntry where
  id : Option String := none
  kind : String
  x : Float := 0
  y : Float := 0
  heading : Option Float := none
  scale : Option Float := none
  script : List BlockEntry := []
  deriving Inhabited

/-- A project as written down. -/
structure ProjectDocument where
  name : String := "Untitled"
  /-- The settings of the stage, by name. -/
  stage : Assoc Value := []
  actors : List ActorEntry := []
  selected : Option String := none
  deriving Inhabited

namespace BlockEntry

/-- The fields of a block. -/
def fieldNames : List String := ["id", "type", "values", "children"]

mutual
/-- Reads a block. -/
def check : Value → Checked BlockEntry
  | .object entries =>
    let head := Checked.both Prod.mk
      (Schema.withDefault entries "id" none (Schema.optional Schema.text))
      (Schema.required entries "type" Schema.nonEmptyText)
    let values := Schema.withDefault entries "values" none (Schema.optional (Schema.list Schema.literal))
    (Checked.both (fun (h : (Option String × String) × Option (List Value)) cs =>
        (⟨h.1.1, h.1.2, h.2, cs⟩ : BlockEntry))
      (.both Prod.mk head values) (checkChildren entries)).alsoReport
      (Schema.unknownFields fieldNames entries)
  | _ => .fail .notRecord
/-- Reads the children among the fields of a block. -/
def checkChildren : List (Key × Value) → Checked (Option (List BlockEntry))
  | [] => .ok none
  | (k, v) :: rest =>
    if k = .str "children" then (checkChildList v).within (.field "children") else checkChildren rest
/-- Reads the children of a block. -/
def checkChildList : Value → Checked (Option (List BlockEntry))
  | .null => .ok none
  | .list items => (checkFrom 0 items).map some
  | _ => .fail .notList
/-- Reads blocks from a position on. -/
def checkFrom : Nat → List Value → Checked (List BlockEntry)
  | _, [] => .ok []
  | n, v :: rest => .both (· :: ·) ((check v).within (.index n)) (checkFrom (n + 1) rest)
end

end BlockEntry

namespace ActorEntry

/-- The fields of an actor. -/
def fieldNames : List String := ["id", "kind", "x", "y", "heading", "scale", "script"]

/-- Reads an actor. -/
def check : Value → Checked ActorEntry
  | .object entries =>
    let names := Checked.both Prod.mk
      (Schema.withDefault entries "id" none (Schema.optional Schema.text))
      (Schema.required entries "kind" Schema.nonEmptyText)
    let place := Checked.both Prod.mk (Schema.withDefault entries "x" 0 Schema.double)
      (Schema.withDefault entries "y" 0 Schema.double)
    let shape := Checked.both Prod.mk
      (Schema.withDefault entries "heading" none (Schema.optional Schema.double))
      (Schema.withDefault entries "scale" none (Schema.optional Schema.double))
    let script := Schema.withDefault entries "script" [] (Schema.list BlockEntry.check)
    (Checked.both (fun (h : (Option String × String) × (Float × Float))
          (t : (Option Float × Option Float) × List BlockEntry) =>
        (⟨h.1.1, h.1.2, h.2.1, h.2.2, t.1.1, t.1.2, t.2⟩ : ActorEntry))
      (.both Prod.mk names place) (.both Prod.mk shape script)).alsoReport
      (Schema.unknownFields fieldNames entries)
  | _ => .fail .notRecord

end ActorEntry

namespace ProjectDocument

/-- Reads settings: their names have to be texts, their values may be anything. -/
def checkSettings : List (Key × Value) → Checked (Assoc Value)
  | [] => .ok []
  | (.str name, v) :: rest => (checkSettings rest).map ((name, v) :: ·)
  | (k, _) :: rest =>
    .both (fun (_ : Unit) settings => settings)
      (.error [⟨.notText, [Schema.keyPart k, .field "[key]"]⟩]) (checkSettings rest)

/-- Reads the settings of a stage. -/
def checkStage : Value → Checked (Assoc Value)
  | .object entries => checkSettings entries
  | _ => .fail .notMapping

/-- Reads a project. -/
def check : Value → Checked ProjectDocument
  | .object entries =>
    let head := Checked.both Prod.mk (Schema.withDefault entries "name" "Untitled" Schema.text)
      (Schema.withDefault entries "stage" [] checkStage)
    let rest := Checked.both Prod.mk
      (Schema.withDefault entries "actors" [] (Schema.list ActorEntry.check))
      (Schema.withDefault entries "selected" none (Schema.optional Schema.text))
    .both (fun h r => ⟨h.1, h.2, r.1, r.2⟩) head rest
  | _ => .fail .notRecord

end ProjectDocument

end ScriptedStage
