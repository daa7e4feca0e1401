import ScriptedStage.Intent.Basic
import ScriptedStage.Schema.Checked

/-!
Reading intents from an action name and a plain payload. Fields are checked in the order in which an
intent declares them; fields that an intent does not have are ignored, except in the changes to an
actor, where they are issues.
-/
namespace ScriptedStage

namespace Block

mutual
/-- Reads a block as sent: id and type are texts that are not empty, values are literals, and
children are read whatever the type. -/
def check : Value → Checked Block
  | .object entries =>
    let head := Checked.both Prod.mk (Schema.required entries "id" Schema.nonEmptyText)
      (Schema.required entries "type" Schema.nonEmptyText)
    let values := Schema.withDefault entries "values" [] (Schema.list Schema.literal)
    .both (fun (h : (String × String) × List Value) cs => ⟨h.1.1, h.1.2, h.2, cs⟩)
      (.both Prod.mk head values) (checkChildren entries)
  | _ => .fail .notRecord
/-- Reads the children among the fields of a block. -/
def checkChildren : List (Key × Value) → Checked (Option (List Block))
  | [] => .ok none
  | (k, v) :: rest =>
    if k = .str "children" then (checkChildList v).within (.field "children") else checkChildren rest
/-- Reads the children of a block. -/
def checkChildList : Value → Checked (Option (List Block))
  | .null => .ok none
  | .list items => (checkFrom 0 items).map some
  | _ => .fail .notList
/-- Reads blocks from a position on. -/
def checkFrom : Nat → List Value → Checked (List Block)
  | _, [] => .ok []
  | n, v :: rest => .both (· :: ·) ((check v).within (.index n)) (checkFrom (n + 1) rest)
end

end Block

namespace ActorPatch

/-- The fields that a patch can set. -/
def fieldNames : List String := ["x", "y", "heading", "scale", "displayed_message"]

/-- A field that may be absent, and may be null. -/
def patchField {α : Type} (entries : List (Key × Value)) (name : String) (read : Value → Checked α) :
    Checked (Option (Option α)) :=
  match field? entries name with
  | some v => ((Schema.optional read v).within (.field name)).map some
  | none => .ok none

/-- Reads a patch. -/
def check : Value → Checked ActorPatch
  | .object entries =>
    let number (name : String) := patchField entries name Schema.double
    let place := Checked.both Prod.mk (number "x") (number "y")
    let shape := Checked.both Prod.mk (number "heading") (number "scale")
    let rest := Checked.both Prod.mk shape (patchField entries "displayed_message" Schema.text)
    (Checked.both (fun p r => (⟨p.1, p.2, r.1.1, r.1.2, r.2⟩ : ActorPatch)) place rest).alsoReport
      (Schema.unknownFields fieldNames entries)
  | _ => .fail .notRecord

end ActorPatch

namespace Intent

/-- The reader of an action's payload, if the action is known. -/
def reader? (action : String) (entries : List (Key × Value)) : Option (Checked Intent) :=
  let id (name : String) := Schema.required entries name Schema.nonEmptyText
  match action with
  | "ADD_ACTOR" =>
    let place := Checked.both Prod.mk (Schema.withDefault entries "x" 0 Schema.double)
      (Schema.withDefault entries "y" 0 Schema.double)
    some (.both (fun kind p => .addActor kind p.1 p.2) (id "kind") place)
  | "REMOVE_ACTOR" => some ((id "actor_id").map .removeActor)
  | "SELECT_ACTOR" =>
    some ((Schema.withDefault entries "actor_id" none (Schema.optional Schema.text)).map .selectActor)
  | "ADD_BLOCK_TO_ROOT" =>
    some (.both .addBlock (id "actor_id") (Schema.required entries "block" Block.check))
  | "ADD_BLOCK_TO_CONTAINER" =>
    let target := Checked.both Prod.mk (id "actor_id") (id "container_id")
    some (.both (fun t b => .addBlockTo t.1 t.2 b) target (Schema.required entries "block" Block.check))
  | "REMOVE_BLOCK" => some (.both .removeBlock (id "actor_id") (id "block_id"))
  | "START_RUN" => some (.ok .startRun)
  | "STOP_RUN" => some (.ok .stopRun)
  | "UPDATE_ACTOR_STATE" =>
    some (.both .updateActor (id "actor_id") (Schema.required entries "updates" ActorPatch.check))
  | "HANDLE_COLLISION" => some (.both .handleCollision (id "actor_a_id") (id "actor_b_id"))
  | _ => none

/-- Reads an intent. A payload that counts as absent is an empty one; an unknown action is reported
before the payload is looked at. -/
def read (action : String) (payload : Value) : Except Fault Intent :=
  match reader? action [] with
  | none => .error (.unknownAction action)
  | some _ =>
    let entries : Checked (List (Key × Value)) :=
      if payload.isFalsy then .ok []
      else
        match payload with
        | .object entries => .ok entries
        | _ => .fail .notRecord
    let result : Checked Intent :=
      entries.bind fun es => (reader? action es).getD (.fail .notRecord)
    result.mapError .invalid

end Intent

end ScriptedStage
