import ScriptedStage.Intent.Read
import ScriptedStage.Script.Edit
import ScriptedStage.Settings

/-!
How the stage changes. Every intent is applied to a stage by `Stage.reduce`, which gives the new
stage, or nothing when the intent changes nothing, together with what it notes. An intent that
cannot be applied changes nothing and says why.
-/
namespace ScriptedStage

/-- What new actors are made from. -/
structure StageRules where
  catalog : Catalog := .builtIn
  settings : Settings := {}
  deriving Inhabited

namespace Stage

/-- A note of the store. -/
def storeNote (level : Level) (text : String) : Note := .say "store" level text

/-- Puts an actor in the place of every actor with its id. -/
def putActor (s : Stage) (id : String) (a : Actor) : Stage :=
  { s with actors := s.actors.map fun b => if b.id = id then a else b }

/-- Adds an actor of a kind and selects it. -/
def addActor (rules : StageRules) (s : Stage) (kind : String) (x y : Float) : Option Stage × List Note :=
  match rules.catalog.get? kind with
  | none =>
    (none, [storeNote .error ("Cannot add actor: definition not found for kind \"" ++ kind ++
      "\"")])
  | some sprite =>
    let a : Actor :=
      { id := freeActorId kind s.ids, kind := kind, x := .float x, y := .float y
        heading := rules.settings.defaultHeading, scale := rules.settings.defaultScale
        width := sprite.width, height := sprite.height }
    (some { s with actors := s.actors ++ [a], selected := some a.id },
      [storeNote .info ("Added actor " ++ a.id)])

/-- An optional id in a note. -/
def shownId (id : Option String) : String := id.getD "None"

/-- Removes an actor; if it was selected, the first of the others is selected. -/
def removeActor (s : Stage) (id : String) : Option Stage × List Note :=
  match s.actor? id with
  | none => (none, [storeNote .warning ("Cannot remove unknown actor " ++ id)])
  | some _ =>
    let remaining := s.actors.filter fun a => a.id ≠ id
    let selected := if s.selected = some id then remaining.head?.map (·.id) else s.selected
    (some { s with actors := remaining, selected := selected },
      [storeNote .info ("Removed actor " ++ id ++ ". New selection: " ++ shownId selected)])

/-- Selects an actor, or none. -/
def selectActor (s : Stage) (id : Option String) : Option Stage × List Note :=
  if s.selected = id then (none, [])
  else
    match id with
    | none => (some { s with selected := none }, [])
    | some i =>
      match s.actor? i with
      | none => (none, [storeNote .warning ("Cannot select unknown actor " ++ i)])
      | some _ => (some { s with selected := some i }, [])

/-- The ids of a new block that are already used in a script or that it uses twice. -/
def clashes (script : Script) (new : Block) : List String :=
  let ids := Script.ids [new]
  sortTexts (ids.eraseDups.filter fun i => script.ids.contains i || 1 < ids.count i)

/-- Applies an edit to the script of an actor. -/
def editScript (s : Stage) (id : String) (edit : Script → Option Script × List Note) :
    Option Stage × List Note :=
  match s.actor? id with
  | none => (none, [storeNote .error ("Cannot edit script of unknown actor " ++ id)])
  | some a =>
    let (script, notes) := edit a.script
    (script.map fun script => s.putActor id { a with script := script }, notes)

/-- An edit that brings in a new block, whose ids have to be free. -/
def guarded (id : String) (new : Block) (edit : Script → Option Script × List Note) (script : Script) :
    Option Script × List Note :=
  match clashes script new with
  | [] => edit script
  | taken =>
    (none, [storeNote .error ("Block ids already used in actor " ++ id ++ ": " ++
      ", ".intercalate taken ++ ". Block not added.")])

/-- Appends a block to the top level of a script. -/
def addBlock (s : Stage) (id : String) (sent : Block) : Option Stage × List Note :=
  let new := sent.prune
  s.editScript id (guarded id new fun script => (some (script.append new), []))

/-- Appends a block to the children of a container. -/
def addBlockTo (s : Stage) (id container : String) (sent : Block) : Option Stage × List Note :=
  let new := sent.prune
  s.editScript id (guarded id new fun script =>
    match script.insert container new with
    | (some script, notes) => (some script, notes)
    | (none, notes) =>
      (none, notes ++ [storeNote .error ("Container block " ++ container ++ " not found in actor " ++ id ++
        ". Block not added.")]))

/-- Removes a block and all that is in it. -/
def removeBlock (s : Stage) (id block : String) : Option Stage × List Note :=
  s.editScript id fun script => (script.remove block, [])

/-- Starts a run. -/
def startRun (s : Stage) : Option Stage × List Note :=
  if s.running then (none, [storeNote .debug "Run already started, no state change"])
  else (some { s with running := true }, [storeNote .info "Run started"])

/-- Stops a run. -/
def stopRun (s : Stage) : Option Stage × List Note :=
  if s.running then (some { s with running := false }, [storeNote .info "Run stopped"])
  else (none, [storeNote .debug "Run already stopped, no state change"])

/-- Sets fields of an actor. -/
def updateActor (s : Stage) (id : String) (patch : ActorPatch) : Option Stage × List Note :=
  if patch.isEmpty then (none, [])
  else
    match s.actor? id with
    | none => (none, [storeNote .warning ("Cannot update unknown actor " ++ id)])
    | some a => (some (s.putActor id (patch.apply a)), [])

/-- The script of an actor with its first move reversed, under the id of the actor. -/
def reversal (a : Actor) : Option (String × Script) :=
  (Script.negateFirstMove a.script).map fun script => (a.id, script)

/-- Puts new scripts in the place of those of the actors with their ids. -/
def putScripts (s : Stage) (scripts : Assoc Script) : Stage :=
  { s with actors := s.actors.map fun a =>
      match scripts.get? a.id with
      | some script => { a with script := script }
      | none => a }

/-- Reverses the first moves of two actors that collided. -/
def handleCollision (s : Stage) (first second : String) : Option Stage × List Note :=
  match s.actor? first, s.actor? second with
  | some a, some b =>
    let scripts := (reversal a).toList ++ (reversal b).toList
    if scripts.isEmpty then (none, [])
    else
      (some (s.putScripts scripts),
        [storeNote .info ("Collision " ++ a.id ++ " <-> " ++ b.id ++ ": reversed " ++
          ", ".intercalate (sortTexts (Assoc.keys scripts).eraseDups))])
  | _, _ =>
    (none, [storeNote .warning ("Could not find one or both actors for collision handling: " ++
      first ++ ", " ++ second)])

/-- Applies an intent. -/
def reduce (rules : StageRules) (s : Stage) : Intent → Option Stage × List Note
  | .addActor kind x y => s.addActor rules kind x y
  | .removeActor id => s.removeActor id
  | .selectActor id => s.selectActor id
  | .addBlock id b => s.addBlock id b
  | .addBlockTo id c b => s.addBlockTo id c b
  | .removeBlock id b => s.removeBlock id b
  | .startRun => s.startRun
  | .stopRun => s.stopRun
  | .updateActor id p => s.updateActor id p
  | .handleCollision a b => s.handleCollision a b

/-- Applies an intent and notes that it came. -/
def dispatch (rules : StageRules) (s : Stage) (i : Intent) : List Note × Option Stage :=
  let (new, notes) := s.reduce rules i
  (.form "store" .debug "Intent dispatched: %s %s" [.str i.action, i.dump] :: notes, new)

/-- The part of a value that a path leads to, as far as it leads. -/
def reached (v : Value) : List PathPart → Value
  | [] => v
  | part :: rest =>
    match part, v with
    | .field name, .object entries =>
      match field? entries name with
      | some w => reached w rest
      | none => v
    | .index i, .list items =>
      match items[i.toNat]? with
      | some w => reached w rest
      | none => v
    | _, _ => v

/-- What is noted about a payload with issues. The parts at fault are inspected with it, so a part
that cannot be inspected spoils the note. -/
def rejectionNote (action : String) (payload : Value) (issues : List Issue) : Note :=
  { source := "store", level := .error, label := Level.label .error
    text := do
      let _ ← Value.inspectItems (issues.map fun i => reached payload i.path)
      return action ++ " rejected" }

/-- Reads an intent. An action that is not known and a payload with issues give none, and a note. -/
def readIntent (action payload : Value) : List Note × Except Fault (Option Intent) :=
  match action with
  | .str name =>
    match Intent.read name payload with
    | .ok i => ([], .ok (some i))
    | .error (.invalid issues) => ([rejectionNote name payload issues], .ok none)
    | .error (.unknownAction _) => ([.form "store" .error "Unknown action %r, ignored" [action]], .ok none)
    | .error e => ([], .error e)
  | .list _ | .object _ => ([], .error .wrongKind)
  | _ => ([.form "store" .error "Unknown action %r, ignored" [action]], .ok none)

/-- Reads an intent and applies it. -/
def dispatchRaw (rules : StageRules) (s : Stage) (action payload : Value) :
    List Note × Except Fault (Option Stage) :=
  match readIntent action payload with
  | (notes, .ok (some i)) =>
    let (more, new) := s.dispatch rules i
    (notes ++ more, .ok new)
  | (notes, .ok none) => (notes, .ok none)
  | (notes, .error e) => (notes, .error e)

end Stage

end ScriptedStage
