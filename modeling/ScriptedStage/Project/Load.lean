import ScriptedStage.Project.Build
import ScriptedStage.Yaml.Read

/-!
Loading a project file: its text is read, the content is checked as a document, and
the stage is built.
-/
namespace ScriptedStage

/-- A project: a named stage with its settings. -/
structure Project where
  name : String
  settings : Settings
  stage : Stage
  deriving Inhabited

namespace Project

/-- The content of a file. -/
def readContent (path text : String) : Except Fault Value :=
  match Yaml.read (String.ofList (Yaml.unifyBreaks text.toList)) with
  | .error .malformed => .error (.project (.unreadable path))
  | .error (.fault f) => .error f
  | .ok content => .ok content

/-- The document that the content of a file is. Content that counts as absent stands
for an empty mapping. -/
def documentOf (path : String) (content : Value) : Except Fault ProjectDocument :=
  match if content.isFalsy then .object [] else content with
  | .object entries =>
    (ProjectDocument.check (.object entries)).mapError fun issues => .project (.invalid path issues)
  | _ => .error (.project (.notMapping path))

/-- What is noted once a project is loaded. -/
def loadedNote (p : Project) (path : String) : Note :=
  projectNote .info ("Loaded project '" ++ p.name ++ "' with " ++ toString p.stage.actors.length ++
    " actor(s) from " ++ path)

/-- The project that the content of a file describes. The frame rate of the environment comes before
the one in the file. -/
def ofContent (catalog : Catalog) (rate : Option String) (path : String) (content : Value) :
    List Note × Except Fault Project :=
  match documentOf path content with
  | .error e => ([], .error e)
  | .ok document =>
    match document.realize catalog rate { token := BlockFactory.defaultToken } with
    | (notes, .error e) => (notes, .error e)
    | (notes, .ok (settings, stage)) =>
      let p : Project := { name := document.name, settings := settings, stage := stage }
      (notes ++ [p.loadedNote path], .ok p)

/-- Loads the project in a file with a text, if the file is there. -/
def load (catalog : Catalog) (rate : Option String) (path : String) (text : Option String) :
    List Note × Except Fault Project :=
  match text with
  | none => ([], .error (.project (.notFound path)))
  | some text =>
    match readContent path text with
    | .error e => ([], .error e)
    | .ok content => ofContent catalog rate path content

end Project

end ScriptedStage
