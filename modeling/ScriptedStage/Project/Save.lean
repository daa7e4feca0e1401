import ScriptedStage.Project.Build
import ScriptedStage.Yaml.Write

/-!
Saving a stage as a project file.
-/
namespace ScriptedStage

/-- The text of the project file of a stage, with what is noted once it is saved. -/
def Stage.save (s : Stage) (settings : Settings) (name path : String) : List Note × Except Fault String :=
  match Yaml.write (s.toDocument settings name) with
  | .error e => ([], .error e)
  | .ok text => ([projectNote .info ("Saved project '" ++ name ++ "' to " ++ path)], .ok text)

end ScriptedStage
