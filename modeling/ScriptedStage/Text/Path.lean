/-!
Names of files. Empty parts and the part `.` say nothing and are left out. A name that begins with a
slash starts at the root; two slashes, and no more, are a root of their own.
-/
namespace ScriptedStage.Path

/-- The parts of a name that say something. -/
def parts (path : String) : List String := (path.splitOn "/").filter fun p => p ≠ "" && p ≠ "."

/-- The root that a name starts at; empty for a name that does not start at a root. -/
def root (path : String) : String :=
  match (path.toList.takeWhile (· = '/')).length with
  | 0 => ""
  | 2 => "//"
  | _ => "/"

/-- A name from its root and parts; the empty name is `.`. -/
def assemble (root : String) (parts : List String) : String :=
  if root = "" && parts.isEmpty then "." else root ++ "/".intercalate parts

/-- A name without the parts that say nothing. -/
def normal (path : String) : String := assemble (root path) (parts path)

/-- The name of a file in a directory. A file that starts at a root ignores the directory. -/
def join (directory file : String) : String :=
  if root file = "" then assemble (root directory) (parts directory ++ parts file) else normal file

end ScriptedStage.Path
