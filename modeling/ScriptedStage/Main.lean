import ScriptedStage.Journal.Levels
import ScriptedStage.Launch.Run

/-!
The command line: reads the project file and the environment, performs the launch, prints what it
has to say and writes the recording. There is no screen here: the frames of a window are read from
standard input, one line of words per frame, and the drawing is printed as text.
-/
namespace ScriptedStage.CommandLine

/-- The variables of the environment that set the levels of the journal. -/
def variableNames : List String :=
  ["LEVEL", "TICKS", "BUS", "COLLISION", "CONFIG", "INTERPRETER", "PROJECT", "REACTIONS",
   "SCHEDULER", "SESSION",
    "STORE", "TREE"].map (JournalSettings.variableStem ++ ·)

/-- The variables that are set. -/
def readEnvironment (names : List String) : IO (Assoc String) :=
  names.filterMapM fun name => do return (← IO.getEnv name).map (name, ·)

/-- The text of a file, if it can be read. -/
def readText (path : String) : IO (Option String) := do
  try
    return some (← IO.FS.readFile path)
  catch _ => return none

/-- The lines of the standard input. -/
partial def readLines (input : IO.FS.Stream) : IO (List String) := do
  let line ← input.getLine
  if line.isEmpty then return [] else return line :: (← readLines input)

/-- The event of a word. -/
def readEvent (word : String) : WindowEvent :=
  match word with
  | "SPACE" => .startKey
  | "S" => .stopKey
  | "ESC" | "QUIT" => .close
  | _ => .other

/-- The events of a frame: words with blanks between them. -/
def readFrame (line : String) : List WindowEvent :=
  (((line.splitOn "\n").headD "").splitOn " ").map readEvent

/-- The frames on standard input; a launch without a window needs none. -/
def readFrames (o : LaunchOptions) : IO (List (List WindowEvent)) := do
  if o.headless then return []
  else
    let lines ← readLines (← IO.getStdin)
    return lines.map readFrame

/-- A drawing in words. -/
def describe : Drawing → String
  | .openWindow w h => s!"window {w} {h}"
  | .caption t => s!"caption {t}"
  | .wait rate => "wait " ++ (rate.inspect.toOption.getD "")
  | .fill c => s!"fill {c.red} {c.green} {c.blue}"
  | .rectangle c r line =>
    s!"rectangle {c.red} {c.green} {c.blue} at {r.x} {r.y} size {r.width} {r.height} line {line}"
  | .text t x y => s!"text {t} at {x} {y}"
  | .present => "present"
  | .closeWindow => "close"

/-- Writes a recording into its file. -/
def writeRecording (r : Recorder) : IO Unit :=
  match r.lines with
  | none => pure ()
  | some lines => do
    let directory := Path.assemble (Path.root r.path) (Path.parts r.path).dropLast
    IO.FS.createDirAll directory
    IO.FS.writeFile r.path ("\n".intercalate lines)

/-- What the launcher can be asked to do. -/
def usage : String :=
  "usage: [-h] [--headless] [--ticks TICKS] [--resolution RESOLUTION] [--record DIR] project"

/-- Performs a launch. -/
def launch (arguments : List String) : IO UInt32 := do
  match LaunchOptions.read arguments with
  | .error .help =>
    IO.println usage
    return 0
  | .error .misuse =>
    IO.eprintln usage
    return 2
  | .ok o =>
    let journal : Journal :=
      { settings := ({} : JournalSettings).readVariables (← readEnvironment variableNames) }
    let text ← readText o.project
    let frames ← readFrames o
    let result := Launch.run o (← IO.getEnv "BLOCKSTAGE_FPS") text frames journal
    for line in result.journal.lines do
      IO.println line
    for d in result.drawings do
      IO.println (describe d)
    if let some r := result.recorder then writeRecording r
    match result.outcome with
    | .ok code => return code.toUInt32
    | .error _ =>
      IO.eprintln "the launch failed"
      return 1

end ScriptedStage.CommandLine

/-- The launcher. -/
def main (arguments : List String) : IO UInt32 := ScriptedStage.CommandLine.launch arguments
