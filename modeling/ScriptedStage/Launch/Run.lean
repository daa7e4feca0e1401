import ScriptedStage.Launch.Arguments
import ScriptedStage.Launch.Picture
import ScriptedStage.Project.Load
import ScriptedStage.Session.Operations
import ScriptedStage.Text.Path

/-!
The launcher: loads a project, runs it either without a window for a number of ticks or in
a window frame by frame, and prints where the actors are in the end. A recording is
finished whatever happens.
-/
namespace ScriptedStage

/-- What happens in a window. -/
inductive WindowEvent where
  /-- The key that starts the run. -/
  | startKey
  /-- The key that stops the run. -/
  | stopKey
  /-- The key or the button that closes the window. -/
  | close
  | other
  deriving DecidableEq, Repr, Inhabited

/-- What came of a launch. -/
structure LaunchResult where
  /-- The exit code. -/
  outcome : Except Fault Nat
  journal : Journal
  drawings : List Drawing := []
  recorder : Option Recorder := none

namespace Launch

/-! ## Printing -/

/-- Prints a line. -/
def print (line : String) : Act Unit := .change fun s => { s with journal := s.journal.print line }

/-- Prints lines. -/
def printAll : List String → Act Unit
  | [] => pure ()
  | l :: rest => do
    print l
    printAll rest

/-- A line between parts. -/
def ruler : String := String.ofList (List.replicate 60 '=')

/-- A number in a column. A text is no number, and anything else cannot be put into a column. -/
def column (width places : Nat) (v : Value) : Except Fault String :=
  match v with
  | .str _ => .error .badValue
  | v => do return Numeric.padLeft width (Numeric.fixed places (← (← v.number).toFloat))

/-- What is printed about an actor. -/
def actorLine (a : Actor) : Except Fault String := do
  let x ← column 8 2 a.x
  let y ← column 8 2 a.y
  let heading ← column 6 1 a.heading
  let scale ← column 6 1 a.scale
  let message := match a.message with
    | none | some "" => ""
    | some m => " says \"" ++ m ++ "\""
  return "  " ++ Numeric.padRight 10 a.id ++ " x=" ++ x ++ " y=" ++ y ++ " heading=" ++ heading ++
    " scale=" ++ scale ++ message

/-- Prints a line about each actor. -/
def printActors : List Actor → Act Unit
  | [] => pure ()
  | a :: rest => do
    print (← Act.ofExcept (actorLine a))
    printActors rest

/-- Prints where the actors are. -/
def printStage : Act Unit := do printActors (← Act.read (·.stage.actors))

/-- What is printed before a run. -/
def header (name : String) (ids : List String) : List String :=
  [ruler, "Blockstage: " ++ name, ruler,
    "Actors: " ++ (if (", ".intercalate ids).isEmpty then "(none)" else ", ".intercalate ids), ""]

/-! ## Without a window -/

/-- Starts a run and plays ticks until it stops, at most `ticks`. -/
def runHeadless (ticks : Int) : Act Nat := do
  let _ ← Session.start
  let count ← Session.run ticks
  let running ← Act.read (·.stage.running)
  print ("Ran " ++ toString count ++ " tick(s), running=" ++ (if running then "True" else "False"))
  printStage
  return 0

/-! ## In a window -/

/-- Answers the events of a frame; says whether the window is to be closed. -/
def answerEvents : List WindowEvent → Act Bool
  | [] => return false
  | .startKey :: rest => do
    let _ ← Session.start
    answerEvents rest
  | .stopKey :: rest => do
    let _ ← Session.halt
    answerEvents rest
  | .close :: rest => do
    let _ ← answerEvents rest
    return true
  | .other :: rest => answerEvents rest

/-- One frame: the events are answered and a tick is played. -/
def playFrame (events : List WindowEvent) : Act Bool := do
  let closing ← answerEvents events
  let _ ← Session.step
  return closing

/-- Plays and draws frames until one closes the window. -/
def showFrames (view : View) :
    List (List WindowEvent) → Session → List Drawing × Session × Except Fault Unit
  | [], s => ([], s, .ok ())
  | events :: rest, s =>
    let wait := Drawing.wait s.rules.settings.fps
    match playFrame events s with
    | (s, .error e) => ([wait], s, .error e)
    | (s, .ok closing) =>
      match view.drawStage s.stage with
      | (drawn, .error e) => (wait :: drawn, s, .error e)
      | (drawn, .ok _) =>
        let shown := wait :: drawn ++ [.present]
        if closing then (shown, s, .ok ())
        else
          let (more, s, outcome) := showFrames view rest s
          (shown ++ more, s, outcome)

/-- What is printed before the first frame. -/
def controls : List String :=
  ["Controls:", "  - SPACE to start", "  - S to stop", "  - ESC to quit", "", ruler]

/-- Runs a session in a window. After the given frames the window is closed. -/
def runWindow (name : String) (width height : Int) (frames : List (List WindowEvent)) (s : Session) :
    List Drawing × Session × Except Fault Nat :=
  let opened : List Drawing := [.openWindow width height, .caption (name ++ " - Blockstage")]
  match View.ofWindow s.rules.settings width height with
  | .error e => (opened, s, .error e)
  | .ok view =>
    let (s, _) := printAll controls s
    match showFrames view (frames ++ [[.close]]) s with
    | (shown, s, .error e) => (opened ++ shown, s, .error e)
    | (shown, s, .ok _) =>
      let (s, outcome) := printStage s
      (opened ++ shown ++ [.closeWindow], s, outcome.map fun _ => 0)

/-- The width and the height of a resolution such as `960x720`. -/
def readResolution (text : String) : Option (Int × Int) :=
  match text.splitOn "x" with
  | [w, h] => do return (← Numeric.readIntAnyScript w, ← Numeric.readIntAnyScript h)
  | _ => none

/-! ## The whole program -/

/-- Runs a session as the options say. -/
def runSession (o : LaunchOptions) (name : String) (frames : List (List WindowEvent)) (s : Session) :
    List Drawing × Session × Except Fault Nat :=
  if o.headless then ([], runHeadless o.ticks s)
  else
    match readResolution o.resolution with
    | none =>
      let (s, _) := printAll ["Invalid resolution format: " ++ o.resolution,
        "Expected format: WIDTHxHEIGHT (e.g., 960x720)"] s
      ([], s, .ok 1)
    | some (width, height) => runWindow name width height frames s

/-- Closes a session and tells where its recording is. -/
def finish : Act Unit := do
  Session.close
  match ← Act.read (·.recorder) with
  | none => pure ()
  | some r => print ("Recording: " ++ r.path)

/-- Runs a loaded project. -/
def runProject (o : LaunchOptions) (p : Project) (frames : List (List WindowEvent)) (journal : Journal) :
    LaunchResult :=
  let s := Session.create
    { rules := { settings := p.settings }, initial := p.stage, journal := journal
      recording := o.record.map fun directory => (directory, none) }
  let (s, _) := printAll (header p.name s.stage.ids) s
  let (drawings, s, outcome) := runSession o p.name frames s
  let (s, _) := finish s
  { outcome := outcome, journal := s.journal, drawings := drawings, recorder := s.recorder }

/-- Loads the project that the options name, and runs it. -/
def run (o : LaunchOptions) (rate : Option String) (text : Option String) (frames : List (List WindowEvent))
    (journal : Journal) : LaunchResult :=
  match journal.settle (Project.load .builtIn rate (Path.normal o.project) text) with
  | (journal, .error (.project e)) =>
    { outcome := .ok 1, journal := journal.print ("ERROR: " ++ e.message) }
  | (journal, .error e) => { outcome := .error e, journal := journal }
  | (journal, .ok p) => runProject o p frames journal

/-- The exit code of a launch that was refused. -/
def refusalCode : LaunchRefusal → Nat
  | .help => 0
  | .misuse => 2

/-- The launcher with its arguments. `fileText` gives the texts of files by name. -/
def perform (arguments : List String) (fileText : String → Option String) (rate : Option String)
    (frames : List (List WindowEvent)) (journal : Journal) : LaunchResult :=
  match LaunchOptions.read arguments with
  | .error refusal => { outcome := .ok (refusalCode refusal), journal := journal }
  | .ok o => run o rate (fileText (Path.normal o.project)) frames journal

end Launch

end ScriptedStage
