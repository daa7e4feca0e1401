import ScriptedStage.Numeric.Read

/-!
The arguments of the launcher: one project file, and options before or after it. A long option may
be cut short as long as it is clear which one is meant, and its value may follow after `=`; the
value of a short option may follow directly. Whatever looks like a negative number is a value and no
option, and so is everything after `--`.
-/
namespace ScriptedStage

/-- The options of the launcher. -/
inductive LaunchOption where
  | help
  | headless
  | ticks
  | resolution
  | record
  deriving DecidableEq, Repr, Inhabited

namespace LaunchOption

/-- The ways to write the options. -/
def spellings : List (String × LaunchOption) :=
  [("-h", .help), ("--help", .help), ("--headless", .headless), ("--ticks", .ticks), ("-t", .ticks),
    ("--resolution", .resolution), ("-r", .resolution), ("--record", .record)]

/-- The option with exactly this spelling. -/
def ofSpelling? (s : String) : Option LaunchOption := (spellings.find? (·.1 = s)).map (·.2)

/-- Whether a value belongs to the option. -/
def takesValue : LaunchOption → Bool
  | .help | .headless => false
  | _ => true

end LaunchOption

/-- Why the launcher does not run. -/
inductive LaunchRefusal where
  /-- It was asked what it can do. -/
  | help
  /-- The arguments make no sense. -/
  | misuse
  deriving DecidableEq, Repr, Inhabited

/-- What an argument is. -/
inductive Argument where
  /-- A value, or the project. -/
  | plain (text : String)
  /-- The mark after which all is plain. -/
  | divider
  /-- An option, with its value if that is part of the argument. -/
  | option (o : LaunchOption) (value : Option String)
  /-- An option of one letter that takes no value, and the letters after it. -/
  | cluster (o : LaunchOption) (letters : List Char)
  /-- Something like an option that there is not. -/
  | unknown
  deriving DecidableEq, Repr, Inhabited

namespace Argument

/-- Whether a text is a negative number: digits, or digits around a point. -/
def isNegativeNumber (s : String) : Bool :=
  let isDigit (c : Char) : Bool := (Text.digitValue? c).isSome
  match s.toList with
  | '-' :: cs =>
    let cs := if cs.getLast? = some '\n' then cs.dropLast else cs
    match cs.dropWhile isDigit with
    | [] => !cs.isEmpty
    | '.' :: fraction => !fraction.isEmpty && fraction.all isDigit
    | _ => false
  | _ => false

/-- A text before and after its first equals sign. -/
def cutAtEquals (s : String) : String × Option String :=
  match s.toList.span (· ≠ '=') with
  | (before, []) => (String.ofList before, none)
  | (before, _ :: after) => (String.ofList before, some (String.ofList after))

/-- The options that a text with two dashes may be short for. -/
def abbreviated (s : String) : List Argument :=
  let (name, value) := cutAtEquals s
  (LaunchOption.spellings.filter (·.1.startsWith name)).map fun (_, o) => .option o value

/-- The option of one letter at the start of a text, with the rest as its value or as
more letters. -/
def clustered (s : String) : List Argument :=
  let rest := s.toList.drop 2
  match LaunchOption.ofSpelling? (String.ofList (s.toList.take 2)) with
  | some o => [if o.takesValue then .option o (some (String.ofList rest)) else .cluster o rest]
  | none => []

/-- What a text is that begins with a dash and is no option as it stands. -/
def readDashed (s : String) : Except LaunchRefusal Argument :=
  match (if s.startsWith "--" then abbreviated s else clustered s) with
  | [a] => .ok a
  | _ :: _ :: _ => .error .misuse
  | [] => .ok (if isNegativeNumber s || s.toList.contains ' ' then .plain s else .unknown)

/-- What a text is before any divider. -/
def read (s : String) : Except LaunchRefusal Argument :=
  if !s.startsWith "-" then .ok (.plain s)
  else
    match LaunchOption.ofSpelling? s with
    | some o => .ok (.option o none)
    | none =>
      if s = "-" then .ok (.plain s)
      else
        match cutAtEquals s with
        | (name, some value) =>
          match LaunchOption.ofSpelling? name with
          | some o => .ok (.option o (some value))
          | none => readDashed s
        | _ => readDashed s

/-- What the arguments are. -/
def readAll : List String → Except LaunchRefusal (List Argument)
  | [] => .ok []
  | s :: rest =>
    if s = "--" then .ok (.divider :: rest.map Argument.plain)
    else do return (← read s) :: (← readAll rest)

end Argument

/-- What the launcher is to do. -/
structure LaunchOptions where
  project : String
  headless : Bool := false
  ticks : Int := 1000
  resolution : String := "960x720"
  /-- The directory for recordings. -/
  record : Option String := none
  deriving DecidableEq, Repr, Inhabited

/-- What is known while arguments are read. -/
structure ArgumentReader where
  project : Option String := none
  headless : Bool := false
  ticks : Int := 1000
  resolution : String := "960x720"
  record : Option String := none
  /-- Whether the last argument was the project. -/
  atProject : Bool := false
  /-- Whether there are arguments that nothing asks for. -/
  surplus : Bool := false
  deriving Inhabited

namespace ArgumentReader

/-- Takes an option with its value. -/
def setOption (r : ArgumentReader) (o : LaunchOption) (value : String) :
    Except LaunchRefusal ArgumentReader :=
  match o with
  | .ticks =>
    match Numeric.readIntAnyScript value with
    | some n => .ok { r with ticks := n }
    | none => .error .misuse
  | .resolution => .ok { r with resolution := value }
  | .record => .ok { r with record := some value }
  | .headless => .ok { r with headless := true }
  | .help => .error .help

/-- Whether the letters after a letter without a value can be read: the first that takes a value
needs one, in the same argument or in the next. A letter without a meaning ends the reading. -/
def canReadLetters : List Char → List Argument → Bool
  | [], _ => true
  | c :: letters, rest =>
    if c = '-' || c = '=' then false
    else
      match LaunchOption.ofSpelling? (String.ofList ['-', c]) with
      | none => true
      | some o =>
        if !o.takesValue then canReadLetters letters rest
        else
          match letters, rest with
          | [], .plain _ :: _ => true
          | [], _ => false
          | _, _ => true

/-- Takes the arguments in order. -/
def takeAll (r : ArgumentReader) : List Argument → Except LaunchRefusal ArgumentReader
  | [] => .ok r
  | .plain s :: rest =>
    match r.project with
    | none => takeAll { r with project := some s, atProject := true } rest
    | some _ => takeAll { r with surplus := true, atProject := false } rest
  | .divider :: rest =>
    if r.project.isNone || r.atProject then takeAll { r with atProject := false } rest
    else takeAll { r with surplus := true } rest
  | .unknown :: rest => takeAll { r with surplus := true, atProject := false } rest
  | .cluster o letters :: rest =>
    if canReadLetters letters rest then do takeAll { (← r.setOption o "") with atProject := false } rest
    else .error .misuse
  | .option o (some value) :: rest =>
    if o.takesValue then do takeAll { (← r.setOption o value) with atProject := false } rest
    else .error .misuse
  | .option o none :: rest =>
    if !o.takesValue then do takeAll { (← r.setOption o "") with atProject := false } rest
    else
      match rest with
      | .plain value :: rest => do takeAll { (← r.setOption o value) with atProject := false } rest
      | _ => .error .misuse

/-- The options once all arguments are taken: the project has to be there, and nothing
may be left over. -/
def result (r : ArgumentReader) : Except LaunchRefusal LaunchOptions :=
  match r.project with
  | none => .error .misuse
  | some p =>
    if r.surplus then .error .misuse
    else
      .ok { project := p, headless := r.headless, ticks := r.ticks, resolution := r.resolution,
            record := r.record }

end ArgumentReader

/-- Reads the arguments of the launcher. -/
def LaunchOptions.read (arguments : List String) : Except LaunchRefusal LaunchOptions := do
  let arguments ← Argument.readAll arguments
  (← ({} : ArgumentReader).takeAll arguments).result

end ScriptedStage
