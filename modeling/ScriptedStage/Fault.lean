/-!
What can go wrong. A `Fault` is the cause that stops an operation: arithmetic on something that is
no number, a number out of range, a missing entry, a document that does not have the required shape.
Validation does not stop at the first problem, so its fault carries a list of issues, each with the
path to the offending part.
-/
namespace ScriptedStage

/-- One step of a path into a document: a named field or a position in a list. -/
inductive PathPart where
  | field (name : String)
  | index (position : Int)
  deriving DecidableEq, Repr

/-- What is wrong with one part of a document. -/
inductive IssueKind where
  /-- A required field is absent. -/
  | missing
  /-- A text was expected. -/
  | notText
  /-- A text that may not be empty is empty. -/
  | emptyText
  /-- A number was expected. -/
  | notNumber
  /-- A text was given for a number but does not spell one. -/
  | unreadableNumber
  /-- An integer was expected. -/
  | notInteger
  /-- A text was given for an integer but does not spell one. -/
  | unreadableInteger
  /-- A text was given for an integer but has too many digits. -/
  | oversizedInteger
  /-- A number with a fraction was given for an integer. -/
  | fractional
  /-- An infinity or a NaN was given for an integer. -/
  | notFinite
  /-- A record was expected. -/
  | notRecord
  /-- A list was expected. -/
  | notList
  /-- A mapping was expected. -/
  | notMapping
  /-- The record has no such field. -/
  | unknownField
  /-- A field name is not a text. -/
  | badKey
  deriving DecidableEq, Repr

/-- A problem at one place of a document. -/
structure Issue where
  kind : IssueKind
  path : List PathPart
  deriving DecidableEq, Repr

/-- Why a project cannot be loaded. -/
inductive ProjectError where
  | notFound (path : String)
  | unreadable (path : String)
  | notMapping (path : String)
  | invalid (path : String) (issues : List Issue)
  | unknownKind (kind : String) (known : List String)
  | duplicateActor (id : String)
  | duplicateBlocks (actor : String) (ids : List String)
  deriving DecidableEq, Repr

/-- The sentence shown for a project error. -/
def ProjectError.message : ProjectError → String
  | .notFound path => s!"Project file not found: {path}"
  | .unreadable path => s!"Failed to parse YAML file '{path}'"
  | .notMapping path => s!"Project file '{path}' must contain a mapping"
  | .invalid path _ => s!"Invalid project file '{path}'"
  | .unknownKind kind known =>
    s!"Unknown sprite kind '{kind}' (known: " ++ ", ".intercalate known ++ ")"
  | .duplicateActor id => s!"Duplicate actor id '{id}'"
  | .duplicateBlocks actor ids =>
    s!"Actor '{actor}' has duplicate block ids: " ++ ", ".intercalate ids

/-- The cause that stops an operation. -/
inductive Fault where
  /-- An operation met a value of a kind that it cannot use. -/
  | wrongKind
  /-- A value of the right kind that the operation does not accept. -/
  | badValue
  /-- A number too large for a double. -/
  | tooLarge
  | divisionByZero
  /-- A position outside a list. -/
  | outOfRange
  /-- An entry that is not there. -/
  | missingKey (name : String)
  /-- An action name that no intent has. -/
  | unknownAction (name : String)
  /-- A part that was never set up. -/
  | absent
  /-- A subscriber or callback gave up. -/
  | aborted
  /-- A frame was asked of a host that drives itself. -/
  | foreignHost (operation : String)
  | invalid (issues : List Issue)
  | project (error : ProjectError)
  deriving DecidableEq, Repr

/-- The sentence shown when a session is asked to drive a host that drives itself. -/
def Fault.foreignHostMessage (operation : String) : String :=
  s!"{operation}() needs a ManualFrameHost; drive other hosts from their frame loop"

end ScriptedStage
