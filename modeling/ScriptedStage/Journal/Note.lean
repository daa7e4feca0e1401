import ScriptedStage.Assoc
import ScriptedStage.Fault

/-!
Notes and the journal. Every part of the library says what it does by leaving notes; the journal
prints those that its settings let through, one line each: `[source] LEVEL: text`. The text of a
note is looked at only when it is printed, so a text that cannot be made is a fault only then. Notes
that trace executed blocks are left out unless tracing is on.
-/
namespace ScriptedStage

/-- How much a note matters. -/
inductive Level where
  | debug
  | info
  | warning
  | error
  /-- Above every note. -/
  | off
  deriving DecidableEq, Repr, Inhabited

namespace Level

/-- The order of the levels. -/
def rank : Level → Nat
  | .debug => 10
  | .info => 20
  | .warning => 30
  | .error => 40
  | .off => 100

/-- The word printed before a text. -/
def label : Level → String
  | .debug => "DEBUG"
  | .info => "INFO"
  | .warning => "WARN"
  | .error => "ERROR"
  | .off => "OFF"

/-- The name of a level. -/
def name : Level → String
  | .warning => "WARNING"
  | l => l.label

end Level

/-- A remark of one part of the library. -/
structure Note where
  source : String
  level : Level
  label : String
  text : Except Fault String
  /-- Whether the note traces an executed block. -/
  trace : Bool := false

namespace Note

/-- A note whose text is known. -/
def say (source : String) (level : Level) (text : String) : Note :=
  { source := source, level := level, label := level.label, text := .ok text }

end Note

/-- Which notes are printed. -/
structure JournalSettings where
  defaultLevel : Level := .info
  /-- Levels of single sources, which go before the default. -/
  levels : Assoc Level := []
  /-- Whether each executed block is traced. -/
  ticks : Bool := false
  deriving Repr, Inhabited

/-- The level from which notes of a source are printed. -/
def JournalSettings.levelOf (s : JournalSettings) (source : String) : Level :=
  (s.levels.get? source).getD s.defaultLevel

/-- The settings together with what was printed, the newest line first. -/
structure Journal where
  settings : JournalSettings := {}
  printed : List String := []
  deriving Repr, Inhabited

namespace Journal

/-- Prints a line as it is. -/
def print (j : Journal) (line : String) : Journal := { j with printed := line :: j.printed }

/-- Whether the level of a note is high enough for it to be printed. -/
def admits (j : Journal) (n : Note) : Bool := (j.settings.levelOf n.source).rank ≤ n.level.rank

/-- Prints a note if its level is high enough. A trace is nothing unless tracing is on, and then its
text is made whatever the level. -/
def write (j : Journal) (n : Note) : Except Fault Journal :=
  if n.trace && !j.settings.ticks then .ok j
  else if !n.trace && !j.admits n then .ok j
  else
    n.text.map fun t =>
      if j.admits n then j.print ("[" ++ n.source ++ "] " ++ n.label ++ ": " ++ t) else j

/-- Prints notes in order up to the first whose text cannot be made. -/
def writeAll (j : Journal) : List Note → Journal × Except Fault Unit
  | [] => (j, .ok ())
  | n :: rest =>
    match j.write n with
    | .ok j => j.writeAll rest
    | .error e => (j, .error e)

/-- Prints notes, and then gives the outcome that they lead up to; a note that cannot be
printed stops first. -/
def settle {α : Type} (j : Journal) (reported : List Note × Except Fault α) : Journal × Except Fault α :=
  match j.writeAll reported.1 with
  | (j, .ok _) => (j, reported.2)
  | (j, .error e) => (j, .error e)

/-- Printing that does not stop keeps the outcome. -/
theorem settle_ok {α : Type} {j j' : Journal} {reported : List Note × Except Fault α} {a : α}
    (h : j.settle reported = (j', .ok a)) : reported.2 = .ok a := by
  simp only [settle] at h
  split at h
  · exact (Prod.mk.inj h).2
  · simp at h

/-- The printed lines, oldest first; a line break inside a text starts a new line. -/
def lines (j : Journal) : List String := j.printed.reverse.flatMap fun l => l.splitOn "\n"

/-- The journal with nothing printed yet. -/
def fresh (j : Journal) : Journal := { j with printed := [] }

end Journal

end ScriptedStage
