import ScriptedStage.Journal.Note
import ScriptedStage.Text.Blank
import ScriptedStage.Text.Case
import ScriptedStage.Value.Text

/-!
What the journal lets through: levels by name, levels of single sources, settings taken from
environment variables, and the trace of executed blocks.
-/
namespace ScriptedStage

/-- The level of a name in any case; a name that is no level stands for `info`. -/
def Level.ofText (name : String) : Level :=
  match Text.upperWord name with
  | "DEBUG" => .debug
  | "WARNING" | "WARN" => .warning
  | "ERROR" => .error
  | "OFF" => .off
  | _ => .info

namespace JournalSettings

/-- New settings; levels given earlier to single sources stay unless they are given anew. -/
def configure (s : JournalSettings) (level : String) (sources : Assoc String) (ticks : Bool) :
    JournalSettings :=
  { defaultLevel := .ofText level
    levels := sources.foldl (fun levels (source, name) => levels.set source (.ofText name)) s.levels
    ticks := ticks }

/-- The beginning of the names of the environment variables that the journal reads. -/
def variableStem : String := "BLOCKSTAGE_LOG_"

/-- The settings after one environment variable. -/
def readVariable (s : JournalSettings) (name value : String) : JournalSettings :=
  if name.startsWith variableStem then
    match String.ofList (name.toList.drop variableStem.length) with
    | "LEVEL" => { s with defaultLevel := .ofText value }
    | "TICKS" => { s with ticks := ["1", "true", "yes"].contains (Text.lower value) }
    | source => { s with levels := s.levels.set (Text.lower source) (.ofText value) }
  else s

/-- The settings after environment variables in order. -/
def readVariables (s : JournalSettings) (environment : Assoc String) : JournalSettings :=
  environment.foldl (fun s (name, value) => s.readVariable name value) s

/-- Settings that silence every source without a level of its own, and the trace. -/
def silence (s : JournalSettings) : JournalSettings := { s with defaultLevel := .off, ticks := false }

end JournalSettings

/-- Named details of a traced block, separated by commas. -/
def detailTexts : Assoc Value → Except Fault (List String)
  | [] => .ok []
  | (name, v) :: rest => do return (name ++ "=" ++ (← v.inspect)) :: (← detailTexts rest)

/-- The trace of one executed block. -/
def Note.traced (source actor block : String) (details : Assoc Value) : Note :=
  { source := source, level := .debug, label := "STEP", trace := true
    text := do
      let line := actor ++ " " ++ block ++ " " ++ ", ".intercalate (← detailTexts details)
      return Text.trimEnd line }

end ScriptedStage
