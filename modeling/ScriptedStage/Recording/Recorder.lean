import ScriptedStage.Assoc
import ScriptedStage.Recording.Line
import ScriptedStage.Text.Path

/-!
A recorder keeps the records of one run. Its file begins with the first record: a line that opens
the run, one line per record, tagged with the source of the record, and a summary with the number of
records of each source once the recorder is closed. A recorder that got no record has no file.
-/
namespace ScriptedStage

/-- A record: named fields in order. -/
abbrev Record := Assoc Value

/-- A record as a value. -/
def Record.toValue (r : Record) : Value := Value.record r

/-- The lines of one run and how many records each source gave. -/
structure Recorder where
  path : String
  counts : Assoc Nat := []
  /-- The lines written so far, the newest first; none before the first record. -/
  written : Option (List String) := none
  closed : Bool := false
  deriving Repr, Inhabited

namespace Recorder

/-- The first line of a recording. -/
def opening : String := "\x7b\"type\": \"run\", \"started\": 0.0\x7d"

/-- The last line of a recording. -/
def summary (counts : Assoc Nat) : String :=
  "\x7b\"type\": \"summary\", \"ended\": 0.0, \"counts\": \x7b" ++
    ", ".intercalate (counts.map fun (source, n) => Recording.text source ++ ": " ++ toString n) ++
      "\x7d\x7d"

/-- A record with the name of its source. Its own field `module`, if it has one, goes
before the name. -/
def tagged (source : String) (record : Record) : Record :=
  record.foldl (fun fields (name, v) => fields.set name v) (Assoc.set [] "module" (Value.str source))

/-- The line of a record. -/
def line (source : String) (record : Record) : Except Fault String :=
  Recording.value (tagged source record).toValue

/-- Takes a record. A recorder that is closed takes no more; a record that cannot be written is a
fault, and leaves the file opened. -/
def take (r : Recorder) (source : String) (record : Record) : Recorder × Except Fault Unit :=
  if r.closed then (r, .ok ())
  else
    let written := r.written.getD [opening]
    match line source record with
    | .error e => ({ r with written := some written }, .error e)
    | .ok l =>
      ({ r with
          written := some (l :: written)
          counts := r.counts.set source ((r.counts.get? source).getD 0 + 1) }, .ok ())

/-- Ends the recording with a summary. -/
def close (r : Recorder) : Recorder :=
  if r.closed then r
  else { r with closed := true, written := r.written.map fun ls => summary r.counts :: ls }

/-- The stem of a recording that was given no name. -/
def defaultStem : String := "run_T"

/-- A recorder for a file in a directory; an empty name counts as none. -/
def inDirectory (directory : String) (name : Option String) : Recorder :=
  let stem := match name with
    | none | some "" => defaultStem
    | some stem => stem
  { path := Path.join directory (stem ++ ".jsonl") }

/-- The lines of the file, if there is one; it ends with a line break, so the last is empty. -/
def lines (r : Recorder) : Option (List String) := r.written.map fun ls => (("" :: ls).reverse)

end Recorder

end ScriptedStage
