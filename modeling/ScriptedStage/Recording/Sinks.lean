import ScriptedStage.Recording.Recorder

/-!
Where records go. A source sends its records to at most one sink: a collector, which keeps them, or
a recorder, which writes a file. Sinks are told apart by the order in which they were made, so a
name may be given to a new sink while sources still send to the old one.
-/
namespace ScriptedStage

/-- A place that takes records. -/
inductive Sink where
  /-- Keeps the records with their sources, the newest first. -/
  | collector (records : List (String × Record)) (closed : Bool)
  | recorder (r : Recorder)
  deriving Inhabited

/-- The sources whose records a run is made of. -/
def recordedSources : List String := ["scheduler", "bus"]

/-- All sinks, the routes to them and the files written. -/
structure Sinks where
  /-- Every sink, in the order of making. -/
  made : List Sink := []
  names : Assoc Nat := []
  /-- The sink of each source. -/
  routes : Assoc Nat := []
  files : Assoc String := []
  deriving Inhabited

namespace Sinks

/-- The sink of a name. -/
def find? (s : Sinks) (name : String) : Option Sink := (s.names.get? name).bind (s.made[·]?)

/-- Sends the records of some sources to a sink. -/
def route (s : Sinks) (id : Nat) (sources : List String) : Sinks :=
  { s with routes := sources.foldl (fun routes source => routes.set source id) s.routes }

/-- Makes a sink and sends the records of some sources to it. -/
def make (s : Sinks) (name : String) (sink : Sink) (sources : List String) : Sinks :=
  { s with made := s.made ++ [sink], names := s.names.set name s.made.length }.route s.made.length sources

/-- Sends the records of some sources to the collector of a name, which is made if it
is not there. -/
def collect (s : Sinks) (name : String) (sources : List String) : Sinks :=
  match s.names.get? name with
  | some id => s.route id sources
  | none => s.make name (.collector [] false) sources

/-- A record given to a sink. -/
def give (s : Sinks) (id : Nat) (source : String) (record : Record) : Sinks × Except Fault Unit :=
  match s.made[id]? with
  | none => (s, .ok ())
  | some (.collector records closed) =>
    ({ s with made := s.made.set id (.collector ((source, record) :: records) closed) }, .ok ())
  | some (.recorder r) =>
    let (r', outcome) := r.take source record
    let files := if r.written.isNone && r'.written.isSome then s.files.set r.path "" else s.files
    ({ s with made := s.made.set id (.recorder r'), files := files }, outcome)

/-- A record of a source; says whether a sink took it. -/
def emit (s : Sinks) (source : String) (record : Record) : Sinks × Except Fault Bool :=
  match s.routes.get? source with
  | none => (s, .ok false)
  | some id =>
    let (s, outcome) := s.give id source record
    (s, outcome.map fun _ => true)

/-- Text written from the start of a file over what is there. -/
def overwrite (old new : String) : String := new ++ String.ofList (old.toList.drop new.length)

/-- Closes a sink; a recorder with a file writes it out. -/
def close (s : Sinks) (id : Nat) : Sinks :=
  match s.made[id]? with
  | none => s
  | some (.collector records _) => { s with made := s.made.set id (.collector records true) }
  | some (.recorder r) =>
    let closed := r.close
    let files :=
      match r.closed, closed.lines with
      | false, some lines =>
        s.files.set r.path (overwrite ((s.files.get? r.path).getD "") ("\n".intercalate lines))
      | _, _ => s.files
    { s with made := s.made.set id (.recorder closed), files := files }

/-- Stops sending records to a sink. -/
def unroute (s : Sinks) (id : Nat) : Sinks := { s with routes := s.routes.filter fun r => r.2 ≠ id }

/-- Closes every sink that a source sends to, and stops all sending. -/
def closeAll (s : Sinks) : Sinks :=
  { (s.routes.map (·.2)).eraseDups.foldl close s with routes := [] }

/-- The lines of a file, if it was written. -/
def fileLines (s : Sinks) (path : String) : Option (List String) :=
  (s.files.get? path).map fun text => text.splitOn "\n"

end Sinks

end ScriptedStage
