import ScriptedStage.Catalog
import ScriptedStage.Journal.Template
import ScriptedStage.Numeric.Read

/-!
Settings of a stage: its size, its frame rate, the limits of the scale of actors and how
new actors are set up. Settings read from a document are taken as they are; only the two
limits are put in order.
-/
namespace ScriptedStage

/-- The settings of a stage. -/
structure Settings where
  width : Value := .int 480
  height : Value := .int 360
  fps : Value := .int 60
  /-- Scales are percentages of a sprite's own size. -/
  minScale : Value := .float 10
  maxScale : Value := .float 500
  defaultScale : Value := .float 100
  /-- In degrees; 90 faces right. -/
  defaultHeading : Value := .float 90
  deriving Inhabited

namespace Settings

/-- The settings by name, in the order in which they are written. -/
def fields (s : Settings) : Assoc Value :=
  [("width", s.width), ("height", s.height), ("fps", s.fps), ("min_scale", s.minScale),
    ("max_scale", s.maxScale), ("default_scale", s.defaultScale), ("default_heading", s.defaultHeading)]

/-- The names of the settings. -/
def names : List String := ({} : Settings).fields.keys

/-- Changes the setting of a name; other names are ignored. -/
def set (s : Settings) (name : String) (v : Value) : Settings :=
  match name with
  | "width" => { s with width := v }
  | "height" => { s with height := v }
  | "fps" => { s with fps := v }
  | "min_scale" => { s with minScale := v }
  | "max_scale" => { s with maxScale := v }
  | "default_scale" => { s with defaultScale := v }
  | "default_heading" => { s with defaultHeading := v }
  | _ => s

/-- The default settings with the given ones put in. -/
def ofFields (given : Assoc Value) : Settings := given.foldl (fun s (name, v) => s.set name v) {}

/-- What is noted about a frame rate in the environment that is none. -/
def rateNote (s : Settings) (text : String) : Note :=
  .form "config" .warning "Invalid BLOCKSTAGE_FPS=%r, keeping %d" [.str text, s.fps]

/-- The environment variable with the frame rate, and the rate to use. -/
def withFrameRate (s : Settings) (rate : Option String) : List Note × Settings :=
  match rate with
  | none | some "" => ([], s)
  | some text =>
    match Numeric.readIntAnyScript text with
    | some n => ([], { s with fps := .int n })
    | none => ([s.rateNote text], s)

/-- What is noted about names that are no settings. -/
def unknownNotes (names : List String) : List Note :=
  let unknown := sortTexts (names.eraseDups.filter fun n => !Settings.names.contains n)
  if unknown.isEmpty then []
  else [.form "config" .warning "Ignoring unknown stage settings: %s" [.str (", ".intercalate unknown)]]

/-- What is noted about limits that are the wrong way round. -/
def swapNote (s : Settings) : Note :=
  .form "config" .warning "min_scale %s > max_scale %s, swapping" [s.minScale, s.maxScale]

/-- Puts the two limits of the scale in order. -/
def ordered (s : Settings) : Except Fault (List Note × Settings) := do
  if ← s.maxScale.less s.minScale then
    return ([s.swapNote], { s with minScale := s.maxScale, maxScale := s.minScale })
  else return ([], s)

/-- The texts among keys, if all are texts. -/
def textKeys : List Key → Option (List String)
  | [] => some []
  | .str s :: rest => (textKeys rest).map (s :: ·)
  | _ :: _ => none

/-- The texts among values, if all are texts. -/
def textItems : List Value → Option (List String)
  | [] => some []
  | .str s :: rest => (textItems rest).map (s :: ·)
  | _ :: _ => none

/-- Settings from a document. Something that counts as absent stands for the defaults; anything else
has to be a mapping. -/
def read (document : Value) (rate : Option String) : List Note × Except Fault Settings :=
  if document.isFalsy then
    let (notes, s) := ({} : Settings).withFrameRate rate
    (notes, .ok s)
  else
    match document with
    | .object entries =>
      match textKeys (entries.map (·.1)) with
      | none => ([], .error .wrongKind)
      | some names =>
        match (ofFields (names.zip (entries.map (·.2)))).ordered with
        | .error e => (unknownNotes names, .error e)
        | .ok (swapNotes, s) =>
          let (rateNotes, s) := s.withFrameRate rate
          (unknownNotes names ++ swapNotes ++ rateNotes, .ok s)
    | .str s => (unknownNotes (s.toList.map String.singleton), .error .absent)
    | .list items =>
      match textItems items with
      | none => ([], .error .wrongKind)
      | some names => (unknownNotes names, .error .absent)
    | _ => ([], .error .wrongKind)

/-- The settings as a mapping. -/
def toValue (s : Settings) : Value := .record s.fields

end Settings

end ScriptedStage
