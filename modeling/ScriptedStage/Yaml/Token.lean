import ScriptedStage.Fault

/-!
The tokens of a document.
-/
namespace ScriptedStage.Yaml

/-- An instruction before a document. -/
inductive Directive where
  /-- The version of the language; only the first number counts. -/
  | version (major : Nat)
  /-- What a handle at the start of a tag stands for. -/
  | tag (handle stem : String)
  | other
  deriving DecidableEq, Repr, Inhabited

/-- A part of a document. -/
inductive Token where
  | directive (d : Directive)
  | documentStart
  | documentEnd
  | streamEnd
  | blockSequenceStart
  | blockMappingStart
  | blockEnd
  | flowSequenceStart
  | flowSequenceEnd
  | flowMappingStart
  | flowMappingEnd
  | flowEntry
  | blockEntry
  | key
  | value
  | reference (name : String)
  | anchor (name : String)
  /-- A tag with its handle, if it has one, and the rest. -/
  | tag (handle : Option String) (suffix : String)
  /-- A scalar, and whether it was written without quotes. -/
  | scalar (text : String) (plain : Bool)
  deriving DecidableEq, Repr, Inhabited

/-- Why a text cannot be read as a document. -/
inductive ReadError where
  /-- It is not well formed. -/
  | malformed
  /-- A part of it has the right form, and no value. -/
  | fault (f : Fault)
  deriving DecidableEq, Repr

end ScriptedStage.Yaml
