/-!
Dynamic values: what literals, documents, settings and records are made of. Integers are exact and
are kept apart from doubles, since the two are written differently and only doubles round. A mapping
keeps its entries in order; its keys are scalars, and in most documents they are texts.
-/
namespace ScriptedStage

/-- A key of a mapping. -/
inductive Key where
  | null
  | bool (b : Bool)
  | int (n : Int)
  | float (x : Float)
  | str (s : String)
  /-- A calendar date, kept as it was written. -/
  | date (written : String)
  deriving DecidableEq, Repr, Inhabited

/-- A value of a document. -/
inductive Value where
  | null
  | bool (b : Bool)
  | int (n : Int)
  | float (x : Float)
  | str (s : String)
  /-- A calendar date, kept as it was written; only a setting may be one. -/
  | date (written : String)
  | list (items : List Value)
  | object (entries : List (Key × Value))
  deriving Repr, Inhabited

/-- A scalar key as a value. -/
def Key.toValue : Key → Value
  | .null => .null
  | .bool b => .bool b
  | .int n => .int n
  | .float x => .float x
  | .str s => .str s
  | .date w => .date w

/-- The entry of a text key. -/
def field? (entries : List (Key × Value)) (name : String) : Option Value :=
  match entries with
  | [] => none
  | (k, v) :: rest => if k = .str name then some v else field? rest name

namespace Value

/-- A mapping with text keys. -/
def record (fields : List (String × Value)) : Value := .object (fields.map fun f => (.str f.1, f.2))

/-- The values that count as absent: nothing, `false`, zero, and the empty text, list
and mapping. -/
def isFalsy : Value → Bool
  | .null => true
  | .bool b => !b
  | .int n => n == 0
  | .float x => x == 0
  | .str s => s.isEmpty
  | .date _ => false
  | .list items => items.isEmpty
  | .object entries => entries.isEmpty

end Value

end ScriptedStage
