import ScriptedStage.Value.Text
import ScriptedStage.Yaml.Scalar

/-!
Documents as YAML. Collections are written in block style, two columns further in than what holds
them, except that the items of a sequence under a key stand below the key. Empty collections are
written `[]` and `{}`. A key that does not fit on one line is written after a question mark.
-/
namespace ScriptedStage.Yaml

/-- Doubles in a document: a bare exponent gets a fraction. -/
def documentFloat : Numeric.FloatStyle := { pointBeforeExponent := true, infinity := ".inf", nan := ".nan" }

/-- The text of a scalar that is no text. -/
def atomText : Value → Except Fault (Option String)
  | .null => .ok (some "null")
  | .bool b => .ok (some (if b then "true" else "false"))
  | .int n => (integerText n).map some
  | .float x => .ok (some (Numeric.floatText documentFloat x))
  | .date w => .ok (some w)
  | .list [] => .ok (some "[]")
  | .object [] => .ok (some "\x7b\x7d")
  | _ => .ok none

/-- A key as a value. -/
def keyValue (k : Key) : Value := k.toValue

/-- How much the tag of a key counts for its length. -/
def tagLength : Key → Nat
  | .str _ | .int _ => 5
  | .null | .bool _ => 6
  | .float _ => 7
  | .date _ => 11

/-- The text of a key without quotes and escapes. -/
def rawKey : Key → Except Fault String
  | .str s => .ok s
  | k => do return (← atomText (keyValue k)).getD ""

/-- Whether a key stands on the line of its value. -/
def isSimpleKey (k : Key) : Except Fault Bool := do
  let raw ← rawKey k
  let single := match k with
    | .str s => s ≠ "" && !s.toList.any fun c => c = '\n' || c = '\u0085' || c = '\u2028' || c = '\u2029'
    | _ => true
  return single && raw.length + tagLength k < 128

/-- The text of a scalar that is no text, or of an empty collection. -/
def writeAtom (v : Value) : Except Fault (List Char) := do return ((← atomText v).getD "").toList

/-- A key that begins at a column of a mapping at `indent`, broken into lines only if `fold`. -/
def writeKey (indent : Nat) (fold : Bool) (column : Nat) : Key → Except Fault (List Char)
  | .str s => .ok (writeText (indent + 2) fold column s)
  | k => writeAtom (keyValue k)

mutual
/-- A value after an indicator that stands at `indent`: an item after its dash. Collections go on in
the same line, two columns further in. -/
def writeItem (indent : Nat) : Value → Except Fault (List Char)
  | .str s => .ok (' ' :: writeText (indent + 2) true (indent + 2) s)
  | .list (v :: rest) => do return ' ' :: (← writeItems (indent + 2) (v :: rest))
  | .object (e :: rest) => do return ' ' :: (← writeEntries (indent + 2) (e :: rest))
  | v => do return ' ' :: (← writeAtom v)
/-- A value after a key that ends at `column` in a mapping at `indent`. -/
def writeUnder (indent column : Nat) : Value → Except Fault (List Char)
  | .str s => .ok (' ' :: writeText (indent + 2) true (column + 1) s)
  | .list (v :: rest) => do return newLine indent ++ (← writeItems indent (v :: rest))
  | .object (e :: rest) => do return newLine (indent + 2) ++ (← writeEntries (indent + 2) (e :: rest))
  | v => do return ' ' :: (← writeAtom v)
/-- The items of a sequence whose dashes stand at `indent`; the first begins in the current line. -/
def writeItems (indent : Nat) : List Value → Except Fault (List Char)
  | [] => .ok []
  | [v] => do return '-' :: (← writeItem indent v)
  | v :: w :: rest => do
    return '-' :: (← writeItem indent v) ++ newLine indent ++ (← writeItems indent (w :: rest))
/-- One entry of a mapping at `indent`. -/
def writeEntry (indent : Nat) : Key × Value → Except Fault (List Char)
  | (k, v) => do
    if ← isSimpleKey k then
      let key ← writeKey indent false indent k
      return key ++ ':' :: (← writeUnder indent (indent + key.length + 1) v)
    else
      let key ← writeKey indent true (indent + 2) k
      return '?' :: ' ' :: key ++ newLine indent ++ ':' :: (← writeItem indent v)
/-- The entries of a mapping at `indent`; the first begins in the current line. -/
def writeEntries (indent : Nat) : List (Key × Value) → Except Fault (List Char)
  | [] => .ok []
  | [e] => writeEntry indent e
  | e :: f :: rest => do
    return (← writeEntry indent e) ++ newLine indent ++ (← writeEntries indent (f :: rest))
end

/-- A document. -/
def write (v : Value) : Except Fault String :=
  let text := match v with
    | .object (e :: rest) => writeEntries 0 (e :: rest)
    | .list (w :: rest) => writeItems 0 (w :: rest)
    | .str s => .ok (writeText 2 true 0 s)
    | v => writeAtom v
  text.map fun cs => String.ofList (cs ++ ['\n'])

end ScriptedStage.Yaml
