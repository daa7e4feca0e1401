import ScriptedStage.Fault
import ScriptedStage.Numeric.Read
import ScriptedStage.Numeric.Text
import ScriptedStage.Text.Quoted
import ScriptedStage.Value.Basic

/-!
Values as text. `display` is what a reader of the stage sees: a text stands for itself. `inspect` is
what log lines show: texts are in quotes, so that the kind of a value can be told from its text. An
integer of more than `maxIntegerDigits` digits is refused by both.
-/
namespace ScriptedStage

/-- Doubles in log lines and messages. -/
def plainFloat : Numeric.FloatStyle := {}

/-- The decimal digits of an integer, unless there are too many. -/
def integerText (n : Int) : Except Fault String :=
  if Nat.log2 n.natAbs < 14000 || n.natAbs < Numeric.tenPow Numeric.maxIntegerDigits then
    .ok (Numeric.integerText n)
  else .error .badValue

/-- A key of a mapping in a log line. -/
def Key.inspect : Key → Except Fault String
  | .null => .ok "None"
  | .bool b => .ok (if b then "True" else "False")
  | .int n => integerText n
  | .float x => .ok (Numeric.floatText plainFloat x)
  | .str s => .ok (Text.quoted s)
  | .date w => .ok w

namespace Value

mutual
/-- A value in a log line. -/
def inspect : Value → Except Fault String
  | .null => .ok "None"
  | .bool b => .ok (if b then "True" else "False")
  | .int n => integerText n
  | .float x => .ok (Numeric.floatText plainFloat x)
  | .str s => .ok (Text.quoted s)
  | .date w => .ok w
  | .list items => do return "[" ++ ", ".intercalate (← inspectItems items) ++ "]"
  | .object entries => do return "\x7b" ++ ", ".intercalate (← inspectEntries entries) ++ "\x7d"
/-- The items of a list in a log line. -/
def inspectItems : List Value → Except Fault (List String)
  | [] => .ok []
  | v :: rest => do return (← inspect v) :: (← inspectItems rest)
/-- The entries of a mapping in a log line. -/
def inspectEntries : List (Key × Value) → Except Fault (List String)
  | [] => .ok []
  | (k, v) :: rest => do return ((← k.inspect) ++ ": " ++ (← inspect v)) :: (← inspectEntries rest)
end

/-- A value as a message: a text stands for itself. -/
def display : Value → Except Fault String
  | .str s => .ok s
  | v => v.inspect

/-- A group of values in a log line; a group of one keeps a comma. -/
def inspectGroup (vs : List Value) : Except Fault String := do
  match ← inspectItems vs with
  | [one] => return "(" ++ one ++ ",)"
  | texts => return "(" ++ ", ".intercalate texts ++ ")"

end Value

end ScriptedStage
