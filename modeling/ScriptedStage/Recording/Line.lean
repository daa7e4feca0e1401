import ScriptedStage.Text.Quoted
import ScriptedStage.Value.Text

/-!
Lines of a recording. A record is written on one line as JSON: a blank after each colon and comma,
characters beyond ASCII as escapes in UTF-16 units, infinities and NaN by name. Keys that are not
texts are written as texts.
-/
namespace ScriptedStage

/-- Doubles in a recording. -/
def recordedFloat : Numeric.FloatStyle := { infinity := "Infinity", nan := "NaN" }

namespace Recording

/-- A UTF-16 unit as an escape. -/
def unitEscape (unit : Nat) : String := "\\u" ++ String.ofList (Text.hexDigits 4 unit)

/-- A character inside a recorded text. -/
def character (c : Char) : String :=
  match c with
  | '"' => "\\\""
  | '\\' => "\\\\"
  | '\n' => "\\n"
  | '\r' => "\\r"
  | '\t' => "\\t"
  | c =>
    let n := c.toNat
    if n = 8 then "\\b"
    else if n = 12 then "\\f"
    else if 0x20 ≤ n && n < 0x7F then String.singleton c
    else if n < 0x10000 then unitEscape n
    else unitEscape (0xD800 + (n - 0x10000) / 0x400) ++ unitEscape (0xDC00 + (n - 0x10000) % 0x400)

/-- A text in a recording. -/
def text (s : String) : String := "\"" ++ s.toList.foldl (fun t c => t ++ character c) "" ++ "\""

/-- A key in a recording. -/
def key : Key → Except Fault String
  | .null => .ok (text "null")
  | .bool b => .ok (text (if b then "true" else "false"))
  | .int n => (integerText n).map text
  | .float x => .ok (text (Numeric.floatText recordedFloat x))
  | .str s => .ok (text s)
  | .date _ => .error .wrongKind

mutual
/-- A value in a recording. -/
def value : Value → Except Fault String
  | .null => .ok "null"
  | .bool b => .ok (if b then "true" else "false")
  | .int n => integerText n
  | .float x => .ok (Numeric.floatText recordedFloat x)
  | .str s => .ok (text s)
  | .date _ => .error .wrongKind
  | .list items => do return "[" ++ ", ".intercalate (← values items) ++ "]"
  | .object es => do return "\x7b" ++ ", ".intercalate (← entries es) ++ "\x7d"
/-- The items of a list in a recording. -/
def values : List Value → Except Fault (List String)
  | [] => .ok []
  | v :: rest => do return (← value v) :: (← values rest)
/-- The entries of a mapping in a recording. -/
def entries : List (Key × Value) → Except Fault (List String)
  | [] => .ok []
  | (k, v) :: rest => do return ((← key k) ++ ": " ++ (← value v)) :: (← entries rest)
end

end Recording

end ScriptedStage
