import ScriptedStage.Journal.Note
import ScriptedStage.Number
import ScriptedStage.Value.Text

/-!
Texts with placeholders. `%s` stands for a value as a message, `%r` for the value as log lines show
it, `%d` for its integer part and `%%` for a percent sign. Between the percent sign and the letter
there may be flags, a least width and a precision.

Every value must be used and every placeholder must get a value of its kind. A template that fails
is not lost: it is written as it is, followed by the group of its values.
-/
namespace ScriptedStage

/-- What stands between the percent sign and the letter of a placeholder. -/
structure Placeholder where
  /-- Fill on the right instead of the left. -/
  left : Bool := false
  /-- What is written before a number that is not negative. -/
  sign : String := ""
  /-- Fill numbers with zeros. -/
  zeros : Bool := false
  width : Option Nat := none
  /-- The most characters of a text, the fewest digits of a number. -/
  precision : Option Nat := none
  deriving Repr, Inhabited

namespace Placeholder

/-- One more character of a placeholder, if it does not end it. -/
def extend (p : Placeholder) (c : Char) : Option Placeholder :=
  let digit := c.toNat - '0'.toNat
  match p.precision, p.width with
  | some n, _ => if c.isDigit then some { p with precision := some (10 * n + digit) } else none
  | none, some n =>
    if c.isDigit then some { p with width := some (10 * n + digit) }
    else if c = '.' then some { p with precision := some 0 }
    else none
  | none, none =>
    match c with
    | '-' => some { p with left := true }
    | '+' => some { p with sign := "+" }
    | ' ' => some (if p.sign = "" then { p with sign := " " } else p)
    | '#' => some p
    | '0' => some { p with zeros := true }
    | '.' => some { p with precision := some 0 }
    | c => if c.isDigit then some { p with width := some digit } else none

/-- A text brought to the least width. -/
def fill (p : Placeholder) (s : String) : String :=
  let blanks := String.ofList (List.replicate (p.width.getD 0 - s.length) ' ')
  if p.left then s ++ blanks else blanks ++ s

/-- A text at the place of the placeholder. -/
def text (p : Placeholder) (s : String) : String :=
  p.fill (match p.precision with
    | none => s
    | some n => String.ofList (s.toList.take n))

/-- An integer at the place of the placeholder. -/
def integer (p : Placeholder) (n : Int) : Except Fault String := do
  let digits ← integerText n.natAbs
  let digits := String.ofList (List.replicate (p.precision.getD 0 - digits.length) '0') ++ digits
  let sign := if n < 0 then "-" else p.sign
  let zeros :=
    if p.zeros && !p.left then
      String.ofList (List.replicate (p.width.getD 0 - sign.length - digits.length) '0')
    else ""
  return p.fill (sign ++ zeros ++ digits)

/-- A value at the place of the placeholder with the given letter. -/
def value (p : Placeholder) (letter : Char) (v : Value) : Except Fault String :=
  match letter with
  | 's' => v.display.map p.text
  | 'r' => v.inspect.map p.text
  | 'd' | 'i' | 'u' => do
    let n ← v.number
    p.integer (← n.integerPart)
  | _ => .error .badValue

end Placeholder

namespace Template

/-- The text of a template from a point on, `opened` holding the placeholder that is being read. A
percent sign stands for itself only right after another one. -/
def fillFrom (values : List Value) (opened : Option Placeholder) (template : List Char) :
    Except Fault String :=
  match opened, template with
  | some _, [] => .error .badValue
  | none, [] => if values.isEmpty then .ok "" else .error .wrongKind
  | none, '%' :: '%' :: rest => do return "%" ++ (← fillFrom values none rest)
  | none, '%' :: rest => fillFrom values (some {}) rest
  | none, c :: rest => do return String.singleton c ++ (← fillFrom values none rest)
  | some p, c :: rest =>
    match p.extend c with
    | some p => fillFrom values (some p) rest
    | none =>
      match values with
      | [] => .error .wrongKind
      | v :: values => do
        let shown ← p.value c v
        return shown ++ (← fillFrom values none rest)
termination_by structural template

/-- A template with its placeholders filled in order. -/
def fill (template : String) (values : List Value) : Except Fault String :=
  fillFrom values none template.toList

/-- The message of a template: without values the template itself, and the template beside its
values if they do not fit. -/
def message (template : String) (values : List Value) : Except Fault String :=
  if values.isEmpty then .ok template
  else
    match fill template values with
    | .error .wrongKind | .error .badValue => do
      return template ++ " " ++ (← Value.inspectGroup values)
    | r => r

end Template

/-- A note whose text is made from a template. -/
def Note.form (source : String) (level : Level) (template : String) (values : List Value) : Note :=
  { source := source, level := level, label := level.label, text := Template.message template values }

end ScriptedStage
