import ScriptedStage.Number
import ScriptedStage.Numeric.Read
import ScriptedStage.Text.Case
import ScriptedStage.Yaml.Node

/-!
The values of scalars. A scalar that is read as a number may be written in several bases, also in
base sixty with colons; one that is read as a date has to name a day that exists.
-/
namespace ScriptedStage.Yaml

/-- A text without its separators, and whether a minus sign stood before it. An empty text has no
first character to look at. -/
def unsigned (text : String) : Except Fault (Bool × List Char) :=
  match text.toList.filter (· ≠ '_') with
  | [] => .error .outOfRange
  | '-' :: rest => .ok (true, rest)
  | '+' :: rest => .ok (false, rest)
  | cs => .ok (false, cs)

/-- The texts between colons. -/
def colonParts (cs : List Char) : List String := (String.ofList cs).splitOn ":"

/-- A reading that may fail, as an outcome. -/
def orBad {α : Type} : Option α → Except Fault α
  | some a => .ok a
  | none => .error .badValue

/-- The integer without its sign. -/
def integerMagnitude (cs : List Char) : Except Fault Int :=
  match cs with
  | [] => .error .outOfRange
  | ['0'] => .ok 0
  | '0' :: 'b' :: bits => orBad (Numeric.readIntBase 2 'b' (String.ofList bits))
  | '0' :: 'x' :: hex => orBad (Numeric.readIntBase 16 'x' (String.ofList hex))
  | '0' :: _ => orBad (Numeric.readIntBase 8 'o' (String.ofList cs))
  | _ => do
    let parts ← (colonParts cs).mapM fun p => orBad (Numeric.readIntAnyScript p)
    return parts.foldl (fun n d => 60 * n + d) 0

/-- The integer of a scalar. -/
def readInteger (text : String) : Except Fault Int := do
  let (negative, cs) ← unsigned text
  let n ← integerMagnitude cs
  return if negative then -n else n

/-- Adds up parts in base sixty, the last one first. -/
def sexagesimal (sum : Float) (unit : Int) : List Float → Except Fault Float
  | [] => .ok sum
  | d :: rest => do
    let u ← (Number.int unit).toFloat
    sexagesimal (sum + d * u) (60 * unit) rest

/-- The number of a scalar that need not be an integer. -/
def readPointed (text : String) : Except Fault Float := do
  let (negative, cs) ← unsigned (Text.lower text)
  let s := String.ofList cs
  let x ←
    if s = ".inf" then pure (1.0 / 0.0)
    else if s = ".nan" then pure (0.0 / 0.0)
    else
      match colonParts cs with
      | [p] => orBad (Numeric.readFloatAnyScript p)
      | parts => do
        let xs ← parts.mapM fun p => orBad (Numeric.readFloatAnyScript p)
        sexagesimal 0.0 1 xs.reverse
  return if negative then -x else x

/-- The truth value of a scalar. -/
def readTruth (text : String) : Except Fault Bool :=
  let word := Text.lower text
  match truthWords.find? (·.1 = word) with
  | some (_, b) => .ok b
  | none => .error (.missingKey word)

/-- Whether there is such a day. -/
def isDay (year month day : Nat) : Bool :=
  1 ≤ year && 1 ≤ month && month ≤ 12 && 1 ≤ day && day ≤ Moment.daysIn year month

/-- Whether a text of the shape of a date names a day that exists, and a time and a
zone that exist. -/
def isRealDate (text : String) : Bool :=
  let cs := text.toList
  let (clock, zone) := match cs.span (· ≠ '.') with
    | (before, []) =>
      let runs := Moment.digitRuns cs.length before
      (runs.take 6, runs.drop 6)
    | (before, _ :: after) =>
      (Moment.digitRuns cs.length before, Moment.digitRuns cs.length (after.dropWhile Char.isDigit))
  let zoneFits := match zone with
    | [] => true
    | h :: rest => h * 60 + rest.headD 0 < 24 * 60
  match clock with
  | [y, m, d] => isDay y m d
  | [y, m, d, hour, minute, second] => isDay y m d && hour < 24 && minute < 60 && second < 60 && zoneFits
  | _ => false

/-- The value of a scalar with a tag. -/
def atom (tag : Tag) (text : String) : Except ReadError Value :=
  match tag with
  | .null => .ok .null
  | .truth => ((readTruth text).map Value.bool).mapError .fault
  | .integer => ((readInteger text).map Value.int).mapError .fault
  | .float => ((readPointed text).map Value.float).mapError .fault
  | .text => .ok (.str text)
  | .timestamp =>
    if !isTimestamp text.toList then .error (.fault .absent)
    else if isRealDate text then .ok (.date text)
    else .error (.fault .badValue)
  | .merge | .default | .sequence | .mapping | .unknown => .error .malformed

end ScriptedStage.Yaml
