import ScriptedStage.Fault
import ScriptedStage.Numeric.Dyadic
import ScriptedStage.Value.Basic
import ScriptedStage.Value.Moment

/-!
Numbers are exact integers or doubles. An operation on two integers is exact; as soon as a double
takes part, the integer is rounded to a double first, and one that is too large for that is a fault.
Comparison is exact in every case.
-/
namespace ScriptedStage

/-- An exact integer or a double. -/
inductive Number where
  | int (n : Int)
  | float (x : Float)
  deriving DecidableEq, Repr, Inhabited

namespace Number

/-- The number as a value of a document. -/
def toValue : Number → Value
  | .int n => .int n
  | .float x => .float x

/-- The nearest double; an integer beyond the range of doubles is a fault. -/
def toFloat : Number → Except Fault Float
  | .int n =>
    let x := Numeric.ofInteger n
    if x.isInf then .error .tooLarge else .ok x
  | .float x => .ok x

/-- Applies the exact operation to two integers and the rounding one otherwise. -/
def combine (exact : Int → Int → Int) (rounded : Float → Float → Float) (a b : Number) :
    Except Fault Number :=
  match a, b with
  | .int m, .int n => .ok (.int (exact m n))
  | a, b => do return .float (rounded (← a.toFloat) (← b.toFloat))

def add : Number → Number → Except Fault Number := combine (· + ·) (· + ·)
def sub : Number → Number → Except Fault Number := combine (· - ·) (· - ·)
def mul : Number → Number → Except Fault Number := combine (· * ·) (· * ·)

/-- The negative of a number. -/
def neg : Number → Number
  | .int n => .int (-n)
  | .float x => .float (-x)

/-- Division always gives a double; two integers are divided exactly and rounded once. -/
def div (a b : Number) : Except Fault Float :=
  match a, b with
  | .int m, .int n =>
    if n = 0 then .error .divisionByZero
    else
      let q := Numeric.ofRatio ((m < 0) != (n < 0) && m != 0) m.natAbs n.natAbs
      if q.isInf then .error .tooLarge else .ok q
  | a, b => do
    let x ← a.toFloat
    let y ← b.toFloat
    if y == 0 then .error .divisionByZero else .ok (x / y)

/-- Whether `a < b`, decided exactly; false as soon as a NaN takes part. -/
def lt : Number → Number → Bool
  | .int m, .int n => m < n
  | .float x, .float y => x < y
  | .int m, .float y =>
    if y.isNaN then false
    else if y.isInf then 0 < y
    else Numeric.compareInt m y == .lt
  | .float x, .int n =>
    if x.isNaN then false
    else if x.isInf then x < 0
    else Numeric.compareInt n x == .gt

/-- Whether two numbers are equal, decided exactly; a NaN equals nothing. -/
def same : Number → Number → Bool
  | .int m, .int n => m == n
  | .float x, .float y => x == y
  | .int m, .float y => y.isFinite && Numeric.compareInt m y == .eq
  | .float x, .int n => x.isFinite && Numeric.compareInt n x == .eq

/-- The integer part. An infinity or a NaN has none. -/
def integerPart : Number → Except Fault Int
  | .int n => .ok n
  | .float x =>
    if x.isNaN then .error .badValue
    else if x.isInf then .error .tooLarge
    else .ok (Numeric.truncate x)

/-- The remainder by a positive integer, never negative. -/
def floorRem (a : Number) (divisor : Nat) : Number :=
  match a with
  | .int n => .int (n.fmod divisor)
  | .float x => if x.isFinite then .float (Numeric.floorRem x divisor) else .float (0.0 / 0.0)

end Number

namespace Value

/-- The number that a value is: a truth value counts as 1 or 0, anything but a number is a fault. -/
def number : Value → Except Fault Number
  | .bool b => .ok (.int (if b then 1 else 0))
  | .int n => .ok (.int n)
  | .float x => .ok (.float x)
  | _ => .error .wrongKind

mutual
/-- Equality of values: numbers by size whatever their kind, dates by the moment that they name,
texts, lists and mappings by content. -/
def same : Value → Value → Bool
  | .null, .null => true
  | .str s, .str t => s == t
  | .date s, .date t => (Moment.read s).same (Moment.read t)
  | .list xs, .list ys => sameItems xs ys
  | .object xs, .object ys => xs.length == ys.length && sameEntries xs ys
  | a, b =>
    match a.number, b.number with
    | .ok m, .ok n => m.same n
    | _, _ => false
/-- Equality of lists, item by item. -/
def sameItems : List Value → List Value → Bool
  | [], [] => true
  | x :: xs, y :: ys => same x y && sameItems xs ys
  | _, _ => false
/-- Whether each entry of the first mapping is in the second. -/
def sameEntries : List (Key × Value) → List (Key × Value) → Bool
  | [], _ => true
  | (k, v) :: rest, ys =>
    (match ys.find? (fun e => e.1 = k) with
      | some e => same v e.2
      | none => false) && sameEntries rest ys
end

mutual
/-- Whether `a < b` for values that have an order: numbers, texts, dates of one kind,
and lists of such. -/
def less : Value → Value → Except Fault Bool
  | .str s, .str t => .ok (s < t)
  | .date s, .date t =>
    match (Moment.read s).before? (Moment.read t) with
    | some b => .ok b
    | none => .error .wrongKind
  | .list xs, .list ys => lessItems xs ys
  | a, b => do return (← a.number).lt (← b.number)
/-- The first difference decides; a list comes before its extensions. -/
def lessItems : List Value → List Value → Except Fault Bool
  | [], ys => .ok !ys.isEmpty
  | _ :: _, [] => .ok false
  | x :: xs, y :: ys => if x.same y then lessItems xs ys else less x y
end

end Value

/-- Wraps a heading into `[0, 360)`. A remainder that rounds up to 360 becomes zero. -/
def wrapHeading (heading : Number) : Number :=
  match heading.floorRem 360 with
  | .int n => .int n
  | .float x => .float (if 360 ≤ x then x - 360 else x)

end ScriptedStage
