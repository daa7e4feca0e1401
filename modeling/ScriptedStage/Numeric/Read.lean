import ScriptedStage.Numeric.Dyadic
import ScriptedStage.Text.Blank
import ScriptedStage.Text.Digit

/-!
Reading numbers. A decimal number has an optional sign, digits with at most one point, and an
optional exponent; a single underscore may stand between two digits. The words for infinity and NaN
are read in any case. Two alphabets are in use: literals take the decimal digits of every script,
validated fields only the ASCII ones.
-/
namespace ScriptedStage.Numeric

/-- The longest integer text that is read or written, in digits. -/
def maxIntegerDigits : Nat := 4300

/-- Removes the underscores when each stands between two digits. -/
def dropSeparators : List Char → Option (List Char)
  | [] => some []
  | '_' :: _ => none
  | [c] => some [c]
  | c :: '_' :: d :: rest =>
    if c.isDigit && d.isDigit then (dropSeparators (d :: rest)).map (c :: ·) else none
  | c :: d :: rest => (dropSeparators (d :: rest)).map (c :: ·)

/-- The sign of a number and what follows it. -/
def takeSign : List Char → Bool × List Char
  | '-' :: rest => (true, rest)
  | '+' :: rest => (false, rest)
  | rest => (false, rest)

/-- The number that a list of ASCII digits spells. -/
def digitsValue (cs : List Char) : Nat := cs.foldl (fun n c => 10 * n + (c.toNat - 48)) 0

/-- The exponent at the end of a decimal number. -/
def readExponent : List Char → Option Int
  | [] => some 0
  | c :: rest =>
    if c = 'e' || c = 'E' then
      let (negative, digits) := takeSign rest
      if digits.isEmpty || !digits.all Char.isDigit then none
      else some (if negative then -(digitsValue digits : Int) else digitsValue digits)
    else none

/-- An unsigned decimal number, already without separators. -/
def readMagnitude (negative : Bool) (cs : List Char) : Option Float :=
  let word := String.ofList (cs.map Char.toLower)
  if word = "inf" || word = "infinity" then some (encode negative (twoPow 52) (maxExponent + 1))
  else if word = "nan" then some (0.0 / 0.0)
  else
    let whole := cs.takeWhile Char.isDigit
    let rest := cs.dropWhile Char.isDigit
    let (fraction, tail) :=
      match rest with
      | '.' :: more => (more.takeWhile Char.isDigit, more.dropWhile Char.isDigit)
      | other => ([], other)
    if whole.isEmpty && fraction.isEmpty then none
    else
      (readExponent tail).map fun e =>
        ofDecimal negative (digitsValue (whole ++ fraction)) (e - fraction.length)

/-- A number in ASCII, without surrounding blanks. -/
def readFloatChars (cs : List Char) : Option Float := do
  let (negative, rest) := takeSign (← dropSeparators cs)
  readMagnitude negative rest

/-- A number written with the ASCII digits. -/
def readFloat (s : String) : Option Float := readFloatChars (Text.trim Text.isBlank s.toList)

/-- A number written with the decimal digits of any script. -/
def readFloatAnyScript (s : String) : Option Float :=
  readFloatChars ((Text.trim Text.isBlank s.toList).map Text.foldDigit)

/-- An integer in ASCII, without surrounding blanks. -/
def readIntChars (cs : List Char) : Option Int := do
  let (negative, digits) := takeSign (← dropSeparators cs)
  if digits.isEmpty || !digits.all Char.isDigit || maxIntegerDigits < digits.length then none
  else some (if negative then -(digitsValue digits : Int) else digitsValue digits)

/-- An integer written with the decimal digits of any script. -/
def readIntAnyScript (s : String) : Option Int :=
  readIntChars ((Text.trim Text.isBlank s.toList).map Text.foldDigit)

/-- The value of a digit in a base of at most sixteen. -/
def baseDigit? (base : Nat) (c : Char) : Option Nat :=
  let l := c.toLower
  let v :=
    if c.isDigit then some (c.toNat - 48)
    else if 'a' ≤ l && l ≤ 'f' then some (l.toNat - 87)
    else none
  v.filter (· < base)

/-- An integer in a base, after the mark of that base such as `0x` if it is there. -/
def readIntBase (base : Nat) (mark : Char) (s : String) : Option Int := do
  let (negative, cs) := takeSign ((Text.trim Text.isBlank s.toList).map Text.foldDigit)
  let digits := match cs with
    | '0' :: m :: rest => if m.toLower = mark then rest else cs
    | _ => cs
  if digits.isEmpty then none
  else
    let n ← digits.foldlM (fun n c => (baseDigit? base c).map (base * n + ·)) 0
    return if negative then -(n : Int) else n

end ScriptedStage.Numeric
