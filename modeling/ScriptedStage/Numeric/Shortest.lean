import ScriptedStage.Numeric.Dyadic

/-!
The fewest decimal digits that read back as a given double. The reals that round to a double form an
interval around it, closed when the mantissa is even. For one digit, two digits and so on, the two
neighbours of the value on the decimal grid of that many digits are tried; the first grid with a
neighbour inside the interval wins, and of two such neighbours the nearer, a tie going to the even
last digit. Seventeen digits always suffice.
-/
namespace ScriptedStage.Numeric

/-- A positive decimal `digits * 10 ^ exponent`, where `digits` does not end in zero. -/
structure Decimal where
  digits : Nat
  exponent : Int
  deriving DecidableEq, Repr

/-- The reals that round to a positive double, with the double itself: all four numbers are over the
common denominator `denominator`. -/
structure Neighbourhood where
  low : Nat
  value : Nat
  high : Nat
  denominator : Nat
  closed : Bool

/-- The neighbourhood of `mantissa * 2 ^ exponent`. Below a power of two the gap is half as wide. -/
def Neighbourhood.of (mantissa : Nat) (exponent : Int) : Neighbourhood :=
  let narrow := mantissa = twoPow 52 ∧ minExponent < exponent
  let low := if narrow then 4 * mantissa - 1 else 4 * mantissa - 2
  let up := if exponent < 0 then 1 else twoPow exponent.toNat
  let down := if exponent < 0 then twoPow (-exponent).toNat else 1
  ⟨low * up, 4 * mantissa * up, (4 * mantissa + 2) * up, 4 * down, mantissa % 2 == 0⟩

/-- Whether `num / den` lies in the neighbourhood. -/
def Neighbourhood.contains (n : Neighbourhood) (num den : Nat) : Bool :=
  let x := num * n.denominator
  if n.closed then n.low * den ≤ x && x ≤ n.high * den
  else n.low * den < x && x < n.high * den

/-- The power of ten of the leading digit of `num / den`, found from an estimate that is at most a
few steps too low. -/
def leadingExponent (num den : Nat) : Int :=
  let estimate : Int := ((Nat.log2 num : Int) - Nat.log2 den - 1) * 30103 / 100000 - 1
  let reaches (e : Int) : Bool :=
    if e < 0 then den ≤ num * tenPow (-e).toNat else den * tenPow e.toNat ≤ num
  if reaches (estimate + 3) then estimate + 3
  else if reaches (estimate + 2) then estimate + 2
  else if reaches (estimate + 1) then estimate + 1
  else estimate

/-- The nearer of the two neighbours of the value on the grid `10 ^ unit` that lie in the
neighbourhood, if one does. -/
def Neighbourhood.onGrid (n : Neighbourhood) (unit : Int) : Option Nat :=
  let up := if unit < 0 then tenPow (-unit).toNat else 1
  let down := if unit < 0 then 1 else tenPow unit.toNat
  let num := n.value * up
  let den := n.denominator * down
  let below := num / den
  let rest := num % den
  let fits (k : Nat) : Bool := n.contains (k * down) up
  match fits below && 0 < below, fits (below + 1) with
  | true, true =>
    if 2 * rest < den then some below
    else if den < 2 * rest then some (below + 1)
    else some (if below % 2 = 0 then below else below + 1)
  | true, false => some below
  | false, true => some (below + 1)
  | false, false => none

/-- Tries the grids of `tried + 1` digits and more. -/
def Neighbourhood.search (n : Neighbourhood) (leading : Int) : Nat → Nat → Decimal
  | 0, tried => ⟨n.value / n.denominator, leading - tried⟩
  | fuel + 1, tried =>
    match n.onGrid (leading - tried) with
    | some k => ⟨k, leading - tried⟩
    | none => n.search leading fuel (tried + 1)

/-- Moves the zeros at the end of the digits into the exponent. -/
def Decimal.trim : Nat → Decimal → Decimal
  | 0, d => d
  | fuel + 1, d =>
    if d.digits % 10 = 0 && 0 < d.digits then Decimal.trim fuel ⟨d.digits / 10, d.exponent + 1⟩ else d

/-- The shortest decimal that reads back as the positive double `mantissa * 2 ^ exponent`. -/
def shortest (mantissa : Nat) (exponent : Int) : Decimal :=
  let n := Neighbourhood.of mantissa exponent
  (n.search (leadingExponent n.value n.denominator) 18 0).trim 20

end ScriptedStage.Numeric
