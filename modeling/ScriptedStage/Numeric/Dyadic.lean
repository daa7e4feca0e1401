/-!
Doubles as exact dyadic numbers. A finite double is `±mantissa * 2 ^ exponent`, and `ofRatio` goes
the other way: it gives the double nearest to a quotient of naturals, a tie going to the even
mantissa. Every conversion of this library between integers, decimals and doubles goes through
these two functions, so it is rounded once and correctly.
-/
namespace ScriptedStage.Numeric

/-- A power of two. -/
def twoPow (n : Nat) : Nat := Nat.pow 2 n

/-- A power of ten. -/
def tenPow (n : Nat) : Nat := Nat.pow 10 n

/-- The exact value `±mantissa * 2 ^ exponent` of a finite double. -/
structure Dyadic where
  negative : Bool
  mantissa : Nat
  exponent : Int
  deriving DecidableEq, Repr

/-- The exponent of the smallest positive double. -/
def minExponent : Int := -1074

/-- The exponent of the unit in the last place of the largest finite doubles. -/
def maxExponent : Int := 971

/-- Decodes the sign, mantissa and exponent of a finite double. For an infinity or a NaN the answer
has no meaning; callers ask `Float.isFinite` first. -/
def Dyadic.ofFloat (x : Float) : Dyadic :=
  let bits := x.toBits.toNat
  let fraction : Nat := bits % twoPow 52
  let biased : Nat := bits / twoPow 52 % twoPow 11
  let negative := bits / twoPow 63 == 1
  if biased = 0 then ⟨negative, fraction, minExponent⟩
  else ⟨negative, fraction + twoPow 52, (biased : Int) - 1075⟩

/-- The quotient `num / den` as a numerator and a denominator after a shift by `2 ^ (-e)`. -/
def scaleRatio (num den : Nat) (e : Int) : Nat × Nat :=
  if e < 0 then (num * twoPow (-e).toNat, den) else (num, den * twoPow e.toNat)

/-- Rounds `num / den` to the nearest natural number, a tie to the even one. -/
def roundDiv (num den : Nat) : Nat :=
  let q := num / den
  let twice := 2 * (num % den)
  if twice < den then q
  else if den < twice then q + 1
  else if q % 2 = 0 then q else q + 1

/-- The double with a mantissa of at most 53 bits and an exponent not below `minExponent`. Too large
a value is infinite. -/
def encode (negative : Bool) (mantissa : Nat) (exponent : Int) : Float :=
  let (m, e) := if mantissa = twoPow 53 then (twoPow 52, exponent + 1) else (mantissa, exponent)
  let sign := if negative then twoPow 63 else 0
  let magnitude :=
    if m < twoPow 52 then m
    else if maxExponent < e then 2047 * twoPow 52
    else (e + 1075).toNat * twoPow 52 + (m - twoPow 52)
  Float.ofBits (UInt64.ofNat (sign + magnitude))

/-- The double nearest to `±num / den`, ties to even, for a positive `den`. -/
def ofRatio (negative : Bool) (num den : Nat) : Float :=
  if num = 0 then encode negative 0 minExponent
  else
    let estimate : Int := (Nat.log2 num : Int) - Nat.log2 den - 52
    let (a, b) := scaleRatio num den estimate
    let unit := if a / b < twoPow 52 then estimate - 1 else estimate
    let e := max unit minExponent
    let (a, b) := scaleRatio num den e
    encode negative (roundDiv a b) e

/-- The double nearest to an integer; infinite when the integer is too large. -/
def ofInteger (n : Int) : Float := ofRatio (n < 0) n.natAbs 1

/-- The double nearest to `±digits * 10 ^ exponent`. Exponents far outside the range of doubles are
cut short, since they can only give zero or infinity. -/
def ofDecimal (negative : Bool) (digits : Nat) (exponent : Int) : Float :=
  if digits = 0 then encode negative 0 minExponent
  else
    let size : Int := (Nat.log2 digits : Int) * 3 / 10
    if 400 < size + exponent then encode negative (twoPow 52) (maxExponent + 1)
    else if size + exponent < -800 - (Nat.log2 digits : Int) then encode negative 0 minExponent
    else if exponent < 0 then ofRatio negative digits (tenPow (-exponent).toNat)
    else ofRatio negative (digits * tenPow exponent.toNat) 1

/-- The integer part of a finite double: its value with the fraction cut off. -/
def truncate (x : Float) : Int :=
  let d := Dyadic.ofFloat x
  let magnitude :=
    if d.exponent < 0 then d.mantissa / twoPow (-d.exponent).toNat else d.mantissa * twoPow d.exponent.toNat
  if d.negative then -(magnitude : Int) else magnitude

/-- A finite double without a fractional part. -/
def isIntegral (x : Float) : Bool :=
  let d := Dyadic.ofFloat x
  x.isFinite && (0 ≤ d.exponent || d.mantissa % twoPow (-d.exponent).toNat == 0)

/-- The order of an integer and a finite double, decided exactly. -/
def compareInt (n : Int) (x : Float) : Ordering :=
  let d := Dyadic.ofFloat x
  let m : Int := if d.negative then -(d.mantissa : Int) else d.mantissa
  if d.exponent < 0 then compare (n * (twoPow (-d.exponent).toNat : Int)) m
  else compare n (m * (twoPow d.exponent.toNat : Int))

/-- The remainder of a finite double by a positive integer, with the sign of the divisor. The
remainder toward zero is exact; adding the divisor to a negative one rounds once. -/
def floorRem (x : Float) (divisor : Nat) : Float :=
  let d := Dyadic.ofFloat x
  let rest :=
    if d.exponent < 0 then
      let scale := twoPow (-d.exponent).toNat
      ofRatio d.negative (d.mantissa % (divisor * scale)) scale
    else ofRatio d.negative (d.mantissa * twoPow d.exponent.toNat % divisor) 1
  if rest == 0 then 0
  else if rest < 0 then rest + ofInteger divisor else rest

end ScriptedStage.Numeric
