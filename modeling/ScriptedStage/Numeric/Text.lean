import ScriptedStage.Numeric.Shortest

/-!
Numbers as text. A double is written with the fewest digits that read back; the choices that differ
between output formats (where positional notation ends, how the exponent and the special values
look) are a `FloatStyle`. `fixed` writes a double with a set number of decimal places instead,
rounding its exact value with ties to the even digit.
-/
namespace ScriptedStage.Numeric

/-- The choices an output format makes for doubles. -/
structure FloatStyle where
  /-- The least power of ten of the leading digit that is written positionally. -/
  positionalFrom : Int := -4
  /-- The first power of ten of the leading digit that is written with an exponent again. -/
  positionalBelow : Int := 16
  /-- The least number of digits of the exponent. -/
  exponentDigits : Nat := 2
  /-- Whether a single digit before an exponent is followed by `.0`. -/
  pointBeforeExponent : Bool := false
  infinity : String := "inf"
  nan : String := "nan"

/-- The decimal digits of a natural number. -/
def digitsOf (n : Nat) : List Char := Nat.toDigits 10 n

/-- `n` copies of the digit zero. -/
def zeros (n : Nat) : List Char := List.replicate n '0'

/-- An integer in decimal notation. -/
def integerText (n : Int) : String :=
  if n < 0 then String.ofList ('-' :: digitsOf n.natAbs) else String.ofList (digitsOf n.natAbs)

/-- Writes digits positionally when the leading one stands at `10 ^ leading`. -/
def positional (digits : List Char) (leading : Int) : List Char :=
  if leading < 0 then ['0', '.'] ++ zeros (-leading - 1).toNat ++ digits
  else
    let whole := leading.toNat + 1
    if digits.length ≤ whole then digits ++ zeros (whole - digits.length) ++ ['.', '0']
    else digits.take whole ++ ['.'] ++ digits.drop whole

/-- Writes digits with an exponent. -/
def scientific (style : FloatStyle) (digits : List Char) (leading : Int) : List Char :=
  let fraction :=
    match digits.drop 1 with
    | [] => if style.pointBeforeExponent then ['.', '0'] else []
    | rest => '.' :: rest
  let magnitude := digitsOf leading.natAbs
  digits.take 1 ++ fraction ++ ['e', if leading < 0 then '-' else '+'] ++
    zeros (style.exponentDigits - magnitude.length) ++ magnitude

/-- The text of a double in a style. -/
def floatText (style : FloatStyle) (x : Float) : String :=
  if x.isNaN then style.nan
  else
    let d := Dyadic.ofFloat x
    let sign := if d.negative then ['-'] else []
    if x.isInf then String.ofList sign ++ style.infinity
    else if d.mantissa = 0 then String.ofList (sign ++ ['0', '.', '0'])
    else
      let s := shortest d.mantissa d.exponent
      let digits := digitsOf s.digits
      let leading := s.exponent + digits.length - 1
      let body :=
        if style.positionalFrom ≤ leading && leading < style.positionalBelow then
          positional digits leading
        else scientific style digits leading
      String.ofList (sign ++ body)

/-- Pads a text on the left to a width. -/
def padLeft (width : Nat) (s : String) : String :=
  String.ofList (List.replicate (width - s.length) ' ') ++ s

/-- Pads a text on the right to a width. -/
def padRight (width : Nat) (s : String) : String :=
  s ++ String.ofList (List.replicate (width - s.length) ' ')

/-- The exact value of a double with `places` decimal places, a tie going to the even digit. -/
def fixed (places : Nat) (x : Float) : String :=
  if x.isNaN then "nan"
  else
    let d := Dyadic.ofFloat x
    let sign := if d.negative then "-" else ""
    if x.isInf then sign ++ "inf"
    else
      let scaled := d.mantissa * tenPow places
      let rounded :=
        if d.exponent < 0 then roundDiv scaled (twoPow (-d.exponent).toNat)
        else scaled * twoPow d.exponent.toNat
      let digits := digitsOf rounded
      let padded := zeros (places + 1 - digits.length) ++ digits
      let whole := padded.take (padded.length - places)
      let fraction := padded.drop (padded.length - places)
      sign ++ String.ofList (if places = 0 then whole else whole ++ '.' :: fraction)

end ScriptedStage.Numeric
