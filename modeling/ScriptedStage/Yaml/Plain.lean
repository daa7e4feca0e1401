/-!
What an unquoted scalar means. Certain words and certain shapes of digits stand for truth values,
nothing, numbers and dates; any other text stands for itself.
-/
namespace ScriptedStage.Yaml

/-- What an unquoted scalar stands for. -/
inductive PlainKind where
  | text
  | truth
  | float
  | integer
  /-- The key `<<`, under which other mappings are merged. -/
  | merge
  | null
  | timestamp
  /-- The key `=`, under which a mapping keeps its own value. -/
  | default
  /-- A sign that is never a scalar by itself. -/
  | sign
  deriving DecidableEq, Repr, Inhabited

/-- The words for truth values. -/
def truthWords : List (String × Bool) :=
  [("yes", true), ("Yes", true), ("YES", true), ("no", false), ("No", false), ("NO", false),
   ("true", true), ("True", true), ("TRUE", true), ("false", false), ("False", false), ("FALSE", false),
   ("on", true), ("On", true), ("ON", true), ("off", false), ("Off", false), ("OFF", false)]

/-- The words for nothing. -/
def nullWords : List String := ["", "~", "null", "Null", "NULL"]

/-- A digit or a separator between digits. -/
def isDigitOrBar (c : Char) : Bool := c.isDigit || c = '_'

/-- The text after an optional sign. -/
def afterSign : List Char → List Char
  | '-' :: rest => rest
  | '+' :: rest => rest
  | cs => cs

/-- Nothing, or an exponent with its sign. -/
def isExponentOrEnd : List Char → Bool
  | [] => true
  | e :: s :: digits =>
    (e = 'e' || e = 'E') && (s = '-' || s = '+') && !digits.isEmpty && digits.all Char.isDigit
  | _ => false

/-- The text after groups such as `:59`, each of one digit or of two up to 59; none if there is no
group. The first argument bounds the number of groups. -/
def afterGroups? : Nat → List Char → Option (List Char)
  | n + 1, ':' :: rest =>
    let digits := rest.takeWhile Char.isDigit
    let after := rest.dropWhile Char.isDigit
    let fits := match digits with
      | [_] => true
      | [a, _] => a.toNat < '6'.toNat
      | _ => false
    if !fits then none
    else
      match after with
      | ':' :: _ => afterGroups? n after
      | _ => some after
  | _, _ => none

/-- Whether a text after its sign has the shape of a number with a point. -/
def isPointed (cs : List Char) : Bool :=
  match cs with
  | c :: rest =>
    c.isDigit &&
      (match rest.dropWhile isDigitOrBar with
        | '.' :: fraction => isExponentOrEnd (fraction.dropWhile isDigitOrBar)
        | after =>
          match afterGroups? cs.length after with
          | some ('.' :: fraction) => fraction.all isDigitOrBar
          | _ => false)
  | [] => false

/-- Whether a text has the shape of a number that is no integer. -/
def isFloat (cs : List Char) : Bool :=
  isPointed (afterSign cs) ||
    (match cs with
      | '.' :: d :: rest => d.isDigit && isExponentOrEnd (rest.dropWhile isDigitOrBar)
      | _ => false) ||
    ["inf", "Inf", "INF"].any (fun w => afterSign cs = '.' :: w.toList) ||
    ["nan", "NaN", "NAN"].any (fun w => cs = '.' :: w.toList)

/-- A digit of a number in sixteens. -/
def isHexDigit (c : Char) : Bool := c.isDigit || ('a' ≤ c && c ≤ 'f') || ('A' ≤ c && c ≤ 'F')

/-- Whether a text has the shape of an integer. -/
def isInteger (cs : List Char) : Bool :=
  match afterSign cs with
  | '0' :: rest =>
    match rest with
    | [] => true
    | 'b' :: bits => !bits.isEmpty && bits.all fun c => c = '0' || c = '1' || c = '_'
    | 'x' :: hex => !hex.isEmpty && hex.all fun c => isHexDigit c || c = '_'
    | octal => octal.all fun c => ('0' ≤ c && c ≤ '7') || c = '_'
  | c :: rest =>
    c.isDigit &&
      (match rest.dropWhile isDigitOrBar with
        | [] => true
        | after => afterGroups? after.length after = some [])
  | [] => false

/-- The text after digits, of which there have to be at least `least` and at most `most`. -/
def afterDigits? (least most : Nat) (cs : List Char) : Option (List Char) :=
  let n := (cs.takeWhile Char.isDigit).length
  if least ≤ n && n ≤ most then some (cs.drop n) else none

/-- The text after a given character. -/
def afterChar? (c : Char) : List Char → Option (List Char)
  | d :: rest => if d = c then some rest else none
  | [] => none

/-- Whether a text is nothing or a time zone. -/
def isZoneOrEnd (cs : List Char) : Bool :=
  match cs.dropWhile fun c => c = ' ' || c = '\t' with
  | [] => cs.isEmpty
  | ['Z'] => true
  | s :: rest =>
    (s = '-' || s = '+') &&
      (match afterDigits? 1 2 rest with
        | some [] => true
        | some (':' :: minutes) => afterDigits? 2 2 minutes = some []
        | _ => false)

/-- Whether a text is the time of a day, after what divides it from the date. -/
def isTimeOfDay (cs : List Char) : Bool :=
  let time? := do
    let cs ← afterDigits? 1 2 cs
    let cs ← afterChar? ':' cs
    let cs ← afterDigits? 2 2 cs
    let cs ← afterChar? ':' cs
    afterDigits? 2 2 cs
  match time? with
  | none => false
  | some ('.' :: fraction) => isZoneOrEnd (fraction.dropWhile Char.isDigit)
  | some rest => isZoneOrEnd rest

/-- Whether a text has the shape of a date, with or without a time. -/
def isTimestamp (cs : List Char) : Bool :=
  let day? (least : Nat) := do
    let cs ← afterDigits? 4 4 cs
    let cs ← afterChar? '-' cs
    let cs ← afterDigits? least 2 cs
    let cs ← afterChar? '-' cs
    afterDigits? least 2 cs
  match day? 2 with
  | some [] => true
  | _ =>
    match day? 1 with
    | some ('T' :: time) | some ('t' :: time) => isTimeOfDay time
    | some (c :: rest) =>
      (c = ' ' || c = '\t') && isTimeOfDay (rest.dropWhile fun c => c = ' ' || c = '\t')
    | _ => false

/-- What an unquoted scalar stands for. -/
def plainKind (s : String) : PlainKind :=
  if truthWords.any (·.1 = s) then .truth
  else if isFloat s.toList then .float
  else if isInteger s.toList then .integer
  else if s = "<<" then .merge
  else if nullWords.contains s then .null
  else if isTimestamp s.toList then .timestamp
  else if s = "=" then .default
  else if ["!", "&", "*"].contains s then .sign
  else .text

end ScriptedStage.Yaml
