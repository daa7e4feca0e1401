import ScriptedStage.Text.Quoted
import ScriptedStage.Yaml.Plain

/-!
How a scalar is written. A text is written without quotes where that reads back as the same text,
otherwise between single quotes, and between double quotes if it has characters that only escapes
can show or blanks beside a line break. A line that is longer than `lineWidth` is broken at the next
blank, and between double quotes also after an escape.
-/
namespace ScriptedStage.Yaml

/-- The column after which a line is broken. -/
def lineWidth : Nat := 80

/-- The three ways to write a scalar. -/
inductive ScalarStyle where
  | plain
  | single
  | double
  deriving DecidableEq, Repr, Inhabited

/-- A character after which, or before which, a sign begins or ends a part of a document. -/
def isDivider (c : Char) : Bool :=
  c = ' ' || c = '\t' || c = '\r' || c = '\n' || c = '\x00' || c = '\u0085' || c = '\u2028' || c = '\u2029'

/-- Whether a text starts with a divider or is at its end. -/
def startsDivided : List Char → Bool
  | [] => true
  | c :: _ => isDivider c

/-- A character that can be written without an escape. -/
def isWritable (c : Char) : Bool := c = '\n' || (' ' ≤ c && c ≤ '~')

/-- Whether the first character of a text could be taken for a sign. -/
def beginsLikeSign : List Char → Bool
  | [] => false
  | c :: rest =>
    "#,[]\x7b\x7d&*!|>'\"%@`".toList.contains c || ((c = '?' || c = ':' || c = '-') && startsDivided rest)

/-- Whether a text holds a sign: a colon before a divider, or a number sign after one. -/
def holdsSign (previous : Char) : List Char → Bool
  | [] => false
  | c :: rest =>
    (c = ':' && startsDivided rest) || (c = '#' && isDivider previous) || holdsSign c rest

/-- Whether a text has the first character directly before the second. -/
def holdsPair (a b : Char) : List Char → Bool
  | c :: d :: rest => (c = a && d = b) || holdsPair a b (d :: rest)
  | _ => false

/-- Whether a text begins or ends with a blank or a line break. -/
def hasBlankEdge (cs : List Char) : Bool :=
  let blank (c : Option Char) := c = some ' ' || c = some '\n'
  blank cs.head? || blank cs.getLast?

/-- Whether a text could be taken for a border between documents. -/
def beginsLikeBorder (s : String) : Bool := s.startsWith "---" || s.startsWith "..."

/-- Whether a text can be written without quotes as far as its characters go. -/
def isPlainSafe (s : String) : Bool :=
  let cs := s.toList
  cs.all (fun c => isWritable c && c ≠ '\n') && !hasBlankEdge cs && !beginsLikeBorder s &&
    !beginsLikeSign cs && !(match cs with
      | [] => false
      | c :: rest => holdsSign c rest)

/-- Whether a text can be written between single quotes. -/
def isSingleSafe (s : String) : Bool :=
  let cs := s.toList
  cs.all isWritable && !holdsPair ' ' '\n' cs && !holdsPair '\n' ' ' cs

/-- How a text is written. -/
def textStyle (s : String) : ScalarStyle :=
  if plainKind s = .text && isPlainSafe s then .plain
  else if isSingleSafe s then .single
  else .double

/-- A line break and the indentation of the next line. -/
def newLine (indent : Nat) : List Char := '\n' :: List.replicate indent ' '

/-- Text without quotes from a column on. A single blank beyond the width of the line
becomes a line break. -/
def writePlain (indent : Nat) (fold : Bool) (column : Nat) (previous : Char) : List Char → List Char
  | [] => []
  | ' ' :: d :: rest =>
    if fold && lineWidth < column && previous ≠ ' ' && d ≠ ' ' then
      newLine indent ++ writePlain indent fold indent ' ' (d :: rest)
    else ' ' :: writePlain indent fold (column + 1) ' ' (d :: rest)
  | c :: rest => c :: writePlain indent fold (column + 1) c rest

/-- Text between single quotes from a column on. A quote is written twice, and a run of line
breaks with one more. -/
def writeSingle (indent : Nat) (fold : Bool) (column : Nat) (previous : Option Char) : List Char → List Char
  | [] => []
  | '\'' :: rest => '\'' :: '\'' :: writeSingle indent fold (column + 2) (some '\'') rest
  | '\n' :: rest =>
    let first := if previous = some '\n' then [] else ['\n']
    let last := if rest.head? = some '\n' then [] else List.replicate indent ' '
    first ++ '\n' :: last ++ writeSingle indent fold indent (some '\n') rest
  | ' ' :: d :: rest =>
    if fold && lineWidth < column && previous.isSome && previous ≠ some ' ' && d ≠ ' ' then
      newLine indent ++ writeSingle indent fold indent (some ' ') (d :: rest)
    else ' ' :: writeSingle indent fold (column + 1) (some ' ') (d :: rest)
  | c :: rest => c :: writeSingle indent fold (column + 1) (some c) rest

/-- The letters that stand for characters after a backslash. -/
def escapeLetters : List (Char × Char) :=
  [('\x00', '0'), ('\x07', 'a'), ('\x08', 'b'), ('\t', 't'), ('\n', 'n'), ('\x0b', 'v'), ('\x0c', 'f'),
   ('\r', 'r'), ('\x1b', 'e'), ('"', '"'), ('\\', '\\'), ('\u0085', 'N'), ('\u00a0', '_'), ('\u2028', 'L'),
   ('\u2029', 'P')]

/-- The digits of a number in sixteens, in capitals. -/
def upperHex (width n : Nat) : List Char := (Text.hexDigits width n).map Char.toUpper

/-- The escape of a character. -/
def escape (c : Char) : List Char :=
  match escapeLetters.find? (·.1 = c) with
  | some (_, letter) => ['\\', letter]
  | none =>
    let n := c.toNat
    if n ≤ 0xFF then '\\' :: 'x' :: upperHex 2 n
    else if n ≤ 0xFFFF then '\\' :: 'u' :: upperHex 4 n
    else '\\' :: 'U' :: upperHex 8 n

/-- Whether a character is written as an escape between double quotes. -/
def isEscaped (c : Char) : Bool := c = '"' || c = '\\' || !(' ' ≤ c && c ≤ '~')

/-- The break of a line between double quotes before the given text: a blank at the start of the
next line is marked. Also gives the column after it. -/
def doubleBreak (indent : Nat) (next : List Char) : List Char × Nat :=
  match next with
  | ' ' :: _ => ('\\' :: newLine indent ++ ['\\'], indent + 1)
  | _ => ('\\' :: newLine indent, indent)

/-- Text between double quotes from a column on. `first` says that nothing was written yet, and
`escaped` that an escape was written last. -/
def writeDouble (indent : Nat) (fold : Bool) (column : Nat) (first escaped : Bool) : List Char → List Char
  | [] => []
  | c :: rest =>
    let inside := fold && !first && !rest.isEmpty
    if isEscaped c then
      let shown := escape c
      let after := column + shown.length
      if inside && lineWidth < after - 1 then
        let (broken, column) := doubleBreak indent rest
        shown ++ broken ++ writeDouble indent fold column false true rest
      else shown ++ writeDouble indent fold after false true rest
    else if inside && (c = ' ' || escaped) && lineWidth < column then
      let (broken, column) := doubleBreak indent (c :: rest)
      broken ++ c :: writeDouble indent fold (column + 1) false false rest
    else c :: writeDouble indent fold (column + 1) false false rest

/-- A text as a scalar that begins at a column; lines after the first are indented. -/
def writeText (indent : Nat) (fold : Bool) (column : Nat) (s : String) : List Char :=
  match textStyle s with
  | .plain => writePlain indent fold column '\n' s.toList
  | .single => '\'' :: writeSingle indent fold (column + 1) none s.toList ++ ['\'']
  | .double => '"' :: writeDouble indent fold (column + 1) true false s.toList ++ ['"']

end ScriptedStage.Yaml
