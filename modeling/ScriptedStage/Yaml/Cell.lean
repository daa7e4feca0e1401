import ScriptedStage.Yaml.Scalar

/-!
Characters with their places. A text is turned into cells once, and everything that reads it looks
at the cells that are left. The last cell holds the character NUL, which a document cannot contain,
so that there is always a character to look at.
-/
namespace ScriptedStage.Yaml

/-- A character and where it stands. -/
structure Cell where
  char : Char
  /-- How many characters come before. -/
  index : Nat
  line : Nat
  column : Nat
  deriving DecidableEq, Repr, Inhabited

/-- The character that ends a text. -/
def endMark : Char := '\x00'

/-- A mark at the start of a text that says how it is encoded. -/
def orderMark : Char := '\ufeff'

/-- A character that ends a line. -/
def isBreak (c : Char) : Bool := c = '\n' || c = '\u0085' || c = '\u2028' || c = '\u2029'

/-- A character that ends a line, or the end of the text. -/
def isBreakOrEnd (c : Char) : Bool := isBreak c || c = endMark

/-- Gives each character its place, and adds the end. -/
def placeFrom (index line column : Nat) : List Char → List Cell
  | [] => [⟨endMark, index, line, column⟩]
  | c :: rest =>
    ⟨c, index, line, column⟩ ::
      (if isBreak c then placeFrom (index + 1) (line + 1) 0 rest
      else if c = orderMark then placeFrom (index + 1) line column rest
      else placeFrom (index + 1) line (column + 1) rest)

/-- The cells of a text. -/
def cells (s : String) : List Cell := placeFrom 0 0 0 s.toList

/-- The next character. -/
def peek : List Cell → Char
  | [] => endMark
  | c :: _ => c.char

/-- The character at a distance. -/
def peekAt (n : Nat) (cs : List Cell) : Char := peek (cs.drop n)

/-- The column of the next character. -/
def columnOf : List Cell → Nat
  | [] => 0
  | c :: _ => c.column

/-- Drops cells while their characters satisfy `p`. -/
def skipWhile (p : Char → Bool) (cs : List Cell) : List Cell := cs.dropWhile fun c => p c.char

/-- The characters of the first cells that satisfy `p`. -/
def charsWhile (p : Char → Bool) (cs : List Cell) : List Char :=
  (cs.takeWhile fun c => p c.char).map (·.char)

/-- What a line break reads as: an ordinary one as a line feed, the two separators as themselves. -/
def breakText (c : Char) : Char := if c = '\n' || c = '\u0085' then '\n' else c

/-- Whether a border between documents, followed by a divider, stands here. -/
def isBorder (cs : List Cell) : Bool :=
  ((peek cs = '-' && peekAt 1 cs = '-' && peekAt 2 cs = '-') ||
      (peek cs = '.' && peekAt 1 cs = '.' && peekAt 2 cs = '.')) && isDivider (peekAt 3 cs)

/-- A character that a document may contain. -/
def isAllowed (c : Char) : Bool :=
  let n := c.toNat
  n = 9 || n = 10 || n = 13 || (0x20 ≤ n && n ≤ 0x7E) || n = 0x85 || (0xA0 ≤ n && n ≤ 0xFFFD) || 0x10000 ≤ n

/-- A text whose line breaks are all line feeds. -/
def unifyBreaks : List Char → List Char
  | [] => []
  | '\r' :: '\n' :: rest => '\n' :: unifyBreaks rest
  | '\r' :: rest => '\n' :: unifyBreaks rest
  | c :: rest => c :: unifyBreaks rest

end ScriptedStage.Yaml
