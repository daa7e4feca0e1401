import ScriptedStage.Yaml.Lexeme

/-!
From a text to its tokens. Outside brackets, indentation begins and ends collections. A scalar, a
bracket, an alias or a property may turn out to be a key once a colon follows on the same line; its
place among the tokens is remembered until then.
-/
namespace ScriptedStage.Yaml

/-- A place among the tokens at which a key may have begun. -/
structure PossibleKey where
  /-- How many tokens come before. -/
  number : Nat
  /-- Whether nothing but a key can stand there. -/
  required : Bool
  index : Nat
  line : Nat
  column : Nat
  deriving Repr, Inhabited

/-- How far the reading of a text has come. -/
structure Lexer where
  rest : List Cell
  /-- The indentation of the collection that is open; none is at -1. -/
  indent : Int := -1
  indents : List Int := []
  /-- How many brackets are open. -/
  flowLevel : Nat := 0
  /-- Whether a key may begin here. -/
  keyAllowed : Bool := true
  /-- The possible keys by the number of open brackets. -/
  keys : List (Nat × PossibleKey) := []
  /-- The tokens, newest first. -/
  tokens : List Token := []
  deriving Inhabited

/-- How many characters a key may have. -/
def longestKey : Nat := 1024

namespace Lexer

/-- Adds a token. -/
def push (l : Lexer) (t : Token) : Lexer := { l with tokens := t :: l.tokens }

/-- Puts a token before those that came after the first `number`. -/
def insertAt (l : Lexer) (number : Nat) (t : Token) : Lexer :=
  let newer := l.tokens.length - number
  { l with tokens := l.tokens.take newer ++ t :: l.tokens.drop newer }

/-- Skips blanks, comments and line breaks; says whether there was a line break. -/
def skipGap (comment : Bool) : List Cell → List Cell × Bool
  | [] => ([], false)
  | c :: rest =>
    if isBreak c.char then ((skipGap false rest).1, true)
    else if c.char = endMark then (c :: rest, false)
    else if comment then skipGap true rest
    else if c.char = ' ' then skipGap false rest
    else if c.char = '#' then skipGap true rest
    else (c :: rest, false)

/-- Moves on to the next token. Outside brackets a key may begin on a new line. -/
def moveOn (l : Lexer) : Lexer :=
  let (rest, broken) := skipGap false l.rest
  { l with rest := rest, keyAllowed := l.keyAllowed || (broken && l.flowLevel = 0) }

/-- Whether a possible key can no longer become one. -/
def isStale (l : Lexer) (k : PossibleKey) : Bool :=
  match l.rest with
  | [] => false
  | c :: _ => k.line ≠ c.line || longestKey < c.index - k.index

/-- Forgets the possible keys that can no longer become keys. -/
def dropStale (l : Lexer) : Except ReadError Lexer :=
  if l.keys.any fun k => l.isStale k.2 && k.2.required then malformed
  else .ok { l with keys := l.keys.filter fun k => !l.isStale k.2 }

/-- Forgets the possible key of the open bracket. -/
def dropKey (l : Lexer) : Except ReadError Lexer :=
  if l.keys.any fun k => k.1 = l.flowLevel && k.2.required then malformed
  else .ok { l with keys := l.keys.filter fun k => k.1 ≠ l.flowLevel }

/-- Remembers that a key may begin here. -/
def markKey (l : Lexer) : Except ReadError Lexer :=
  if l.keyAllowed then do
    let l ← l.dropKey
    match l.rest with
    | [] => return l
    | c :: _ =>
      let key : PossibleKey :=
        ⟨l.tokens.length, l.flowLevel = 0 && l.indent = c.column, c.index, c.line, c.column⟩
      return { l with keys := (l.flowLevel, key) :: l.keys }
  else .ok l

/-- Closes the collections that are indented further than a column. The second argument holds the
indentations around the open one. -/
def closeTo (column : Int) (indent : Int) : List Int → Int × List Int × Nat
  | [] => if column < indent then (-1, [], 1) else (indent, [], 0)
  | outer :: more =>
    if column < indent then
      let (indent, indents, closed) := closeTo column outer more
      (indent, indents, closed + 1)
    else (indent, outer :: more, 0)

/-- Closes the collections that are indented further than a column; brackets keep them open. -/
def unwind (l : Lexer) (column : Int) : Lexer :=
  if l.flowLevel ≠ 0 then l
  else
    let (indent, indents, closed) := closeTo column l.indent l.indents
    { l with indent := indent, indents := indents, tokens := List.replicate closed .blockEnd ++ l.tokens }

/-- Opens a collection at a column if that is further in; says whether it was. -/
def openAt (l : Lexer) (column : Nat) : Lexer × Bool :=
  if l.indent < column then ({ l with indents := l.indent :: l.indents, indent := column }, true)
    else (l, false)

/-- The column of the next character. -/
def column (l : Lexer) : Nat := columnOf l.rest

/-- Moves over characters. -/
def forward (l : Lexer) (n : Nat) : Lexer := { l with rest := l.rest.drop n }

/-- A directive or a border of a document: all collections end. -/
def atMargin (l : Lexer) : Except ReadError Lexer := do
  let l ← (l.unwind (-1)).dropKey
  return { l with keyAllowed := false }

/-- A directive. -/
def readDirective (l : Lexer) : Except ReadError Lexer := do
  let l ← l.atMargin
  let (d, rest) ← directive (l.rest.drop 1)
  return { l with rest := rest }.push (.directive d)

/-- A border of a document. -/
def readBorder (l : Lexer) (t : Token) : Except ReadError Lexer := do
  let l ← l.atMargin
  return (l.forward 3).push t

/-- An opening bracket, which may begin a key. -/
def readOpening (l : Lexer) (t : Token) : Except ReadError Lexer := do
  let l ← l.markKey
  return ({ l with flowLevel := l.flowLevel + 1, keyAllowed := true }.forward 1).push t

/-- A closing bracket. -/
def readClosing (l : Lexer) (t : Token) : Except ReadError Lexer := do
  let l ← l.dropKey
  if l.flowLevel = 0 then malformed
  else return ({ l with flowLevel := l.flowLevel - 1, keyAllowed := false }.forward 1).push t

/-- A comma between brackets. -/
def readComma (l : Lexer) : Except ReadError Lexer := do
  let l ← { l with keyAllowed := true }.dropKey
  return (l.forward 1).push .flowEntry

/-- Opens a collection here, outside brackets, if a key may begin. -/
def openHere (l : Lexer) (start : Token) : Except ReadError Lexer :=
  if l.flowLevel ≠ 0 then .ok l
  else if !l.keyAllowed then malformed
  else
    let (l, opened) := l.openAt l.column
    .ok (if opened then l.push start else l)

/-- A dash before an item. -/
def readDash (l : Lexer) : Except ReadError Lexer := do
  let l ← l.openHere .blockSequenceStart
  let l ← { l with keyAllowed := true }.dropKey
  return (l.forward 1).push .blockEntry

/-- A question mark before a key. -/
def readQuestion (l : Lexer) : Except ReadError Lexer := do
  let l ← l.openHere .blockMappingStart
  let l ← { l with keyAllowed := l.flowLevel = 0 }.dropKey
  return (l.forward 1).push .key

/-- A colon before a value: what could be a key is one. -/
def readColon (l : Lexer) : Except ReadError Lexer := do
  match l.keys.find? (·.1 = l.flowLevel) with
  | some (_, key) =>
    let l := { l with keys := l.keys.filter fun k => k.1 ≠ l.flowLevel, keyAllowed := false }
    let l := l.insertAt key.number .key
    let (l, opened) := if l.flowLevel = 0 then l.openAt key.column else (l, false)
    let l := if opened then l.insertAt key.number .blockMappingStart else l
    return (l.forward 1).push .value
  | none =>
    let l ← l.openHere .blockMappingStart
    let l ← { l with keyAllowed := l.flowLevel = 0 }.dropKey
    return (l.forward 1).push .value

/-- Something that may begin a key and that is read as a whole. -/
def readWhole (l : Lexer) (read : List Cell → Except ReadError (Token × List Cell)) :
    Except ReadError Lexer := do
  let l ← l.markKey
  let (t, rest) ← read l.rest
  return { l with rest := rest, keyAllowed := false }.push t

/-- An unquoted scalar. -/
def readPlain (l : Lexer) : Except ReadError Lexer := do
  let l ← l.markKey
  let s := plainScalar (l.flowLevel ≠ 0) (l.indent + 1) l.rest
  return { l with rest := s.rest, keyAllowed := s.broken }.push (.scalar (String.ofList s.chars) true)

/-- A block scalar, after which a key may begin. -/
def readBlock (l : Lexer) (folded : Bool) : Except ReadError Lexer := do
  let l ← { l with keyAllowed := true }.dropKey
  let (chars, rest) ← blockScalar folded l.indent (l.rest.drop 1)
  return { l with rest := rest }.push (.scalar (String.ofList chars) false)

/-- Whether an unquoted scalar may begin here. -/
def beginsPlain (l : Lexer) : Bool :=
  let c := peek l.rest
  !(isDivider c || "-?:,[]\x7b\x7d#&*!|>'\"%@`".toList.contains c) ||
    (!isDivider (peekAt 1 l.rest) && (c = '-' || (l.flowLevel = 0 && (c = '?' || c = ':'))))

/-- A quoted scalar. -/
def readQuoted (l : Lexer) (quote : Char) : Except ReadError Lexer :=
  l.readWhole fun cs => do
    let (chars, rest) ← quotedScalar quote (cs.drop 1)
    return (.scalar (String.ofList chars) false, rest)

/-- A named anchor or alias. -/
def readName (l : Lexer) (token : String → Token) : Except ReadError Lexer :=
  l.readWhole fun cs => do
    let (name, rest) ← anchorName (cs.drop 1)
    return (token name, rest)

/-- Reads one token, after all that comes before it; not at the end of the text. -/
def readToken (l : Lexer) : Except ReadError Lexer :=
  let c := peek l.rest
  let divided := isDivider (peekAt 1 l.rest)
  let flow := l.flowLevel ≠ 0
  if c = '%' && l.column = 0 then l.readDirective
  else if c = '-' && l.column = 0 && isBorder l.rest then l.readBorder .documentStart
  else if c = '.' && l.column = 0 && isBorder l.rest then l.readBorder .documentEnd
  else if c = '[' then l.readOpening .flowSequenceStart
  else if c = '\x7b' then l.readOpening .flowMappingStart
  else if c = ']' then l.readClosing .flowSequenceEnd
  else if c = '\x7d' then l.readClosing .flowMappingEnd
  else if c = ',' then l.readComma
  else if c = '-' && divided then l.readDash
  else if c = '?' && (flow || divided) then l.readQuestion
  else if c = ':' && (flow || divided) then l.readColon
  else if c = '*' then l.readName .reference
  else if c = '&' then l.readName .anchor
  else if c = '!' then l.readWhole tagToken
  else if c = '|' && !flow then l.readBlock false
  else if c = '>' && !flow then l.readBlock true
  else if c = '\'' || c = '"' then l.readQuoted c
  else if l.beginsPlain then l.readPlain
  else malformed

/-- The end of the text: all collections end. -/
def finish (l : Lexer) : Except ReadError (List Token) := do
  let l ← (l.unwind (-1)).dropKey
  return (Token.streamEnd :: l.tokens).reverse

/-- Reads all tokens. Each takes at least one character, so the number of characters
bounds their number. -/
def run : Nat → Lexer → Except ReadError (List Token)
  | 0, _ => malformed
  | n + 1, l => do
    let l ← l.moveOn.dropStale
    let l := l.unwind l.column
    if peek l.rest = endMark then l.finish
    else
      let l ← l.readToken
      run n l

end Lexer

/-- The tokens of a text. A mark of its encoding may stand before it. -/
def tokens (s : String) : Except ReadError (List Token) :=
  if s.toList.all isAllowed then
    let cs := cells s
    let cs := if peek cs = orderMark then cs.drop 1 else cs
    Lexer.run (cs.length + 1) { rest := cs }
  else malformed

end ScriptedStage.Yaml
