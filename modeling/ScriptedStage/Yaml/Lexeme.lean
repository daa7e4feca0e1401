import ScriptedStage.Yaml.Cell
import ScriptedStage.Yaml.Token

/-!
The parts that tokens are made from: unquoted, quoted and block scalars, names, tags and directives.
Each reader looks at the cells that are left, and gives what it read and the cells left after it.
-/
namespace ScriptedStage.Yaml

/-- A reading that failed because the text is not well formed. -/
def malformed {α : Type} : Except ReadError α := .error .malformed

/-! ## Unquoted scalars -/

/-- Whether an unquoted scalar ends before a character. Inside brackets more characters end it. -/
def endsPlain (flow : Bool) (c next : Char) : Bool :=
  isDivider c ||
    (c = ':' && (isDivider next || (flow && ",[]\x7b\x7d".toList.contains next))) ||
    (flow && ",?[]\x7b\x7d".toList.contains c)

/-- The characters of an unquoted scalar up to the next gap. -/
def plainChunk (flow : Bool) : List Cell → List Char × List Cell
  | [] => ([], [])
  | c :: rest =>
    if endsPlain flow c.char (peek rest) then ([], c :: rest)
    else
      let (chars, after) := plainChunk flow rest
      (c.char :: chars, after)

/-- Blank lines inside a scalar: the breaks they read as, unless a border of the document comes. -/
def plainBreaks : List Cell → Option (List Char) × List Cell
  | [] => (some [], [])
  | c :: rest =>
    if c.char = ' ' then plainBreaks rest
    else if isBreak c.char then
      if isBorder rest then (none, rest)
      else
        let (chars, after) := plainBreaks rest
        (chars.map (breakText c.char :: ·), after)
    else (some [], c :: rest)

/-- What line breaks between two parts of a scalar read as. -/
def foldedBreaks (first : Char) (more : List Char) : List Char :=
  if first ≠ '\n' then first :: more else if more.isEmpty then [' '] else more

/-- A gap in an unquoted scalar. -/
structure PlainGap where
  /-- What the gap reads as; nothing if the scalar ends here. -/
  text : List Char
  /-- Whether the gap has a line break. -/
  broken : Bool
  rest : List Cell

/-- The gap after a part of an unquoted scalar. -/
def plainGap (cs : List Cell) : PlainGap :=
  let blanks := charsWhile (· = ' ') cs
  let rest := skipWhile (· = ' ') cs
  match rest with
  | [] => ⟨blanks, false, []⟩
  | c :: after =>
    if isBreak c.char then
      if isBorder after then ⟨[], true, after⟩
      else
        match plainBreaks after with
        | (none, rest) => ⟨[], true, rest⟩
        | (some more, rest) => ⟨foldedBreaks (breakText c.char) more, true, rest⟩
    else ⟨blanks, false, rest⟩

/-- An unquoted scalar. -/
structure PlainScalar where
  chars : List Char
  /-- Whether it was followed by a line break. -/
  broken : Bool
  rest : List Cell

/-- The parts of an unquoted scalar that is indented by at least `indent`; `gap` is what stands
before the next part. The first argument bounds the number of parts. -/
def plainParts (flow : Bool) (indent : Int) : Nat → List Char → List Cell → Bool → PlainScalar
  | 0, _, cs, broken => ⟨[], broken, cs⟩
  | n + 1, gap, cs, broken =>
    if peek cs = '#' then ⟨[], broken, cs⟩
    else
      let (chunk, after) := plainChunk flow cs
      if chunk.isEmpty then ⟨[], broken, cs⟩
      else
        let g := plainGap after
        if g.text.isEmpty || peek g.rest = '#' || (!flow && (columnOf g.rest : Int) < indent) then
          ⟨gap ++ chunk, g.broken, g.rest⟩
        else
          let more := plainParts flow indent n g.text g.rest g.broken
          ⟨gap ++ chunk ++ more.chars, more.broken, more.rest⟩

/-- An unquoted scalar. -/
def plainScalar (flow : Bool) (indent : Int) (cs : List Cell) : PlainScalar :=
  plainParts flow indent cs.length [] cs false

/-! ## Quoted scalars -/

/-- What a letter after a backslash stands for. -/
def escapedLetter? (c : Char) : Option Char :=
  match c with
  | '\t' => some '\t'
  | ' ' => some ' '
  | '/' => some '/'
  | c => (escapeLetters.find? (·.2 = c)).map (·.1)

/-- How many digits follow a letter after a backslash. -/
def escapeDigits? (c : Char) : Option Nat :=
  match c with
  | 'x' => some 2
  | 'u' => some 4
  | 'U' => some 8
  | _ => none

/-- The value of digits in sixteens. -/
def hexValue (cs : List Char) : Nat :=
  cs.foldl (fun n c =>
    16 * n + (if c.isDigit then c.toNat - '0'.toNat else c.toLower.toNat - 'a'.toNat + 10)) 0

/-- The character with a code point that was written in sixteens. -/
def characterOf (code : Nat) : Except ReadError Char :=
  if code ≤ 0x10FFFF then .ok (Char.ofNat code) else .error (.fault .badValue)

/-- Blank lines inside a quoted scalar. A border of the document is not allowed there. The first
argument bounds the number of lines. -/
def quotedBreaks : Nat → List Cell → Except ReadError (List Char × List Cell)
  | 0, _ => malformed
  | n + 1, cs =>
    if isBorder cs then malformed
    else
      let cs := skipWhile (fun c => c = ' ' || c = '\t') cs
      match cs with
      | c :: rest =>
        if isBreak c.char then do
          let (more, after) ← quotedBreaks n rest
          return (breakText c.char :: more, after)
        else return ([], cs)
      | [] => return ([], [])

/-- The rest of a quoted scalar, after its opening quote. The first argument bounds the
number of characters. -/
def quotedRest (quote : Char) : Nat → List Cell → Except ReadError (List Char × List Cell)
  | 0, _ => malformed
  | n + 1, cs =>
    match cs with
    | [] => malformed
    | c :: rest =>
      let keep (chars : List Char) (after : List Cell) : Except ReadError (List Char × List Cell) := do
        let (more, after) ← quotedRest quote n after
        return (chars ++ more, after)
      if c.char = quote then
        if quote = '\'' && peek rest = '\'' then keep ['\''] (rest.drop 1) else return ([], rest)
      else if c.char = ' ' || c.char = '\t' then
        let blank (c : Char) := c = ' ' || c = '\t'
        let after := skipWhile blank rest
        if isBreak (peek after) then keep [] after else keep (c.char :: charsWhile blank rest) after
      else if isBreak c.char then do
        let (more, after) ← quotedBreaks (rest.length + 1) rest
        keep (foldedBreaks (breakText c.char) more) after
      else if c.char = endMark then malformed
      else if c.char = '\\' && quote = '"' then
        let letter := peek rest
        match escapedLetter? letter, escapeDigits? letter with
        | some shown, _ => keep [shown] (rest.drop 1)
        | none, some count => do
          let digits := ((rest.drop 1).take count).map (·.char)
          if digits.length = count && digits.all isHexDigit then
            keep [← characterOf (hexValue digits)] (rest.drop (1 + count))
          else malformed
        | none, none =>
          if isBreak letter then do
            let (more, after) ← quotedBreaks (rest.length + 1) (rest.drop 1)
            keep more after
          else malformed
      else keep [c.char] rest

/-- A quoted scalar, after its opening quote. -/
def quotedScalar (quote : Char) (cs : List Cell) : Except ReadError (List Char × List Cell) :=
  quotedRest quote (cs.length + 1) cs

/-! ## Block scalars -/

/-- What becomes of the line breaks at the end of a block scalar. -/
inductive Chomping where
  | strip
  | clip
  | keep
  deriving DecidableEq, Repr, Inhabited

/-- The sign that says what becomes of the last line breaks. -/
def chomping? (c : Char) : Option Chomping :=
  if c = '+' then some .keep else if c = '-' then some .strip else none

/-- The signs after `|` or `>`: what becomes of the last line breaks, and the
indentation, in either order. -/
def blockHeader (cs : List Cell) : Except ReadError ((Chomping × Option Nat) × List Cell) :=
  let width? (cs : List Cell) : Except ReadError (Option Nat × List Cell) :=
    let c := peek cs
    if c.isDigit then if c = '0' then malformed else return (some (c.toNat - '0'.toNat), cs.drop 1)
    else return (none, cs)
  let read : Except ReadError ((Chomping × Option Nat) × List Cell) :=
    match chomping? (peek cs) with
    | some ch => do
      let (width, cs) ← width? (cs.drop 1)
      return ((ch, width), cs)
    | none => do
      let (width, cs) ← width? cs
      match width, chomping? (peek cs) with
      | some _, some ch => return ((ch, width), cs.drop 1)
      | _, _ => return ((.clip, width), cs)
  do
    let (header, cs) ← read
    if peek cs = ' ' || isBreakOrEnd (peek cs) then return (header, cs) else malformed

/-- The rest of a line that may only hold a comment, and its break. -/
def ignoredLine (cs : List Cell) : Except ReadError (List Cell) :=
  let cs := skipWhile (· = ' ') cs
  let cs := if peek cs = '#' then skipWhile (!isBreakOrEnd ·) cs else cs
  if isBreak (peek cs) then .ok (cs.drop 1)
  else if peek cs = endMark then .ok cs
  else malformed

/-- The blank lines before the first line of a block scalar, and the largest
indentation among them. -/
def leadingLines (widest : Nat) : List Cell → List Char × Nat × List Cell
  | [] => ([], widest, [])
  | c :: rest =>
    if c.char = ' ' then leadingLines (max widest (c.column + 1)) rest
    else if isBreak c.char then
      let (chars, widest, after) := leadingLines widest rest
      (breakText c.char :: chars, widest, after)
    else ([], widest, c :: rest)

/-- Blank lines inside a block scalar, and the indentation of the line after them. -/
def blockBreaks (indent : Nat) : List Cell → List Char × List Cell
  | [] => ([], [])
  | c :: rest =>
    if c.char = ' ' && c.column < indent then blockBreaks indent rest
    else if isBreak c.char then
      let (chars, after) := blockBreaks indent rest
      (breakText c.char :: chars, after)
    else ([], c :: rest)

/-- The lines of a block scalar, after the given blank lines. The first argument bounds
the number of lines. -/
def blockLines (folded : Bool) (indent : Nat) (chomping : Chomping) :
    Nat → List Char → List Cell → List Char × List Cell
  | 0, _, cs => ([], cs)
  | n + 1, breaks, cs =>
    let line := charsWhile (!isBreakOrEnd ·) cs
    let after := skipWhile (!isBreakOrEnd ·) cs
    let lineBreak := if isBreak (peek after) then [breakText (peek after)] else []
    let (more, rest) := blockBreaks indent (if isBreak (peek after) then after.drop 1 else after)
    if columnOf rest = indent && peek rest ≠ endMark then
      let flush (c : Char) := c ≠ ' ' && c ≠ '\t'
      let joint :=
        if folded && lineBreak = ['\n'] && flush (peek cs) && flush (peek rest) then
          if more.isEmpty then [' '] else []
        else lineBreak
      let (chars, rest) := blockLines folded indent chomping n more rest
      (breaks ++ line ++ joint ++ chars, rest)
    else
      let tail := match chomping with
        | .strip => []
        | .clip => lineBreak
        | .keep => lineBreak ++ more
      (breaks ++ line ++ tail, rest)

/-- A block scalar after its sign, in a collection that is indented by `outer`. -/
def blockScalar (folded : Bool) (outer : Int) (cs : List Cell) :
    Except ReadError (List Char × List Cell) := do
  let ((chomping, width), cs) ← blockHeader cs
  let cs ← ignoredLine cs
  let least := (max (outer + 1) 1).toNat
  let (indent, breaks, cs) :=
    match width with
    | none =>
      let (breaks, widest, cs) := leadingLines 0 cs
      (max least widest, breaks, cs)
    | some w =>
      let (breaks, cs) := blockBreaks (least + w - 1) cs
      (least + w - 1, breaks, cs)
  if columnOf cs = indent && peek cs ≠ endMark
    then return blockLines folded indent chomping cs.length breaks cs
  else return (if chomping = .keep then breaks else [], cs)

/-! ## Names, tags, directives -/

/-- A character of a name. -/
def isNameChar (c : Char) : Bool := c.isAlphanum || c = '-' || c = '_'

/-- The name of an anchor or an alias, after its sign. -/
def anchorName (cs : List Cell) : Except ReadError (String × List Cell) :=
  let name := charsWhile isNameChar cs
  let rest := skipWhile isNameChar cs
  let next := peek rest
  if name.isEmpty then malformed
  else if isDivider next || "?:,]\x7d%@`".toList.contains next then .ok (String.ofList name, rest)
  else malformed

/-- A character of a tag that is not an escape. -/
def isTagChar (c : Char) : Bool := c.isAlphanum || "-;/?:@&=+$,_.!~*'()[]".toList.contains c

/-- The bytes of escapes such as `%41`. -/
def escapedBytes : List Cell → Except ReadError (List UInt8 × List Cell)
  | p :: a :: b :: rest =>
    if p.char = '%' then
      if isHexDigit a.char && isHexDigit b.char then do
        let (more, after) ← escapedBytes rest
        return ((hexValue [a.char, b.char]).toUInt8 :: more, after)
      else malformed
    else return ([], p :: a :: b :: rest)
  | cs => if peek cs = '%' then malformed else return ([], cs)

/-- The text of a tag. The first argument bounds the number of characters. -/
def tagText : Nat → List Cell → Except ReadError (List Char × List Cell)
  | 0, _ => malformed
  | n + 1, cs =>
    match cs with
    | [] => return ([], [])
    | c :: rest =>
      if isTagChar c.char then do
        let (more, after) ← tagText n rest
        return (c.char :: more, after)
      else if c.char = '%' then do
        let (bytes, after) ← escapedBytes cs
        match String.fromUTF8? ⟨bytes.toArray⟩ with
        | none => malformed
        | some text =>
          let (more, after) ← tagText n after
          return (text.toList ++ more, after)
      else return ([], cs)

/-- The text of a tag, which is not empty. -/
def tagBody (cs : List Cell) : Except ReadError (String × List Cell) := do
  let (chars, rest) ← tagText (cs.length + 1) cs
  if (isTagChar (peek cs) || peek cs = '%') then return (String.ofList chars, rest) else malformed

/-- A handle at the start of a tag: `!`, `!!` or `!name!`. -/
def tagHandle (cs : List Cell) : Except ReadError (String × List Cell) :=
  if peek cs ≠ '!' then malformed
  else if peekAt 1 cs = ' ' then .ok ("!", cs.drop 1)
  else
    let name := charsWhile isNameChar (cs.drop 1)
    let rest := skipWhile isNameChar (cs.drop 1)
    if peek rest = '!' then .ok (String.ofList ('!' :: name ++ ['!']), rest.drop 1) else malformed

/-- A blank, a line break or the end of the text. -/
def isGap (c : Char) : Bool := c = ' ' || isBreakOrEnd c

/-- A tag: its handle, if it has one, and the rest. -/
def tagToken (cs : List Cell) : Except ReadError (Token × List Cell) := do
  let next := peekAt 1 cs
  let ((handle, suffix), rest) ←
    if next = '<' then do
      let (suffix, rest) ← tagBody (cs.drop 2)
      if peek rest = '>' then pure ((none, suffix), rest.drop 1) else malformed
    else if isDivider next then pure ((none, "!"), cs.drop 1)
    else if (charsWhile (!isGap ·) (cs.drop 1)).contains '!' then do
      let (handle, rest) ← tagHandle cs
      let (suffix, rest) ← tagBody rest
      pure ((some handle, suffix), rest)
    else do
      let (suffix, rest) ← tagBody (cs.drop 1)
      pure ((some "!", suffix), rest)
  if isGap (peek rest) then return (.tag handle suffix, rest) else malformed

/-- A number of a version. -/
def versionNumber (cs : List Cell) : Except ReadError (Nat × List Cell) :=
  let digits := charsWhile Char.isDigit cs
  if digits.isEmpty then malformed
  else .ok (digits.foldl (fun n c => 10 * n + (c.toNat - '0'.toNat)) 0, skipWhile Char.isDigit cs)

/-- A directive after its percent sign, with the rest of its line. -/
def directive (cs : List Cell) : Except ReadError (Directive × List Cell) := do
  let name := String.ofList (charsWhile isNameChar cs)
  let cs := skipWhile isNameChar cs
  if name.isEmpty || !isGap (peek cs) then malformed
  else
    let blanks := skipWhile (· = ' ')
    let (d, cs) ← (match name with
      | "YAML" => do
        let (major, cs) ← versionNumber (blanks cs)
        if peek cs ≠ '.' then malformed
        else
          let (_, cs) ← versionNumber (cs.drop 1)
          if isGap (peek cs) then pure (Directive.version major, cs) else malformed
      | "TAG" => do
        let (handle, cs) ← tagHandle (blanks cs)
        if peek cs ≠ ' ' then malformed
        else
          let (stem, cs) ← tagBody (blanks cs)
          if isGap (peek cs) then pure (Directive.tag handle stem, cs) else malformed
      | _ => pure (Directive.other, skipWhile (!isBreakOrEnd ·) cs) :
          Except ReadError (Directive × List Cell))
    return (d, ← ignoredLine cs)

end ScriptedStage.Yaml
