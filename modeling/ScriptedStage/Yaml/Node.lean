import ScriptedStage.Assoc
import ScriptedStage.Yaml.Lexer

/-!
From tokens to a tree. A node is a scalar, a sequence or a mapping with its tag. Aliases
are replaced by the nodes they stand for; an alias inside its own node stands for the node
that is not finished yet.
-/
namespace ScriptedStage.Yaml

/-- What a node is to be read as. -/
inductive Tag where
  | null
  | truth
  | integer
  | float
  | text
  | timestamp
  | merge
  | default
  | sequence
  | mapping
  /-- A tag without a meaning here. -/
  | unknown
  deriving DecidableEq, Repr, Inhabited

/-- The beginning of the tags of the language itself. -/
def coreStem : String := "tag:yaml.org,2002:"

/-- The tag of a full name. -/
def Tag.ofName (name : String) : Tag :=
  if name.startsWith coreStem then
    match String.ofList (name.toList.drop coreStem.length) with
    | "null" => .null
    | "bool" => .truth
    | "int" => .integer
    | "float" => .float
    | "str" => .text
    | "timestamp" => .timestamp
    | "merge" => .merge
    | "value" => .default
    | "seq" => .sequence
    | "map" => .mapping
    | _ => .unknown
  else .unknown

/-- The tag that an unquoted scalar has by its form. -/
def Tag.ofPlain (s : String) : Tag :=
  match plainKind s with
  | .text => .text
  | .truth => .truth
  | .float => .float
  | .integer => .integer
  | .merge => .merge
  | .null => .null
  | .timestamp => .timestamp
  | .default => .default
  | .sign => .unknown

/-- A part of a document. -/
inductive Node where
  | scalar (tag : Tag) (text : String)
  | sequence (tag : Tag) (items : List Node)
  | mapping (tag : Tag) (entries : List (Node × Node))
  /-- A sequence or a mapping that is not finished where an alias in it stands for it. -/
  | unfinished (isMapping : Bool)
  deriving Inhabited

namespace Node

/-- The scalar for a place that was left empty. -/
def empty : Node := .scalar .null ""

end Node

/-- What is known while tokens are read: the tokens left, the nodes with names, and
the handles of tags. -/
structure NodeReader where
  tokens : List Token
  anchors : Assoc Node := []
  handles : Assoc String := []

namespace NodeReader

/-- The next token. -/
def next (r : NodeReader) : Token := r.tokens.headD .streamEnd

/-- Moves over a token. -/
def skip (r : NodeReader) : NodeReader := { r with tokens := r.tokens.tail }

/-- What stands before a node: an anchor and a tag, in either order. -/
structure Properties where
  anchor : Option String := none
  /-- The full name of the tag. -/
  tag : Option String := none

/-- The full name of a tag; its handle has to be known. -/
def fullName (r : NodeReader) (handle : Option String) (suffix : String) : Option String :=
  match handle with
  | none => some suffix
  | some h => (r.handles.get? h).map (· ++ suffix)

/-- Reads what stands before a node. -/
def properties (r : NodeReader) : Option (Properties × NodeReader) :=
  match r.next with
  | .anchor a =>
    match r.skip.next with
    | .tag h s => (r.fullName h s).map fun t => (⟨some a, some t⟩, r.skip.skip)
    | _ => some (⟨some a, none⟩, r.skip)
  | .tag h s =>
    (r.fullName h s).map fun t =>
      match r.skip.next with
      | .anchor a => (⟨some a, some t⟩, r.skip.skip)
      | _ => (⟨none, some t⟩, r.skip)
  | _ => some ({}, r)

/-- Gives a node a name. A name is given only once. -/
def bind (r : NodeReader) (anchor : Option String) (n : Node) : Option NodeReader :=
  match anchor with
  | none => some r
  | some a => if (r.anchors.get? a).isSome then none else some { r with anchors := r.anchors.set a n }

/-- Puts the finished node in the place of the unfinished one. -/
def finish (r : NodeReader) (anchor : Option String) (n : Node) : NodeReader :=
  match anchor with
  | none => r
  | some a => { r with anchors := r.anchors.set a n }

/-- The tag of a scalar. One without quotes is read by its form, and so is one with the tag `!`. -/
def scalarTag (tag : Option String) (plain : Bool) (text : String) : Tag :=
  match tag with
  | some "!" => .ofPlain text
  | some name => .ofName name
  | none => if plain then .ofPlain text else .text

/-- The tag of a collection. -/
def collectionTag (tag : Option String) (usual : Tag) : Tag :=
  match tag with
  | none | some "!" => usual
  | some name => .ofName name

/-- Whether a token ends an entry of a block mapping. -/
def endsBlockEntry : Token → Bool
  | .key | .value | .blockEnd => true
  | _ => false

/-- A sequence or a mapping: its name stands for it while its parts are read. -/
def collection {α : Type} (p : Properties) (isMapping : Bool) (usual : Tag)
    (make : Tag → α → Node) (parts : NodeReader → Option (α × NodeReader)) (r : NodeReader) :
    Option (Node × NodeReader) := do
  let r ← r.bind p.anchor (.unfinished isMapping)
  let (content, r) ← parts r
  let n := make (collectionTag p.tag usual) content
  return (n, r.finish p.anchor n)

mutual
/-- A node. Block collections begin here only if `block`, and items without indentation
only if `indentless`. The first argument of this and the following functions bounds how
deep they call each other. -/
def node : Nat → Bool → Bool → NodeReader → Option (Node × NodeReader)
  | 0, _, _, _ => none
  | fuel + 1, block, indentless, r =>
    match r.next with
    | .reference a => (r.anchors.get? a).map fun n => (n, r.skip)
    | _ => do
      let (p, r) ← r.properties
      let sequence := collection p false .sequence Node.sequence
      let mapping := collection p true .mapping Node.mapping
      match r.next, block, indentless with
      | .blockEntry, _, true => sequence (indentlessItems fuel) r
      | .scalar text plain, _, _ => do
        let n := Node.scalar (scalarTag p.tag plain text) text
        return (n, ← r.skip.bind p.anchor n)
      | .flowSequenceStart, _, _ => sequence (flowItems fuel true) r.skip
      | .flowMappingStart, _, _ => mapping (flowEntries fuel true) r.skip
      | .blockSequenceStart, true, _ => sequence (blockItems fuel) r.skip
      | .blockMappingStart, true, _ => mapping (blockEntries fuel) r.skip
      | _, _, _ =>
        if p.anchor.isSome || p.tag.isSome then do
          let n := Node.scalar (scalarTag p.tag true "") ""
          return (n, ← r.bind p.anchor n)
        else none
/-- The items of a block sequence, up to its end. -/
def blockItems : Nat → NodeReader → Option (List Node × NodeReader)
  | 0, _ => none
  | fuel + 1, r =>
    match r.next with
    | .blockEntry => do
      let r := r.skip
      let (n, r) ← match r.next with
        | .blockEntry | .blockEnd => some (Node.empty, r)
        | _ => node fuel true false r
      let (more, r) ← blockItems fuel r
      return (n :: more, r)
    | .blockEnd => some ([], r.skip)
    | _ => none
/-- The items of a sequence that is not indented further than the key it stands under. -/
def indentlessItems : Nat → NodeReader → Option (List Node × NodeReader)
  | 0, _ => none
  | fuel + 1, r =>
    match r.next with
    | .blockEntry => do
      let r := r.skip
      let (n, r) ←
        if r.next = .blockEntry || endsBlockEntry r.next then some (Node.empty, r)
          else node fuel true false r
      let (more, r) ← indentlessItems fuel r
      return (n :: more, r)
    | _ => some ([], r)
/-- The entries of a block mapping, up to its end. -/
def blockEntries : Nat → NodeReader → Option (List (Node × Node) × NodeReader)
  | 0, _ => none
  | fuel + 1, r =>
    match r.next with
    | .key => do
      let r := r.skip
      let (k, r) ← if endsBlockEntry r.next then some (Node.empty, r) else node fuel true true r
      let (v, r) ← blockValue fuel r
      let (more, r) ← blockEntries fuel r
      return ((k, v) :: more, r)
    | .blockEnd => some ([], r.skip)
    | _ => none
/-- The value after a key of a block mapping. -/
def blockValue : Nat → NodeReader → Option (Node × NodeReader)
  | 0, _ => none
  | fuel + 1, r =>
    match r.next with
    | .value =>
      let r := r.skip
      if endsBlockEntry r.next then some (Node.empty, r) else node fuel true true r
    | _ => some (Node.empty, r)
/-- The items between brackets, up to the closing one. An item may be a mapping of one entry. -/
def flowItems : Nat → Bool → NodeReader → Option (List Node × NodeReader)
  | 0, _, _ => none
  | fuel + 1, first, r =>
    match r.next with
    | .flowSequenceEnd => some ([], r.skip)
    | _ => do
      let r ← if first then some r else if r.next = .flowEntry then some r.skip else none
      match r.next with
      | .flowSequenceEnd => return ([], r.skip)
      | .key =>
        let r := r.skip
        let (k, r) ← match r.next with
          | .value | .flowEntry | .flowSequenceEnd => some (Node.empty, r)
          | _ => node fuel false false r
        let (v, r) ← flowValue fuel .flowSequenceEnd r
        let (more, r) ← flowItems fuel false r
        return (.mapping .mapping [(k, v)] :: more, r)
      | _ =>
        let (n, r) ← node fuel false false r
        let (more, r) ← flowItems fuel false r
        return (n :: more, r)
/-- The entries between braces, up to the closing one. -/
def flowEntries : Nat → Bool → NodeReader → Option (List (Node × Node) × NodeReader)
  | 0, _, _ => none
  | fuel + 1, first, r =>
    match r.next with
    | .flowMappingEnd => some ([], r.skip)
    | _ => do
      let r ← if first then some r else if r.next = .flowEntry then some r.skip else none
      match r.next with
      | .flowMappingEnd => return ([], r.skip)
      | .key =>
        let r := r.skip
        let (k, r) ← match r.next with
          | .value | .flowEntry | .flowMappingEnd => some (Node.empty, r)
          | _ => node fuel false false r
        let (v, r) ← flowValue fuel .flowMappingEnd r
        let (more, r) ← flowEntries fuel false r
        return ((k, v) :: more, r)
      | _ =>
        let (k, r) ← node fuel false false r
        let (more, r) ← flowEntries fuel false r
        return ((k, Node.empty) :: more, r)
/-- The value after a key between brackets that are closed by `closing`. -/
def flowValue : Nat → Token → NodeReader → Option (Node × NodeReader)
  | 0, _, _ => none
  | fuel + 1, closing, r =>
    match r.next with
    | .value =>
      let r := r.skip
      if r.next = .flowEntry || r.next = closing then some (Node.empty, r) else node fuel false false r
    | _ => some (Node.empty, r)
end

/-- The handles that every document knows. -/
def usualHandles : Assoc String := [("!", "!"), ("!!", coreStem)]

/-- Takes directives into account: one version of the right kind, and each handle once. -/
def directives : List Token → Bool → Assoc String → Option (Assoc String × List Token)
  | .directive (.version major) :: rest, versioned, handles =>
    if versioned || major ≠ 1 then none else directives rest true handles
  | .directive (.tag handle stem) :: rest, versioned, handles =>
    if (handles.get? handle).isSome then none else directives rest versioned (handles.set handle stem)
  | .directive .other :: rest, versioned, handles => directives rest versioned handles
  | tokens, _, handles => some (handles, tokens)

/-- How deep the functions above can call each other for a number of tokens. -/
def fuelFor (r : NodeReader) : Nat := 4 * r.tokens.length + 4

/-- Whether nothing but ends of documents is left. -/
def isDone : List Token → Bool
  | .documentEnd :: rest => isDone rest
  | .streamEnd :: _ => true
  | _ => false

/-- The only document of a text; none if there is no document. -/
def document (tokens : List Token) : Option (Option Node) :=
  match tokens with
  | .streamEnd :: _ => some none
  | .directive _ :: _ | .documentStart :: _ => do
    let (given, rest) ← directives tokens false []
    match rest with
    | .documentStart :: rest =>
      let handles := usualHandles.foldl (fun hs (h, stem) =>
        if (hs.get? h).isSome then hs else hs.set h stem) given
      let r : NodeReader := { tokens := rest, handles := handles }
      let (n, r) ← match r.next with
        | .directive _ | .documentStart | .documentEnd | .streamEnd => some (Node.empty, r)
        | _ => node r.fuelFor true false r
      if isDone r.tokens then return some n else none
    | _ => none
  | _ => do
    let r : NodeReader := { tokens := tokens, handles := usualHandles }
    let (n, r) ← node r.fuelFor true false r
    if isDone r.tokens then return some n else none

end NodeReader

end ScriptedStage.Yaml
