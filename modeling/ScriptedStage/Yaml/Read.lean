import ScriptedStage.Yaml.Atom

/-!
The value of a document. Merged mappings are put in first (`Node.merged`); then every node gets its
value (`Node.toValue`). Of several faults the shallowest counts, and of those the first.
-/
namespace ScriptedStage.Yaml

namespace Node

/-- An entry that no mapping can have. -/
def refusedEntry : Node × Node := (.scalar .unknown "", .empty)

/-- Whether a node is the key `<<`. -/
def isMergeKey : Node → Bool
  | .scalar tag _ | .sequence tag _ | .mapping tag _ => tag = .merge
  | .unfinished _ => false

/-- The entries that a mapping takes over from what stands under `<<`: those of a mapping, or those
of several mappings, the last one first. -/
def mergedEntries : Node → List (Node × Node)
  | .mapping _ entries => entries
  | .unfinished true => []
  | .sequence _ items =>
    (items.reverse.map fun
      | .mapping _ entries => entries
      | .unfinished true => []
      | _ => [refusedEntry]).flatten
  | _ => [refusedEntry]

/-- The entries of a mapping after those it takes over. -/
def withMerged (entries : List (Node × Node)) : List (Node × Node) :=
  ((entries.filter (·.1.isMergeKey)).map (mergedEntries ·.2)).flatten ++ entries.filter (!·.1.isMergeKey)

mutual
/-- The node with all merges done, inside first. -/
def merged : Node → Node
  | .sequence tag items => .sequence tag (mergedItems items)
  | .mapping tag entries => .mapping tag (withMerged (mergedPairs entries))
  | n => n
/-- The same for the items of a sequence. -/
def mergedItems : List Node → List Node
  | [] => []
  | n :: rest => merged n :: mergedItems rest
/-- The same for the entries of a mapping. -/
def mergedPairs : List (Node × Node) → List (Node × Node)
  | [] => []
  | (k, v) :: rest => (merged k, merged v) :: mergedPairs rest
end

/-- A fault, and how many collections it is inside of. -/
structure Trouble where
  depth : Nat
  error : ReadError

/-- A fault one collection further inside. -/
def Trouble.deeper (t : Trouble) : Trouble := { t with depth := t.depth + 1 }

/-- Two outcomes together; of two faults the shallower counts, or else the first. -/
def together {α β γ : Type} (f : α → β → γ) : Except Trouble α → Except Trouble β → Except Trouble γ
  | .ok a, .ok b => .ok (f a b)
  | .error e, .ok _ => .error e
  | .ok _, .error e => .error e
  | .error e, .error e' => .error (if e'.depth < e.depth then e' else e)

/-- A fault right here. -/
def here {α : Type} : Except ReadError α → Except Trouble α := Except.mapError (⟨0, ·⟩)

/-- The key for a value; collections are no keys. -/
def keyOf : Value → Except ReadError Key
  | .null => .ok .null
  | .bool b => .ok (.bool b)
  | .int n => .ok (.int n)
  | .float x => .ok (.float x)
  | .str s => .ok (.str s)
  | .date w => .ok (.date w)
  | .list _ | .object _ => .error .malformed

/-- Whether two keys are one. Numbers are compared by value. -/
def isSameKey (a b : Key) : Bool :=
  match a, b with
  | .float x, .float y => x == y || (x.isNaN && y.isNaN)
  | _, _ => a.toValue.same b.toValue

/-- Puts an entry in. The first key stays, the last value stays. -/
def putEntry (k : Key) (v : Value) : List (Key × Value) → List (Key × Value)
  | [] => [(k, v)]
  | (k', v') :: rest => if isSameKey k' k then (k', v) :: rest else (k', v') :: putEntry k v rest

/-- The text of a node where a scalar is wanted: a mapping may hold it under the key `=`. -/
def scalarText? : Node → Option String
  | .scalar _ text => some text
  | .mapping _ entries => entryText? entries
  | .sequence _ _ | .unfinished _ => none
where
  /-- The text under the first key `=`. -/
  entryText? : List (Node × Node) → Option String
    | [] => none
    | (.scalar .default _, v) :: _ => scalarText? v
    | _ :: rest => entryText? rest

/-- The value of a key. The key `=` is a text here. -/
def keyValue : Node → Except ReadError Key
  | .scalar .default text => .ok (.str text)
  | .scalar .sequence _ | .scalar .mapping _ => .error .malformed
  | .scalar tag text => (atom tag text).bind keyOf
  | .mapping .sequence _ | .mapping .mapping _ => .error .malformed
  | .mapping tag entries =>
    match (Node.mapping tag entries).scalarText? with
    | some text => (atom tag text).bind keyOf
    | none => .error .malformed
  | .sequence _ _ | .unfinished _ => .error .malformed

mutual
/-- The value of a node. -/
def toValue : Node → Except Trouble Value
  | .scalar .sequence _ | .scalar .mapping _ => .error ⟨1, .malformed⟩
  | .scalar tag text => here (atom tag text)
  | .sequence .sequence items => ((itemValues items).map Value.list).mapError Trouble.deeper
  | .sequence .mapping _ => .error ⟨1, .malformed⟩
  | .sequence _ _ => .error ⟨0, .malformed⟩
  | .mapping .mapping entries =>
    ((entryValues entries).map fun kvs =>
      Value.object (kvs.foldl (fun es (k, v) => putEntry k v es) [])).mapError Trouble.deeper
  | .mapping .sequence _ => .error ⟨1, .malformed⟩
  | .mapping tag entries =>
    match (Node.mapping tag entries).scalarText? with
    | some text => here (atom tag text)
    | none => .error ⟨0, .malformed⟩
  | .unfinished true => .ok (.object [])
  | .unfinished false => .ok (.list [])
/-- The values of the items of a sequence. -/
def itemValues : List Node → Except Trouble (List Value)
  | [] => .ok []
  | n :: rest => together (· :: ·) (toValue n) (itemValues rest)
/-- The keys and values of the entries of a mapping. -/
def entryValues : List (Node × Node) → Except Trouble (List (Key × Value))
  | [] => .ok []
  | (k, v) :: rest =>
    together (· :: ·) (together (·, ·) (here (keyValue k)) (toValue v)) (entryValues rest)
end

end Node

/-- The value of a text. A text without a document has no value. -/
def read (text : String) : Except ReadError Value := do
  let tokens ← tokens text
  match NodeReader.document tokens with
  | none => .error .malformed
  | some none => return .null
  | some (some n) => n.merged.toValue.mapError (·.error)

end ScriptedStage.Yaml
