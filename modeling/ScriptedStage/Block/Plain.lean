import ScriptedStage.Block.Basic

/-!
Reading blocks from their plain form without validation. The type, the children, the id and the
values are read in this order, and the first problem stops the reading. Ids and types may be any
value and are turned into text; children are read only for containers and dropped otherwise;
absent values are no values.
-/
namespace ScriptedStage.Block

/-- The items of a value that can be gone through: the items of a list, the characters of a text,
the keys of a mapping. -/
def itemsOf : Value → Except Fault (List Value)
  | .list items => .ok items
  | .str s => .ok (s.toList.map fun c => .str (String.ofList [c]))
  | .object entries => .ok (entries.map fun e => e.1.toValue)
  | _ => .error .wrongKind

/-- A field that has to be there. -/
def required (entries : List (Key × Value)) (name : String) : Except Fault Value :=
  match field? entries name with
  | some v => .ok v
  | none => .error (.missingKey name)

mutual
/-- Reads a block. -/
def ofValue : Value → Except Fault Block
  | .object entries => do
    let type ← (← required entries "type").display
    let children ← if BlockType.isContainer type then childrenOf entries else .ok none
    let id ← (← required entries "id").display
    let values ←
      match field? entries "values" with
      | none => .ok []
      | some v => if v.isFalsy then .ok [] else itemsOf v
    return ⟨id, type, values, children⟩
  | _ => .error .wrongKind
/-- Reads the children among the fields of a container. -/
def childrenOf : List (Key × Value) → Except Fault (Option (List Block))
  | [] => .ok none
  | (k, v) :: rest => if k = .str "children" then childList v else childrenOf rest
/-- Reads the children of a container; a text or a mapping has no blocks among its items. -/
def childList : Value → Except Fault (Option (List Block))
  | .null => .ok none
  | .list items => do return some (← ofValues items)
  | .str s => if s.isEmpty then .ok (some []) else .error .wrongKind
  | .object entries => if entries.isEmpty then .ok (some []) else .error .wrongKind
  | _ => .error .wrongKind
/-- Reads a list of blocks. -/
def ofValues : List Value → Except Fault (List Block)
  | [] => .ok []
  | v :: rest => do return (← ofValue v) :: (← ofValues rest)
end

end ScriptedStage.Block
