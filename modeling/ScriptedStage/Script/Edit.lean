import ScriptedStage.Block.Basic
import ScriptedStage.Journal.Note

/-!
Edits of scripts. An edit gives a new script or says that nothing changed; it never alters a block
that it does not name. Where an id occurs more than once, insertion, replacement and negation act on
one block, while removal takes all of them.
-/
namespace ScriptedStage

namespace Script

/-- The outcome of an insertion. `refused` ends the search among the siblings of a match that cannot
take children; the blocks after the enclosing one are still searched. -/
inductive Insertion where
  | inserted (script : Script)
  | refused
  | missing
  deriving Repr

/-- An insertion with the notes it left. -/
structure InsertionReport where
  outcome : Insertion
  notes : List Note

/-- The note for a match that is not a container. -/
def refusalNote (container type block : String) : Note :=
  .say "tree" .warning s!"Block {container} ({type}) is not a container; cannot insert {block}"

/-- The note for a container whose children were missing. -/
def repairNote (container : String) : Note :=
  .say "tree" .warning s!"Container block {container} was missing its children. Initialized."

mutual
/-- Looks for the container below one block; `none` when the block and its descendants stay as they
are. -/
def insertBelow (container : String) (new : Block) : Block → Option Block × List Note
  | ⟨_, _, _, none⟩ => (none, [])
  | ⟨id, type, values, some cs⟩ =>
    match insertAmong container new cs with
    | ⟨.inserted cs', notes⟩ => (some ⟨id, type, values, some cs'⟩, notes)
    | ⟨_, notes⟩ => (none, notes)
/-- Appends a block to the children of the first container with an id, searching siblings and their
descendants in order. -/
def insertAmong (container : String) (new : Block) : List Block → InsertionReport
  | [] => ⟨.missing, []⟩
  | b :: rest =>
    if b.id = container then
      if b.isContainer then
        ⟨.inserted ({ b with children := some (b.kids ++ [new]) } :: rest),
          if b.children.isNone then [repairNote container] else []⟩
      else ⟨.refused, [refusalNote container b.type new.id]⟩
    else
      match insertBelow container new b with
      | (some b', notes) => ⟨.inserted (b' :: rest), notes⟩
      | (none, notes) =>
        let report := insertAmong container new rest
        match report.outcome with
        | .inserted rest' => ⟨.inserted (b :: rest'), notes ++ report.notes⟩
        | other => ⟨other, notes ++ report.notes⟩
end

/-- Appends a block to the children of a container: the new script, or none when no container took
it, with the notes left on the way. -/
def insert (s : Script) (container : String) (new : Block) : Option Script × List Note :=
  match insertAmong container new s with
  | ⟨.inserted s', notes⟩ => (some s', notes)
  | ⟨_, notes⟩ => (none, notes)

/-- Appends a block at the top level. -/
def append (s : Script) (new : Block) : Script := s ++ [new]

mutual
/-- A block without the descendants that have an id, and whether there were any. -/
def removeBelow (id : String) : Block → Block × Bool
  | ⟨i, type, values, none⟩ => (⟨i, type, values, none⟩, false)
  | ⟨i, type, values, some cs⟩ =>
    let (cs', changed) := removeAmong id cs
    (⟨i, type, values, some cs'⟩, changed)
/-- The blocks without those that have an id, at any depth, and whether there were any. -/
def removeAmong (id : String) : List Block → List Block × Bool
  | [] => ([], false)
  | b :: rest =>
    let (rest', later) := removeAmong id rest
    if b.id = id then (rest', true)
    else
      let (b', below) := removeBelow id b
      (b' :: rest', below || later)
end

/-- Removes every block with an id, at any depth, with its descendants; none when there is no such
block. -/
def remove (s : Script) (id : String) : Option Script :=
  match removeAmong id s with
  | (s', true) => some s'
  | (_, false) => none

mutual
/-- Replaces the first descendant with an id. -/
def replaceBelow (id : String) (new : Block) : Block → Option Block
  | ⟨_, _, _, none⟩ => none
  | ⟨i, type, values, some cs⟩ =>
    (replaceAmong id new cs).map fun cs' => ⟨i, type, values, some cs'⟩
/-- Replaces the first block with an id, in pre-order. -/
def replaceAmong (id : String) (new : Block) : List Block → Option (List Block)
  | [] => none
  | b :: rest =>
    if b.id = id then some (new :: rest)
    else
      match replaceBelow id new b with
      | some b' => some (b' :: rest)
      | none => (replaceAmong id new rest).map (b :: ·)
end

/-- Replaces the first block with an id; none when there is no such block. -/
def replace (s : Script) (id : String) (new : Block) : Option Script := replaceAmong id new s

/-- The first block in pre-order that satisfies a predicate. -/
def findFirst (s : Script) (p : Block → Bool) : Option Block := s.preorder.find? p

/-- The first block in pre-order with an id. -/
def findBlock (s : Script) (id : String) : Option Block := s.findFirst fun b => b.id = id

/-- The ids that occur more than once. -/
def duplicateIds (s : Script) : List String := s.ids.eraseDups.filter fun i => 1 < s.ids.count i

/-- The values of a move block with its step number negated. -/
def negatedValues (values : List Value) : List Value :=
  match values with
  | [] => [Value.asNumber (.int 0) |>.neg.toValue]
  | v :: rest => v.asNumber.neg.toValue :: rest

/-- Negates the step number of the first move block in pre-order; none when there is no move block.
The block is put back by its id, so it replaces the first block that has this id. -/
def negateFirstMove (s : Script) : Option Script :=
  match s.findFirst fun b => b.type = BlockType.moveSteps with
  | none => none
  | some move => s.replace move.id { move with values := negatedValues move.values }

end Script

end ScriptedStage
