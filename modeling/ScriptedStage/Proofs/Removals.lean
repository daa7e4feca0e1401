import ScriptedStage.Proofs.EditAcceptance
import ScriptedStage.Proofs.Insertions

/-!
What a removal takes out of a script. Every block with the id goes, with all it holds, wherever it
stands; a block that is left keeps what is its own, and stands inside the same blocks as before.
To say this of all blocks at once, a script is read as its lineage: its blocks in pre-order, each
with the blocks around it.

What is proved:
  1. `lineageAll_removeAmong`: a removal leaves those lines of the lineage in which
     the id does not occur;
  2. `Script.removes_named`: the same of a whole script and of its pre-order, and a removal says
     that it changed nothing exactly if no block has the id;
  3. `Script.removal_undoes_insertion`: a block with a new id that was inserted stands in one piece
     behind all that its container held, and to remove it gives the old script back, but for the
     room that the container may have got.
-/
namespace ScriptedStage

/-! ## Lineages -/

namespace Block

/-- A block with nothing in it. Whether it has room for children is kept. -/
def emptied (b : Block) : Block := { b with children := b.children.map fun _ => [] }

@[simp] theorem emptied_id (b : Block) : b.emptied.id = b.id := rfl

mutual
/-- A block and all it holds in pre-order, each emptied and with the blocks around it,
the nearest first. -/
def lineage (around : List Block) : Block → List (Block × List Block)
  | ⟨id, type, values, none⟩ => [(⟨id, type, values, none⟩, around)]
  | ⟨id, type, values, some cs⟩ =>
    (⟨id, type, values, some []⟩, around) :: lineageAll (⟨id, type, values, some []⟩ :: around) cs
/-- The lineages of a list of blocks, one after the other. -/
def lineageAll (around : List Block) : List Block → List (Block × List Block)
  | [] => []
  | b :: rest => lineage around b ++ lineageAll around rest
end

theorem lineageAll_cons (around : List Block) (b : Block) (rest : List Block) :
    lineageAll around (b :: rest) =
      (b.emptied, around) :: (lineageAll (b.emptied :: around) b.kids ++ lineageAll around rest) := by
  obtain ⟨id, type, values, _ | cs⟩ := b <;> simp [lineageAll, lineage, emptied, kids]

/-- What stands around a list of blocks stands around each of them. -/
theorem mem_around {around : List Block} {bs : List Block} :
    ∀ l ∈ lineageAll around bs, ∀ a ∈ around, a ∈ l.2 := by
  induction bs using Script.forest_induction generalizing around with
  | nil => simp [lineageAll]
  | cons b rest ihkids ihrest =>
    intro l hl a ha
    rw [lineageAll_cons, List.mem_cons, List.mem_append] at hl
    rcases hl with rfl | hl | hl
    · exact ha
    · exact ihkids l hl a (List.mem_cons_of_mem _ ha)
    · exact ihrest l hl a ha

/-- Nothing is left of what stands inside a block if no line with this block around it is kept. -/
theorem filter_lineageAll_eq_nil {b : Block} {around bs : List Block} {keep : Block × List Block → Bool}
    (h : ∀ l, b ∈ l.2 → keep l = false) : (lineageAll (b :: around) bs).filter keep = [] := by
  rw [List.filter_eq_nil_iff]
  intro l hl
  rw [h l (mem_around l hl b List.mem_cons_self)]
  exact Bool.false_ne_true

end Block

namespace Script

/-- The blocks of a script in pre-order, each emptied and with the blocks around it,
the nearest first. -/
def lineage (s : Script) : List (Block × List Block) := Block.lineageAll [] s

theorem lineageAll_fst (around : List Block) (s : Script) :
    (Block.lineageAll around s).map Prod.fst = s.preorder.map Block.emptied := by
  induction s using forest_induction generalizing around with
  | nil => rfl
  | cons b rest ihkids ihrest =>
    have hpreorder : preorder (b :: rest) = b :: (preorder b.kids ++ preorder rest) := by
      simp [preorder, Block.preorderAll, Block.preorder_eq b]
    rw [Block.lineageAll_cons, hpreorder, List.map_cons, List.map_append, ihkids, ihrest,
      List.map_cons, List.map_append]

/-! ## Removals -/

variable {s : Script} {id : String}

theorem removeBelow_fst (id : String) (b : Block) :
    (removeBelow id b).1 = { b with children := b.children.map fun cs => (removeAmong id cs).1 } := by
  obtain ⟨i, type, values, _ | cs⟩ := b <;> rfl

theorem removeBelow_emptied (id : String) (b : Block) : (removeBelow id b).1.emptied = b.emptied := by
  obtain ⟨i, type, values, _ | cs⟩ := b <;> rfl

theorem removeBelow_kids (id : String) (b : Block) :
    (removeBelow id b).1.kids = (removeAmong id b.kids).1 := by
  obtain ⟨i, type, values, _ | cs⟩ := b <;> rfl

theorem removeAmong_cons (id : String) (b : Block) (rest : Script) :
    (removeAmong id (b :: rest)).1 =
      if b.id = id then (removeAmong id rest).1 else (removeBelow id b).1 :: (removeAmong id rest).1 := by
  by_cases hb : b.id = id <;> simp [removeAmong, hb]

/-- A removal leaves those lines of the lineage in which the id does not occur. -/
theorem lineageAll_removeAmong {around : List Block} (haround : ∀ a ∈ around, a.id ≠ id) (s : Script) :
    Block.lineageAll around (removeAmong id s).1 =
      (Block.lineageAll around s).filter fun l => ∀ b ∈ l.1 :: l.2, b.id ≠ id := by
  induction s using forest_induction generalizing around with
  | nil => rfl
  | cons b rest ihkids ihrest =>
    rw [removeAmong_cons, Block.lineageAll_cons around b rest]
    by_cases hb : b.id = id
    · have hkids : (Block.lineageAll (b.emptied :: around) b.kids).filter
          (fun l => ∀ c ∈ l.1 :: l.2, c.id ≠ id) = [] := by
        apply Block.filter_lineageAll_eq_nil
        intro l hmem
        exact decide_eq_false fun hclear => hclear b.emptied (List.mem_cons_of_mem _ hmem) hb
      have hown : decide (∀ c ∈ b.emptied :: around, c.id ≠ id) = false := by
        simp [hb]
      rw [if_pos hb, ihrest haround, List.filter_cons, hown, if_neg Bool.false_ne_true,
        List.filter_append, hkids, List.nil_append]
    · have hclear : ∀ c ∈ b.emptied :: around, c.id ≠ id := List.forall_mem_cons.mpr ⟨hb, haround⟩
      rw [if_neg hb, Block.lineageAll_cons, removeBelow_emptied, removeBelow_kids, ihkids hclear,
        ihrest haround, List.filter_cons, if_pos (decide_eq_true hclear), List.filter_append]

theorem removeAmong_fst (s : Script) (id : String) : (removeAmong id s).1 = (s.remove id).getD s := by
  rw [remove_eq]
  by_cases h : id ∈ s.ids
  · rw [if_pos h, Option.getD_some]
  · rw [if_neg h, Option.getD_none, removeAmong_absent h]

/-- **A removal takes out the blocks with the id and what they hold, and nothing else.** In
pre-order the blocks that are left are those that neither have the id nor stand inside a block that
has it. Each keeps its id, type and values, its room for children and the blocks around it. The
script stays as it is exactly if no block has the id. -/
theorem removes_named (s : Script) (id : String) :
    let left := (s.remove id).getD s
    let unnamed (l : Block × List Block) : Bool := ∀ b ∈ l.1 :: l.2, b.id ≠ id
    left.preorder.map Block.emptied = (s.lineage.filter unnamed).map Prod.fst ∧
      left.lineage = s.lineage.filter unnamed ∧ (s.remove id = none ↔ id ∉ s.ids) := by
  intro left unnamed
  have hlineage : left.lineage = s.lineage.filter unnamed := by
    rw [lineage, show left = (removeAmong id s).1 from (removeAmong_fst s id).symm]
    exact lineageAll_removeAmong (List.forall_mem_nil _) s
  refine ⟨?_, hlineage, ?_⟩
  · rw [← hlineage]
    exact (lineageAll_fst [] left).symm
  · rw [← remove_isSome_iff, Option.not_isSome_iff_eq_none]

/-! ## Insertions undone -/

/-- Where the id is used neither before a place nor beyond it, a removal goes on in the block
that fills the place. -/
theorem removeAmong_fill {place : Place} {b : Block} (hb : b.id ≠ id)
    (hbefore : ∀ c ∈ place.before, c.id ≠ id) (hbeyond : ∀ c ∈ place.beyond, c.id ≠ id) :
    (removeAmong id (place.fill b)).1 = place.fill (removeBelow id b).1 := by
  have habsent : ∀ {after : Script}, (∀ c ∈ after.outline, c.id ≠ id) →
      removeAmong id after = (after, false) := by
    intro after h
    exact removeAmong_absent (forall_id_ne.mp ((forall_outline fun _ => Iff.rfl).mp h))
  induction place with
  | here after => rw [Place.fill, removeAmong_cons, if_neg hb, habsent hbeyond, Place.fill]
  | within i type values inner after ih =>
    rw [Place.before, List.forall_mem_cons] at hbefore
    rw [Place.beyond, List.forall_mem_append] at hbeyond
    rw [Place.fill, removeAmong_cons, if_neg hbefore.1, habsent hbeyond.2, removeBelow_fst, Option.map_some,
      ih hbefore.2 hbeyond.1]
    rfl
  | behind first later ih =>
    obtain ⟨hfirst, hkids, hlater⟩ := (Place.forall_before_behind fun _ => Iff.rfl).mp hbefore
    rw [Place.fill, removeAmong_cons, if_neg hfirst, removeBelow_absent (forall_id_ne.mp hkids),
      ih hlater hbeyond]
    rfl

theorem removeAmong_append (id : String) (s t : Script) :
    (removeAmong id (s ++ t)).1 = (removeAmong id s).1 ++ (removeAmong id t).1 := by
  induction s with
  | nil => rfl
  | cons b s ih =>
    rw [List.cons_append, removeAmong_cons, removeAmong_cons, ih]
    split <;> rfl

/-- An id that is not used in a filled script is used neither around the place nor in the
block that fills it. -/
theorem not_mem_ids_fill {place : Place} {b : Block} :
    id ∉ (place.fill b).ids ↔
      (∀ c ∈ place.before, c.id ≠ id) ∧ b.id ≠ id ∧ id ∉ ids b.kids ∧ ∀ c ∈ place.beyond, c.id ≠ id := by
  simp only [Place.ids_fill, List.mem_append, List.mem_cons, List.mem_map, not_or, not_exists,
    not_and, ne_eq, eq_comm]

theorem preorder_adopt (c new : Block) :
    (c.adopt new).preorder = c.adopt new :: (preorder c.kids ++ new.preorder) := by
  rw [Block.preorder_eq, Block.adopt_kids, Block.preorderAll_append]
  simp [preorder, Block.preorderAll]

/-- A container gives back what it took last. -/
theorem removeBelow_adopt {c new : Block} (h : new.id ∉ ids c.kids) :
    (removeBelow new.id (c.adopt new)).1 = { c with children := some c.kids } := by
  have hkids : (removeAmong new.id (c.kids ++ [new])).1 = c.kids := by
    rw [removeAmong_append, removeAmong_absent h, removeAmong_cons, if_pos rfl]
    exact List.append_nil _
  rw [removeBelow_fst, Block.adopt, Option.map_some, hkids]

/-- **To remove a block that was inserted gives the script back.** A block with a new id that was
inserted stands in pre-order, with all it holds, in one piece directly behind its container and all
that the container held before; the other blocks stand in their old order. Its removal gives the old
script, where a container that had no room for children now has some. -/
theorem removal_undoes_insertion {s s' : Script} {container : String} {new : Block} (hnew : new.id ∉ s.ids)
    (hinsert : (s.insert container new).1 = some s') :
    ∃ (place : Place) (c : Block), s.Receives container place c ∧
      (∃ front back, s'.preorder = front ++ (new.preorder ++ back) ∧
        front.map Block.bare = place.before ++ outline [c] ∧
          s.outline = front.map Block.bare ++ back.map Block.bare) ∧
      s'.remove new.id = some (place.fill { c with children := some c.kids }) ∧
      (c.children ≠ none → s'.remove new.id = some s) := by
  obtain ⟨place, c, hreceives, rfl⟩ := insert_eq_some_iff.mp hinsert
  obtain rfl := hreceives.1.fills
  obtain ⟨hbefore, hown, hkids, hbeyond⟩ := not_mem_ids_fill.mp hnew
  have hremove : (place.fill (c.adopt new)).remove new.id =
      some (place.fill { c with children := some c.kids }) := by
    have hmem : new.id ∈ (place.fill (c.adopt new)).ids := by
      simp [Place.ids_fill, Block.adopt_kids, ids_append, ids_cons]
    rw [remove_eq, if_pos hmem, removeAmong_fill (show (c.adopt new).id ≠ new.id from hown) hbefore hbeyond,
      removeBelow_adopt hkids]
  refine ⟨place, c, hreceives, ?_, hremove, ?_⟩
  · obtain ⟨front, back, hsplit, hfront, hback⟩ := place.preorder_fill (c.adopt new)
    have hheld : (front ++ c.adopt new :: preorder c.kids).map Block.bare = place.before ++
        outline [c] := by
      rw [List.map_append, hfront, outline_cons, outline_nil, List.append_nil]
      rfl
    refine ⟨front ++ c.adopt new :: preorder c.kids, back, ?_, hheld, ?_⟩
    · rw [hsplit, preorder_adopt]
      simp
    · rw [hheld, hback, Place.outline_fill, List.append_assoc]
  · intro hroom
    have hsame : { c with children := some c.kids } = c := by
      obtain ⟨id, type, values, _ | cs⟩ := c
      · exact absurd rfl hroom
      · rfl
    rw [hremove, hsame]

/-- Two loops with one id, the first inside another loop and without room for children, and a say
block with the id of another one. -/
def twinLoops : Script :=
  [⟨"a", BlockType.say, [.str "hi"], none⟩,
   ⟨"r", BlockType.repeatTimes, [.int 2], some
     [⟨"a", BlockType.say, [], none⟩, ⟨"q", BlockType.repeatTimes, [.int 3], none⟩]⟩,
   ⟨"q", BlockType.repeatTimes, [], some []⟩]

/-- A loop that holds a block with its own id and one with an id of the twin loops goes into the
first of these and out again. -/
theorem removal_undoes_insertion_twinLoops :
    let new : Block := ⟨"n", BlockType.repeatTimes, [.int 1],
      some [⟨"n", BlockType.say, [], none⟩, ⟨"a", BlockType.moveSteps, [.int 5], none⟩]⟩
    "n" ∉ twinLoops.ids ∧
      ∃ s', (twinLoops.insert "q" new).1 = some s' ∧ s'.ids = ["a", "r", "a", "q", "n", "n", "a", "q"] ∧
        ∃ place c, twinLoops.Receives "q" place c ∧
          s'.remove "n" = some (place.fill { c with children := some c.kids }) := by
  intro new
  have hnew : new.id ∉ twinLoops.ids := by decide
  obtain ⟨s', hinsert⟩ : ∃ s', (twinLoops.insert "q" new).1 = some s' := ⟨_, rfl⟩
  have hids : s'.ids = ["a", "r", "a", "q", "n", "n", "a", "q"] := by
    cases hinsert
    decide
  obtain ⟨place, c, hreceives, -, hremove, -⟩ := removal_undoes_insertion hnew hinsert
  exact ⟨hnew, s', hinsert, hids, place, c, hreceives, hremove⟩

end Script

end ScriptedStage
