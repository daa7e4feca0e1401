import Mathlib.Data.List.Nodup
import ScriptedStage.Script.Edit

/-!
What the edits of a script do to the script as a whole. Two things are followed through every
edit: how often each id occurs, counting blocks at all depths, and whether only containers
have room for children.

An insertion adds the ids of the new block to those that were there, a removal takes ids away, and a
block that is put in the place of one of the same shape changes neither. The shape of a block is its
`skeleton`: the tree with the values of everything but repeat blocks left out, which is what the
progress of a run depends on.
-/
namespace ScriptedStage

namespace Block

theorem preorder_eq (b : Block) : b.preorder = b :: preorderAll b.kids := by
  obtain ⟨id, type, values, children⟩ := b
  cases children <;> simp [preorder, preorderAll, kids]

theorem preorderAll_append (as bs : List Block) :
    preorderAll (as ++ bs) = preorderAll as ++ preorderAll bs := by
  induction as with
  | nil => rfl
  | cons a as ih => simp [preorderAll, ih]

end Block

namespace Script

@[simp] theorem ids_nil : ids [] = [] := rfl

theorem ids_cons (b : Block) (s : Script) : ids (b :: s) = b.id :: (ids b.kids ++ ids s) := by
  simp [ids, preorder, Block.preorderAll, Block.preorder_eq b]

theorem ids_append (s t : Script) : ids (s ++ t) = ids s ++ ids t := by
  simp [ids, preorder, Block.preorderAll_append]

theorem forall_preorder_nil {P : Block → Prop} : ∀ b ∈ preorder [], P b := by
  intro b hb
  simp [preorder, Block.preorderAll] at hb

/-- What holds of all blocks holds of the first, of those inside it and of those after it. -/
theorem forall_preorder_cons {P : Block → Prop} {b : Block} {s : Script} :
    (∀ c ∈ preorder (b :: s), P c) ↔ P b ∧ (∀ c ∈ preorder b.kids, P c) ∧ ∀ c ∈ preorder s, P c := by
  simp only [preorder, Block.preorderAll, Block.preorder_eq b, List.cons_append, List.forall_mem_cons,
    List.forall_mem_append]

/-- Only containers have room for children, at every depth. -/
def ChildrenFit (s : Script) : Prop := ∀ b ∈ s.preorder, b.children ≠ none → b.isContainer = true

theorem childrenFit_nil : ChildrenFit [] := forall_preorder_nil

theorem childrenFit_cons {b : Block} {s : Script} :
    ChildrenFit (b :: s) ↔
      (b.children ≠ none → b.isContainer = true) ∧ ChildrenFit b.kids ∧ ChildrenFit s :=
  forall_preorder_cons

theorem childrenFit_append {s t : Script} : ChildrenFit (s ++ t) ↔ ChildrenFit s ∧ ChildrenFit t := by
  simp only [ChildrenFit, preorder, Block.preorderAll_append, List.forall_mem_append]

end Script

/-! ## Pruning and appending -/

mutual
theorem Block.prune_fit : ∀ b : Block, Script.ChildrenFit [b.prune]
  | ⟨id, type, values, none⟩ => by
    rw [Script.childrenFit_cons]
    exact ⟨fun h => absurd rfl h, Script.childrenFit_nil, Script.childrenFit_nil⟩
  | ⟨id, type, values, some cs⟩ => by
    rw [Script.childrenFit_cons]
    cases hc : BlockType.isContainer type with
    | true =>
      refine ⟨fun _ => ?_, ?_, Script.childrenFit_nil⟩
      · simp [Block.prune, Block.isContainer, hc]
      · simpa [Block.prune, Block.kids, hc] using Block.pruneAll_fit cs
    | false =>
      refine ⟨fun h => absurd ?_ h, ?_, Script.childrenFit_nil⟩
      · simp [Block.prune, hc]
      · simpa [Block.prune, Block.kids, hc] using Script.childrenFit_nil
theorem Block.pruneAll_fit : ∀ bs : List Block, Script.ChildrenFit (Block.pruneAll bs)
  | [] => Script.childrenFit_nil
  | b :: bs => by
    have hb := Script.childrenFit_cons.mp (Block.prune_fit b)
    exact Script.childrenFit_cons.mpr ⟨hb.1, hb.2.1, Block.pruneAll_fit bs⟩
end

namespace Script

/-! ## Insertion -/

mutual
/-- An insertion below a block keeps the block itself and adds the ids of the new block below it. -/
theorem insertBelow_some {container : String} {new : Block} : ∀ {b b' : Block} {notes : List Note},
    insertBelow container new b = (some b', notes) →
    b'.id = b.id ∧ b'.type = b.type ∧ b.children ≠ none ∧
      (∀ i, (ids b'.kids).count i = (ids b.kids).count i + (ids [new]).count i) ∧
      (ChildrenFit b.kids → ChildrenFit [new] → ChildrenFit b'.kids)
  | ⟨_, _, _, none⟩, _, _, h => by simp [insertBelow] at h
  | ⟨id, type, values, some cs⟩, b', notes, h => by
    simp only [insertBelow] at h
    split at h
    · rename_i cs' notes' hcs
      simp only [Prod.mk.injEq, Option.some.injEq] at h
      obtain ⟨rfl, rfl⟩ := h
      exact ⟨rfl, rfl, by simp, insertAmong_inserted hcs⟩
    · simp at h
/-- An insertion adds the ids of the new block, and only a container takes it. -/
theorem insertAmong_inserted {container : String} {new : Block} :
    ∀ {bs bs' : List Block} {notes : List Note},
    insertAmong container new bs = ⟨.inserted bs', notes⟩ →
    (∀ i, (ids bs').count i = (ids bs).count i + (ids [new]).count i) ∧
      (ChildrenFit bs → ChildrenFit [new] → ChildrenFit bs')
  | [], _, _, h => by simp [insertAmong] at h
  | b :: bs, bs', notes, h => by
    simp only [insertAmong] at h
    split at h
    · -- the container is `b` itself
      split at h
      · rename_i hcont
        simp only [InsertionReport.mk.injEq, Insertion.inserted.injEq] at h
        obtain ⟨rfl, -⟩ := h
        refine ⟨fun i => ?_, fun hb hn => ?_⟩
        · simp only [ids_cons, Block.kids, Option.getD_some, ids_append, List.count_cons, List.count_append]
          omega
        · obtain ⟨_, hk, hs⟩ := childrenFit_cons.mp hb
          exact childrenFit_cons.mpr ⟨fun _ => hcont, childrenFit_append.mpr ⟨hk, hn⟩, hs⟩
      · simp at h
    · split at h
      · -- it is below `b`
        rename_i b' notes' hb'
        simp only [InsertionReport.mk.injEq, Insertion.inserted.injEq] at h
        obtain ⟨rfl, -⟩ := h
        obtain ⟨hid, htype, hroom, hcount, hfit⟩ := insertBelow_some hb'
        refine ⟨fun i => ?_, fun hb hn => ?_⟩
        · have := hcount i
          simp only [ids_cons, hid, List.count_cons, List.count_append] at this ⊢
          omega
        · obtain ⟨hroom', hk, hs⟩ := childrenFit_cons.mp hb
          refine childrenFit_cons.mpr ⟨fun _ => ?_, hfit hk hn, hs⟩
          rw [Block.isContainer, htype]
          exact hroom' hroom
      · -- it is further on
        split at h
        · rename_i rest' hrest
          simp only [InsertionReport.mk.injEq, Insertion.inserted.injEq] at h
          obtain ⟨rfl, -⟩ := h
          have hrest' : insertAmong container new bs =
              ⟨.inserted rest', (insertAmong container new bs).notes⟩ := by
            rw [← hrest]
          obtain ⟨hcount, hfit⟩ := insertAmong_inserted hrest'
          refine ⟨fun i => ?_, fun hb hn => ?_⟩
          · have := hcount i
            simp only [ids_cons, List.count_cons, List.count_append] at this ⊢
            omega
          · obtain ⟨hroom, hk, hs⟩ := childrenFit_cons.mp hb
            exact childrenFit_cons.mpr ⟨hroom, hk, hfit hs hn⟩
        · rename_i hne
          simp only [InsertionReport.mk.injEq] at h
          exact absurd h.1 (hne bs')
end

theorem insert_some {s s' : Script} {container : String} {new : Block} {notes : List Note}
    (h : s.insert container new = (some s', notes)) :
    (∀ i, s'.ids.count i = s.ids.count i + (ids [new]).count i) ∧
      (s.ChildrenFit → ChildrenFit [new] → s'.ChildrenFit) := by
  simp only [insert] at h
  split at h
  · rename_i t notes' ht
    simp only [Prod.mk.injEq, Option.some.injEq] at h
    obtain ⟨rfl, -⟩ := h
    exact insertAmong_inserted ht
  · simp at h

/-! ## Removal -/

mutual
/-- A removal below a block keeps the block itself, and its room for children. -/
theorem removeBelow_keeps (id : String) : ∀ b : Block,
    (removeBelow id b).1.id = b.id ∧ (removeBelow id b).1.type = b.type ∧
      ((removeBelow id b).1.children = none ↔ b.children = none) ∧
      (∀ i, (ids (removeBelow id b).1.kids).count i ≤ (ids b.kids).count i) ∧
      (ChildrenFit b.kids → ChildrenFit (removeBelow id b).1.kids)
  | ⟨_, _, _, none⟩ => by simp [removeBelow, Block.kids]
  | ⟨i, type, values, some cs⟩ => by
    simp only [removeBelow, Block.kids, Option.getD_some]
    exact ⟨trivial, trivial, by simp, removeAmong_keeps id cs⟩
/-- A removal brings in no ids and no room for children. -/
theorem removeAmong_keeps (id : String) : ∀ bs : List Block,
    (∀ i, (ids (removeAmong id bs).1).count i ≤ (ids bs).count i) ∧
      (ChildrenFit bs → ChildrenFit (removeAmong id bs).1)
  | [] => by simp [removeAmong]
  | b :: bs => by
    obtain ⟨hcount, hfit⟩ := removeAmong_keeps id bs
    by_cases hb : b.id = id
    · simp only [removeAmong, hb, if_true]
      refine ⟨fun i => ?_, fun h => hfit (childrenFit_cons.mp h).2.2⟩
      have := hcount i
      simp only [ids_cons, List.count_cons, List.count_append]
      omega
    · obtain ⟨hid, htype, hroom, hbelow, hkids⟩ := removeBelow_keeps id b
      simp only [removeAmong, hb, if_false]
      refine ⟨fun i => ?_, fun h => ?_⟩
      · have := hcount i
        have := hbelow i
        simp only [ids_cons, hid, List.count_cons, List.count_append]
        omega
      · obtain ⟨hown, hk, hs⟩ := childrenFit_cons.mp h
        refine childrenFit_cons.mpr ⟨fun hne => ?_, hkids hk, hfit hs⟩
        rw [Block.isContainer, htype]
        exact hown (fun hn => hne (hroom.mpr hn))
end

theorem remove_some {s s' : Script} {id : String} (h : s.remove id = some s') :
    (∀ i, s'.ids.count i ≤ s.ids.count i) ∧ (s.ChildrenFit → s'.ChildrenFit) := by
  simp only [remove] at h
  split at h
  · rename_i t ht
    obtain rfl := Option.some.inj h
    simpa [ht] using removeAmong_keeps id s
  · simp at h

end Script

/-! ## Shape -/

namespace Block

mutual
/-- A block without its values, and without those of the blocks below it, except for
repeat blocks. -/
def skeleton : Block → Block
  | ⟨id, type, values, none⟩ => ⟨id, type, if type = BlockType.repeatTimes then values else [], none⟩
  | ⟨id, type, values, some cs⟩ =>
    ⟨id, type, if type = BlockType.repeatTimes then values else [], some (skeletonAll cs)⟩
/-- The skeletons of a list of blocks. -/
def skeletonAll : List Block → List Block
  | [] => []
  | b :: rest => skeleton b :: skeletonAll rest
end

@[simp] theorem skeleton_id (b : Block) : b.skeleton.id = b.id := by
  obtain ⟨id, type, values, _ | cs⟩ := b <;> rfl

@[simp] theorem skeleton_type (b : Block) : b.skeleton.type = b.type := by
  obtain ⟨id, type, values, _ | cs⟩ := b <;> rfl

@[simp] theorem skeleton_kids (b : Block) : b.skeleton.kids = skeletonAll b.kids := by
  obtain ⟨id, type, values, _ | cs⟩ := b <;> rfl

theorem skeleton_children (b : Block) : b.skeleton.children = none ↔ b.children = none := by
  obtain ⟨id, type, values, _ | cs⟩ := b <;> simp [skeleton]

/-- The values of a block that does not repeat are no part of its shape. -/
theorem skeleton_withValues {b : Block} (h : b.type ≠ BlockType.repeatTimes) (values : List Value) :
    skeleton { b with values := values } = skeleton b := by
  obtain ⟨id, type, values', _ | cs⟩ := b <;> simp_all [skeleton]

theorem skeletonAll_eq_map (bs : List Block) : skeletonAll bs = bs.map skeleton := by
  induction bs with
  | nil => rfl
  | cons b bs ih => simp [skeletonAll, ih]

mutual
theorem ids_skeleton : ∀ b : Block, Script.ids (skeletonAll b.kids) = Script.ids b.kids
  | ⟨_, _, _, none⟩ => rfl
  | ⟨_, _, _, some cs⟩ => ids_skeletonAll cs
theorem ids_skeletonAll : ∀ bs : List Block, Script.ids (skeletonAll bs) = Script.ids bs
  | [] => rfl
  | b :: bs => by
    simp only [skeletonAll, Script.ids_cons, skeleton_id, skeleton_kids]
    rw [ids_skeleton b, ids_skeletonAll bs]
end

mutual
theorem childrenFit_skeleton : ∀ b : Block,
    Script.ChildrenFit (skeletonAll b.kids) ↔ Script.ChildrenFit b.kids
  | ⟨_, _, _, none⟩ => Iff.rfl
  | ⟨_, _, _, some cs⟩ => childrenFit_skeletonAll cs
theorem childrenFit_skeletonAll : ∀ bs : List Block,
    Script.ChildrenFit (skeletonAll bs) ↔ Script.ChildrenFit bs
  | [] => Iff.rfl
  | b :: bs => by
    simp only [skeletonAll, Script.childrenFit_cons, skeleton_kids, isContainer, skeleton_type, ne_eq,
      skeleton_children, childrenFit_skeleton b, childrenFit_skeletonAll bs]
end

theorem isEligible_skeletonAll (s : Script) : Script.isEligible (skeletonAll s) = s.isEligible := by
  cases s with
  | nil => rfl
  | cons b bs => simp [skeletonAll, Script.isEligible, isTrigger]

theorem length_skeletonAll (s : Script) : (skeletonAll s).length = s.length := by
  rw [skeletonAll_eq_map, List.length_map]

end Block

namespace Script

/-! ## Replacement -/

mutual
/-- A replacement below a block keeps its shape if the new block has the shape of
those with the id. -/
theorem replaceBelow_skeleton {id : String} {new : Block} : ∀ {b b' : Block},
    (∀ c ∈ preorder b.kids, c.id = id → new.skeleton = c.skeleton) →
    replaceBelow id new b = some b' → b'.skeleton = b.skeleton
  | ⟨_, _, _, none⟩, _, _, h => by simp [replaceBelow] at h
  | ⟨i, type, values, some cs⟩, b', hsame, h => by
    simp only [replaceBelow, Option.map_eq_some_iff] at h
    obtain ⟨cs', hcs, rfl⟩ := h
    have hcs' : Block.skeletonAll cs' = Block.skeletonAll cs := replaceAmong_skeleton hsame hcs
    simp only [Block.skeleton, hcs']
/-- A replacement keeps the shape of a script if the new block has the shape of those
with the id. -/
theorem replaceAmong_skeleton {id : String} {new : Block} : ∀ {bs bs' : List Block},
    (∀ c ∈ preorder bs, c.id = id → new.skeleton = c.skeleton) →
    replaceAmong id new bs = some bs' → Block.skeletonAll bs' = Block.skeletonAll bs
  | [], _, _, h => by simp [replaceAmong] at h
  | b :: bs, bs', hsame, h => by
    simp only [preorder, Block.preorderAll, Block.preorder_eq b, List.cons_append, List.forall_mem_cons,
      List.forall_mem_append] at hsame
    obtain ⟨hown, hbelow, hrest⟩ := hsame
    simp only [replaceAmong] at h
    split at h
    · rename_i hb
      obtain rfl := Option.some.inj h
      simp [Block.skeletonAll, hown hb]
    · split at h
      · rename_i b' hb'
        obtain rfl := Option.some.inj h
        simp [Block.skeletonAll, replaceBelow_skeleton hbelow hb']
      · obtain ⟨rest', hrest', rfl⟩ := Option.map_eq_some_iff.mp h
        simp [Block.skeletonAll, replaceAmong_skeleton hrest hrest']
end

theorem eq_of_id_eq {s : Script} (h : s.ids.Nodup) {b c : Block} (hb : b ∈ s.preorder) (hc : c ∈ s.preorder)
    (hid : b.id = c.id) : b = c :=
  List.inj_on_of_nodup_map h hb hc hid

/-- Reversing the first move of a script with distinct ids changes no more than values. -/
theorem negateFirstMove_skeleton {s s' : Script} (hs : s.ids.Nodup) (h : s.negateFirstMove = some s') :
    Block.skeletonAll s' = Block.skeletonAll s := by
  simp only [negateFirstMove] at h
  split at h
  · simp at h
  · rename_i move hmove
    have hmem : move ∈ s.preorder := List.mem_of_find?_eq_some hmove
    have htype : move.type = BlockType.moveSteps := by simpa using List.find?_some hmove
    refine replaceAmong_skeleton (fun c hc hid => ?_) h
    rw [eq_of_id_eq hs hc hmem hid]
    exact Block.skeleton_withValues (by rw [htype]; decide) _

end Script

end ScriptedStage
