import ScriptedStage.Proofs.IssuedIds
import ScriptedStage.Proofs.TreeEdits
import ScriptedStage.Stage.Reduce

/-!
Well-formed stages. A stage is well formed when its actors have distinct ids, the selected
actor is one of them, the blocks of each script have distinct ids at all depths, and only
containers have children.

What is proved: every intent that is accepted leads from a well-formed stage to a well-formed one,
whatever the catalog and the settings. The ids of new actors are the one place where this needs more
than a look at the code: that a free number is always found is `freeActorId_least`.
-/
namespace ScriptedStage

namespace Stage

/-- The ids of actors and of the blocks of each script are distinct, the selected actor is there,
and only containers have children. -/
structure WellFormed (s : Stage) : Prop where
  actorIds : s.ids.Nodup
  selection : ∀ id ∈ s.selected, id ∈ s.ids
  blockIds : ∀ a ∈ s.actors, a.script.ids.Nodup
  children : ∀ a ∈ s.actors, a.script.ChildrenFit

instance (s : Script) : Decidable s.ChildrenFit := inferInstanceAs (Decidable (∀ b ∈ s.preorder, _))

instance (s : Stage) : Decidable s.WellFormed :=
  decidable_of_iff
    (s.ids.Nodup ∧ (∀ id ∈ s.selected, id ∈ s.ids) ∧ (∀ a ∈ s.actors, a.script.ids.Nodup) ∧
      ∀ a ∈ s.actors, a.script.ChildrenFit)
    ⟨fun ⟨h₁, h₂, h₃, h₄⟩ => ⟨h₁, h₂, h₃, h₄⟩, fun h => ⟨h.actorIds, h.selection, h.blockIds, h.children⟩⟩

theorem actor?_mem {s : Stage} {id : String} {a : Actor} (h : s.actor? id = some a) :
    a ∈ s.actors ∧ a.id = id :=
  ⟨List.mem_of_find?_eq_some h, by simpa using List.find?_some h⟩

/-- With distinct ids, an actor is found by its id. -/
theorem actor?_of_mem {s : Stage} (h : s.ids.Nodup) {a : Actor} (ha : a ∈ s.actors) :
    s.actor? a.id = some a := by
  have hsome : (s.actor? a.id).isSome = true := List.find?_isSome.mpr ⟨a, ha, by simp⟩
  obtain ⟨b, hb⟩ := Option.isSome_iff_exists.mp hsome
  obtain ⟨hmem, hid⟩ := actor?_mem hb
  rw [hb, List.inj_on_of_nodup_map h hmem ha hid]

namespace WellFormed

variable {s s' : Stage}

/-- Scripts of a shape that is distinct and fitting may be put in, actor by actor. -/
theorem mapActors (h : s.WellFormed) {f : Actor → Actor} (hid : ∀ a ∈ s.actors, (f a).id = a.id)
    (hscript : ∀ a ∈ s.actors, (f a).script.ids.Nodup ∧ (f a).script.ChildrenFit) :
    WellFormed { s with actors := s.actors.map f } := by
  have hids : ids { s with actors := s.actors.map f } = s.ids := by
    simp only [ids, List.map_map]
    exact List.map_congr_left hid
  refine ⟨by rw [hids]; exact h.actorIds, by rw [hids]; exact h.selection, ?_, ?_⟩
  · intro b hb
    obtain ⟨a, ha, rfl⟩ := List.mem_map.mp hb
    exact (hscript a ha).1
  · intro b hb
    obtain ⟨a, ha, rfl⟩ := List.mem_map.mp hb
    exact (hscript a ha).2

theorem putActor (h : s.WellFormed) {a : Actor} (hids : a.script.ids.Nodup) (hfit : a.script.ChildrenFit) :
    (s.putActor a.id a).WellFormed := by
  refine h.mapActors (fun b _ => ?_) (fun b hb => ?_)
  · split
    · rename_i hb; exact hb.symm
    · rfl
  · split
    · exact ⟨hids, hfit⟩
    · exact ⟨h.blockIds b hb, h.children b hb⟩

/-! ## The roster -/

theorem addActor (h : s.WellFormed) {rules : StageRules} {kind : String} {x y : Float}
    (hs : (s.addActor rules kind x y).1 = some s') : s'.WellFormed := by
  simp only [Stage.addActor] at hs
  split at hs
  · simp at hs
  · obtain rfl := Option.some.inj hs
    refine ⟨?_, ?_, ?_, ?_⟩
    · simp only [ids, List.map_append, List.map_cons, List.map_nil]
      refine List.Nodup.append h.actorIds (List.nodup_singleton _) ?_
      rw [List.disjoint_singleton]
      exact freeActorId_not_mem kind s.ids
    · intro i hi
      obtain rfl := Option.mem_some_iff.mp hi
      simp [ids]
    · intro a ha
      rcases List.mem_append.mp ha with ha | ha
      · exact h.blockIds a ha
      · rw [List.mem_singleton.mp ha]; exact List.nodup_nil
    · intro a ha
      rcases List.mem_append.mp ha with ha | ha
      · exact h.children a ha
      · rw [List.mem_singleton.mp ha]; exact Script.childrenFit_nil

theorem removeActor (h : s.WellFormed) {id : String} (hs : (s.removeActor id).1 = some s') :
    s'.WellFormed := by
  simp only [Stage.removeActor] at hs
  split at hs
  · simp at hs
  · obtain rfl := Option.some.inj hs
    have hmem : ∀ a ∈ s.actors.filter (fun a => a.id ≠ id), a ∈ s.actors :=
      fun a ha => List.mem_of_mem_filter ha
    refine ⟨?_, ?_, fun a ha => h.blockIds a (hmem a ha), fun a ha => h.children a (hmem a ha)⟩
    · exact h.actorIds.sublist (List.Sublist.map _ List.filter_sublist)
    · intro i hi
      dsimp only at hi
      split at hi
      · -- the selection moves to the first actor that is left
        obtain ⟨a, ha, rfl⟩ := Option.map_eq_some_iff.mp hi
        exact List.mem_map_of_mem (List.mem_of_mem_head? ha)
      · -- the selected actor is not the one that goes
        rename_i hne
        obtain ⟨a, ha, rfl⟩ := List.mem_map.mp (h.selection i hi)
        refine List.mem_map_of_mem (List.mem_filter.mpr ⟨ha, ?_⟩)
        simp only [decide_eq_true_eq]
        rintro rfl
        exact hne hi

theorem selectActor (h : s.WellFormed) {id : Option String} (hs : (s.selectActor id).1 = some s') :
    s'.WellFormed := by
  simp only [Stage.selectActor] at hs
  split at hs
  · simp at hs
  · split at hs
    · obtain rfl := Option.some.inj hs
      exact ⟨h.actorIds, by simp, h.blockIds, h.children⟩
    · split at hs
      · simp at hs
      · rename_i i _ a ha
        obtain rfl := Option.some.inj hs
        refine ⟨h.actorIds, ?_, h.blockIds, h.children⟩
        intro j hj
        obtain rfl := Option.mem_some_iff.mp hj
        obtain ⟨hmem, rfl⟩ := actor?_mem ha
        exact List.mem_map_of_mem hmem

/-! ## Scripts -/

/-- An edit that keeps the ids of a script distinct and its children fitting keeps the
stage well formed. -/
theorem editScript (h : s.WellFormed) {id : String} {edit : Script → Option Script × List Note}
    (hedit : ∀ script script', script.ids.Nodup → script.ChildrenFit → (edit script).1 = some script' →
      script'.ids.Nodup ∧ script'.ChildrenFit)
    (hs : (s.editScript id edit).1 = some s') : s'.WellFormed := by
  simp only [Stage.editScript] at hs
  split at hs
  · simp at hs
  · rename_i a ha
    obtain ⟨hmem, rfl⟩ := actor?_mem ha
    obtain ⟨script, hscript, rfl⟩ := Option.map_eq_some_iff.mp hs
    obtain ⟨hids, hfit⟩ := hedit _ _ (h.blockIds a hmem) (h.children a hmem) hscript
    exact putActor (a := { a with script := script }) h hids hfit

/-- A block without clashes has ids that are neither in the script nor used twice. -/
theorem count_of_clashes {script : Script} {new : Block} (hs : script.ids.Nodup)
    (h : clashes script new = []) (i : String) : script.ids.count i + (Script.ids [new]).count i ≤ 1 := by
  have hold := List.nodup_iff_count.mp hs i
  by_cases hi : i ∈ Script.ids [new]
  · have hnone := (List.mergeSort_perm _ _).symm.trans (List.Perm.of_eq h)
    have hfree := List.filter_eq_nil_iff.mp hnone.eq_nil i (List.mem_eraseDups.mpr hi)
    simp only [List.contains_eq_mem, Bool.or_eq_true, decide_eq_true_eq, not_or, Nat.not_lt] at hfree
    rw [List.count_eq_zero_of_not_mem hfree.1]
    omega
  · rw [List.count_eq_zero_of_not_mem hi]
    omega

theorem guarded_some {id : String} {new : Block} {edit : Script → Option Script × List Note}
    {script script' : Script} (h : (guarded id new edit script).1 = some script') :
    clashes script new = [] ∧ (edit script).1 = some script' := by
  simp only [guarded] at h
  split at h
  · rename_i hc; exact ⟨hc, h⟩
  · simp at h

theorem addBlock (h : s.WellFormed) {id : String} {sent : Block} (hs : (s.addBlock id sent).1 = some s') :
    s'.WellFormed := by
  refine h.editScript (fun script script' hids hfit hedit => ?_) hs
  obtain ⟨hclash, hnew⟩ := guarded_some hedit
  obtain rfl := Option.some.inj hnew
  refine ⟨List.nodup_iff_count.mpr fun i => ?_, ?_⟩
  · rw [Script.append, Script.ids_append, List.count_append]
    exact count_of_clashes hids hclash i
  · exact Script.childrenFit_append.mpr ⟨hfit, Block.prune_fit sent⟩

theorem addBlockTo (h : s.WellFormed) {id container : String} {sent : Block}
    (hs : (s.addBlockTo id container sent).1 = some s') : s'.WellFormed := by
  refine h.editScript (fun script script' hids hfit hedit => ?_) hs
  obtain ⟨hclash, hnew⟩ := guarded_some hedit
  split at hnew
  · rename_i t notes hinsert
    obtain rfl := Option.some.inj hnew
    obtain ⟨hcount, hfits⟩ := Script.insert_some hinsert
    refine ⟨List.nodup_iff_count.mpr fun i => ?_, hfits hfit (Block.prune_fit sent)⟩
    rw [hcount]
    exact count_of_clashes hids hclash i
  · simp at hnew

theorem removeBlock (h : s.WellFormed) {id block : String} (hs : (s.removeBlock id block).1 = some s') :
    s'.WellFormed := by
  refine h.editScript (fun script script' hids hfit hedit => ?_) hs
  obtain ⟨hcount, hfits⟩ := Script.remove_some hedit
  refine ⟨List.nodup_iff_count.mpr fun i => ?_, hfits hfit⟩
  exact Nat.le_trans (hcount i) (List.nodup_iff_count.mp hids i)

/-! ## Actors and collisions -/

theorem updateActor (h : s.WellFormed) {id : String} {patch : ActorPatch}
    (hs : (s.updateActor id patch).1 = some s') : s'.WellFormed := by
  simp only [Stage.updateActor] at hs
  split at hs
  · simp at hs
  · split at hs
    · simp at hs
    · rename_i a ha
      obtain ⟨hmem, rfl⟩ := actor?_mem ha
      obtain rfl := Option.some.inj hs
      exact putActor (a := patch.apply a) h (h.blockIds a hmem) (h.children a hmem)

/-- Only scripts of actors with their first move reversed are put in after a collision. -/
theorem reversal_some {a b : Actor} {i : String} {script : Script}
    (h : Assoc.get? ((reversal a).toList ++ (reversal b).toList) i = some script) :
    (a.id = i ∧ a.script.negateFirstMove = some script) ∨
      (b.id = i ∧ b.script.negateFirstMove = some script) := by
  simp only [reversal] at h
  cases ha : a.script.negateFirstMove <;> cases hb : b.script.negateFirstMove <;>
    simp [ha, hb, Assoc.get?] at h ⊢
  · exact h
  · exact h
  · split at h <;> simp_all

theorem handleCollision (h : s.WellFormed) {first second : String}
    (hs : (s.handleCollision first second).1 = some s') : s'.WellFormed := by
  simp only [Stage.handleCollision] at hs
  split at hs
  · rename_i a b ha hb
    split at hs
    · simp at hs
    · obtain rfl := Option.some.inj hs
      have hmoved : ∀ c ∈ s.actors, ∀ script, c.script.negateFirstMove = some script →
          script.ids.Nodup ∧ script.ChildrenFit := by
        intro c hc script hscript
        have hshape := Script.negateFirstMove_skeleton (h.blockIds c hc) hscript
        rw [← Block.ids_skeletonAll, ← Block.childrenFit_skeletonAll, hshape, Block.ids_skeletonAll,
          Block.childrenFit_skeletonAll]
        exact ⟨h.blockIds c hc, h.children c hc⟩
      refine h.mapActors (fun c _ => ?_) (fun c hc => ?_)
      · split <;> rfl
      · split
        · rename_i script hscript
          rcases reversal_some hscript with ⟨-, hn⟩ | ⟨-, hn⟩
          · exact hmoved a (actor?_mem ha).1 script hn
          · exact hmoved b (actor?_mem hb).1 script hn
        · exact ⟨h.blockIds c hc, h.children c hc⟩
  · simp at hs

/-- Every intent that is accepted keeps a stage well formed. -/
theorem reduce (h : s.WellFormed) {rules : StageRules} {i : Intent} (hs : (s.reduce rules i).1 = some s') :
    s'.WellFormed := by
  cases i with
  | addActor kind x y => exact h.addActor hs
  | removeActor id => exact h.removeActor hs
  | selectActor id => exact h.selectActor hs
  | addBlock id b => exact h.addBlock hs
  | addBlockTo id c b => exact h.addBlockTo hs
  | removeBlock id b => exact h.removeBlock hs
  | startRun =>
    simp only [Stage.reduce, Stage.startRun] at hs
    split at hs
    · simp at hs
    · obtain rfl := Option.some.inj hs
      exact ⟨h.actorIds, h.selection, h.blockIds, h.children⟩
  | stopRun =>
    simp only [Stage.reduce, Stage.stopRun] at hs
    split at hs
    · obtain rfl := Option.some.inj hs
      exact ⟨h.actorIds, h.selection, h.blockIds, h.children⟩
    · simp at hs
  | updateActor id p => exact h.updateActor hs
  | handleCollision a b => exact h.handleCollision hs

end WellFormed

end Stage

end ScriptedStage
