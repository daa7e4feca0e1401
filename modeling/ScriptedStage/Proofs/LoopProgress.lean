import ScriptedStage.Proofs.TreeEdits
import ScriptedStage.Run.Interpreter

/-!
Repeat blocks, what they unroll to, and how far they have got. `unroll` is what a block means: the
leaves that it runs, one after another, with every repeat block written out; a repeat block that has
nothing to do counts as one step that does nothing. A run does not write loops out: it keeps the
progress of the repeat blocks under way in a table by block id.

`resume` gives the leaves that are left from such a table, and `Ready` says what the table looks
like between two calls of a block: a repeat block that is under way has passes left and is at one of
its children, which is ready in turn, and no other repeat block below it has an entry.

What is proved:
  1. `resume_congr`, `ready_congr`: both look at the entries of the block's own repeat blocks only;
  2. `resume_of_clear`: from a table without such entries the whole unrolling is left;
  3. `ready_cases`: a ready repeat block has nothing to do, or goes on at a child that is ready.
-/
namespace ScriptedStage

namespace Block

theorem sizeOf_kid {b c : Block} (h : c ∈ b.kids) : sizeOf c < sizeOf b := by
  obtain ⟨id, type, values, _ | cs⟩ := b
  · simp [kids] at h
  · have := List.sizeOf_lt_of_mem (show c ∈ cs from h)
    simp only [mk.sizeOf_spec, Option.some.sizeOf_spec]
    omega

/-- What holds of a block whenever it holds of its children holds of every block. -/
theorem kids_induction {motive : Block → Prop} (h : ∀ b : Block, (∀ c ∈ b.kids, motive c) → motive b)
    (b : Block) : motive b := by
  refine h b fun c hc => ?_
  have : sizeOf c < sizeOf b := sizeOf_kid hc
  exact kids_induction h c
termination_by sizeOf b

/-! ## Repeat blocks and what they unroll to -/

/-- Whether a block is a repeat block. -/
def Repeats (b : Block) : Prop := b.type = BlockType.repeatTimes

instance (b : Block) : Decidable b.Repeats := inferInstanceAs (Decidable (b.type = _))

/-- The ids of the repeat blocks among a block and those below it. -/
def repeatIds (b : Block) : List String := (b.preorder.filter (decide <| Repeats ·)).map (·.id)

/-- The ids of the repeat blocks of a list of blocks, at all depths. -/
def repeatIdsAll (bs : List Block) : List String :=
  ((preorderAll bs).filter (decide <| Repeats ·)).map (·.id)

theorem repeatIdsAll_nil : repeatIdsAll [] = [] := rfl

theorem repeatIdsAll_cons (b : Block) (bs : List Block) :
    repeatIdsAll (b :: bs) = b.repeatIds ++ repeatIdsAll bs := by
  simp [repeatIdsAll, repeatIds, preorderAll]

theorem repeatIdsAll_append (as bs : List Block) :
    repeatIdsAll (as ++ bs) = repeatIdsAll as ++ repeatIdsAll bs := by
  simp [repeatIdsAll, preorderAll_append]

theorem repeatIds_of_repeats {b : Block} (h : b.Repeats) : b.repeatIds = b.id :: repeatIdsAll b.kids := by
  simp [repeatIds, repeatIdsAll, preorder_eq b, h]

theorem repeatIds_of_not_repeats {b : Block} (h : ¬b.Repeats) : b.repeatIds = repeatIdsAll b.kids := by
  simp [repeatIds, repeatIdsAll, preorder_eq b, h]

mutual
/-- The leaves that a block runs, in order; `none` is a step that does nothing. -/
def unroll : Block → List (Option Block)
  | ⟨id, type, values, none⟩ =>
    if type = BlockType.repeatTimes then [none] else [some ⟨id, type, values, none⟩]
  | ⟨id, type, values, some cs⟩ =>
    if type = BlockType.repeatTimes then
      if Interpreter.passes ⟨id, type, values, some cs⟩ ≤ 0 ∨ cs.isEmpty then [none]
      else (List.replicate (Interpreter.passes ⟨id, type, values, some cs⟩).toNat (unrollAll cs)).flatten
    else [some ⟨id, type, values, some cs⟩]
/-- The leaves of a list of blocks. -/
def unrollAll : List Block → List (Option Block)
  | [] => []
  | b :: rest => unroll b ++ unrollAll rest
end

theorem unroll_of_not_repeats {b : Block} (h : ¬b.Repeats) : b.unroll = [some b] := by
  obtain ⟨id, type, values, _ | cs⟩ := b <;> simp [unroll, show ¬type = BlockType.repeatTimes from h]

theorem unroll_of_repeats {b : Block} (h : b.Repeats) :
    b.unroll = if Interpreter.passes b ≤ 0 ∨ b.kids = [] then [none]
      else (List.replicate (Interpreter.passes b).toNat (unrollAll b.kids)).flatten := by
  obtain ⟨id, type, values, _ | cs⟩ := b <;> simp [unroll, kids, show type = BlockType.repeatTimes from h]

/-- Every block has at least one leaf. -/
theorem unroll_ne_nil (b : Block) : b.unroll ≠ [] := by
  induction b using kids_induction with
  | h b ih =>
    by_cases hb : b.Repeats
    · rw [unroll_of_repeats hb]
      split
      · simp
      · rename_i hlive
        rw [not_or, Int.not_le] at hlive
        obtain ⟨c, cs, hcs⟩ := List.exists_cons_of_ne_nil hlive.2
        obtain ⟨n, hn⟩ : ∃ n, (Interpreter.passes b).toNat = n + 1 :=
          ⟨(Interpreter.passes b).toNat - 1, by omega⟩
        have hc := ih c (by simp [hcs])
        simp [hn, List.replicate_succ, hcs, unrollAll, hc]
    · simp [unroll_of_not_repeats hb]

theorem unrollAll_eq_nil {bs : List Block} : unrollAll bs = [] ↔ bs = [] := by
  cases bs with
  | nil => simp [unrollAll]
  | cons b bs => simp [unrollAll, unroll_ne_nil b]

/-! ## Blocks under way -/

/-- Where a repeat block goes on: at its entry, or at the start of its first pass. It has nothing to
do when it has no entry and no passes or no children. -/
def progress? (b : Block) (loops : Assoc LoopProgress) : Option LoopProgress :=
  match loops.get? b.id with
  | some p => some p
  | none => if Interpreter.passes b ≤ 0 ∨ b.kids = [] then none else some ⟨Interpreter.passes b, 0⟩

mutual
/-- The leaves that are left of a block under way. -/
def resume (loops : Assoc LoopProgress) : Block → List (Option Block)
  | ⟨id, type, values, none⟩ =>
    if type = BlockType.repeatTimes then
      match progress? ⟨id, type, values, none⟩ loops with
      | none => [none]
      | some _ => []
    else [some ⟨id, type, values, none⟩]
  | ⟨id, type, values, some cs⟩ =>
    if type = BlockType.repeatTimes then
      match progress? ⟨id, type, values, some cs⟩ loops with
      | none => [none]
      | some p =>
        resumeNth loops cs p.child.toNat ++ (List.replicate (p.remaining - 1).toNat (unrollAll cs)).flatten
    else [some ⟨id, type, values, some cs⟩]
/-- The leaves that are left of a list of blocks from the block at a position on. -/
def resumeNth (loops : Assoc LoopProgress) : List Block → Nat → List (Option Block)
  | [], _ => []
  | b :: rest, 0 => resume loops b ++ unrollAll rest
  | _ :: rest, n + 1 => resumeNth loops rest n
end

/-- No repeat block of a list of blocks is under way. -/
def ClearAll (loops : Assoc LoopProgress) (bs : List Block) : Prop :=
  ∀ id ∈ repeatIdsAll bs, loops.get? id = none

/-- No repeat block among a block and those below it is under way. -/
def Clear (loops : Assoc LoopProgress) (b : Block) : Prop := ∀ id ∈ b.repeatIds, loops.get? id = none

mutual
/-- The entries of a block and those below it as they stand between two calls. -/
def Ready (loops : Assoc LoopProgress) : Block → Prop
  | ⟨id, type, values, none⟩ => Clear loops ⟨id, type, values, none⟩
  | ⟨id, type, values, some cs⟩ =>
    Clear loops ⟨id, type, values, some cs⟩ ∨
      type = BlockType.repeatTimes ∧ ∃ p, loops.get? id = some p ∧ 0 < p.remaining ∧
        p.remaining ≤ Interpreter.passes ⟨id, type, values, some cs⟩ ∧ 0 ≤ p.child ∧
        ReadyNth loops cs p.child.toNat
/-- The entries of a list of blocks when the one at a position is to be called next. -/
def ReadyNth (loops : Assoc LoopProgress) : List Block → Nat → Prop
  | [], _ => False
  | b :: rest, 0 => Ready loops b ∧ ClearAll loops rest
  | b :: rest, n + 1 => Clear loops b ∧ ReadyNth loops rest n
end

variable {loops loops' : Assoc LoopProgress} {b : Block}

theorem resume_of_not_repeats (h : ¬b.Repeats) : resume loops b = [some b] := by
  obtain ⟨id, type, values, _ | cs⟩ := b <;> simp [resume, show ¬type = BlockType.repeatTimes from h]

theorem resume_of_repeats (h : b.Repeats) :
    resume loops b = match b.progress? loops with
      | none => [none]
      | some p => resumeNth loops b.kids p.child.toNat ++
          (List.replicate (p.remaining - 1).toNat (unrollAll b.kids)).flatten := by
  obtain ⟨id, type, values, _ | cs⟩ := b
  · simp only [resume, show type = BlockType.repeatTimes from h, if_true]
    split <;> simp [*, kids, resumeNth, unrollAll]
  · simp [resume, kids, show type = BlockType.repeatTimes from h]

theorem ready_iff :
    Ready loops b ↔ Clear loops b ∨ b.Repeats ∧ ∃ p, loops.get? b.id = some p ∧ 0 < p.remaining ∧
      p.remaining ≤ Interpreter.passes b ∧ 0 ≤ p.child ∧ ReadyNth loops b.kids p.child.toNat := by
  obtain ⟨id, type, values, _ | cs⟩ := b
  · simp [Ready, kids, ReadyNth]
  · exact Iff.rfl

theorem ready_of_clear (h : Clear loops b) : Ready loops b := ready_iff.mpr (.inl h)

theorem clearAll_nil : ClearAll loops [] := by simp [ClearAll, repeatIdsAll_nil]

theorem clearAll_cons {bs : List Block} : ClearAll loops (b :: bs) ↔ Clear loops b ∧ ClearAll loops bs := by
  simp [ClearAll, Clear, repeatIdsAll_cons, or_imp, forall_and]

theorem clearAll_append {as bs : List Block} :
    ClearAll loops (as ++ bs) ↔ ClearAll loops as ∧ ClearAll loops bs := by
  simp [ClearAll, repeatIdsAll_append, or_imp, forall_and]

theorem clear_of_repeats (h : b.Repeats) :
    Clear loops b ↔ loops.get? b.id = none ∧ ClearAll loops b.kids := by
  simp [Clear, ClearAll, repeatIds_of_repeats h]

/-! ## Positions in a list -/

section Positions

variable {before after : List Block}

theorem resumeNth_at :
    resumeNth loops (before ++ b :: after) before.length = resume loops b ++ unrollAll after := by
  induction before with
  | nil => rfl
  | cons c before ih => exact ih

theorem readyNth_at :
    ReadyNth loops (before ++ b :: after) before.length ↔
      ClearAll loops before ∧ Ready loops b ∧ ClearAll loops after := by
  induction before with
  | nil => simp [ReadyNth, clearAll_nil]
  | cons c before ih => simp [ReadyNth, ih, clearAll_cons, and_assoc]

/-- A position that is ready is the position of a block. -/
theorem exists_of_readyNth {bs : List Block} {n : Nat} (h : ReadyNth loops bs n) :
    ∃ before b after, bs = before ++ b :: after ∧ before.length = n := by
  have hn : n < bs.length := by
    induction bs generalizing n with
    | nil => exact h.elim
    | cons c bs ih =>
      cases n with
      | zero => simp
      | succ n => simpa using ih h.2
  exact ⟨bs.take n, bs[n], bs.drop (n + 1), by simp, by simp; omega⟩

end Positions

/-! ## What is left depends on the block's own entries only -/

theorem clear_congr (h : ∀ id ∈ b.repeatIds, loops'.get? id = loops.get? id) (hc : Clear loops b) :
    Clear loops' b :=
  fun id hid => (h id hid).trans (hc id hid)

theorem clearAll_congr {bs : List Block} (h : ∀ id ∈ repeatIdsAll bs, loops'.get? id = loops.get? id)
    (hc : ClearAll loops bs) : ClearAll loops' bs :=
  fun id hid => (h id hid).trans (hc id hid)

theorem repeatIds_sublist_of_mem {c : Block} {bs : List Block} (h : c ∈ bs) :
    c.repeatIds.Sublist (repeatIdsAll bs) := by
  obtain ⟨before, after, rfl⟩ := List.append_of_mem h
  rw [repeatIdsAll_append, repeatIdsAll_cons]
  exact (List.sublist_append_left ..).trans (List.sublist_append_right ..)

theorem repeatIds_sublist_of_kid {c : Block} (h : c ∈ b.kids) : c.repeatIds.Sublist b.repeatIds := by
  have hall := repeatIds_sublist_of_mem h
  by_cases hb : b.Repeats
  · rw [repeatIds_of_repeats hb]; exact hall.cons _
  · rwa [repeatIds_of_not_repeats hb]

theorem progress?_congr (h : loops'.get? b.id = loops.get? b.id) :
    b.progress? loops' = b.progress? loops := by
  simp only [progress?, h]

theorem resumeNth_congr {bs : List Block} (h : ∀ c ∈ bs, resume loops' c = resume loops c) (n : Nat) :
    resumeNth loops' bs n = resumeNth loops bs n := by
  induction bs generalizing n with
  | nil => simp [resumeNth]
  | cons c bs ih =>
    cases n with
    | zero => simp [resumeNth, h c]
    | succ n => exact ih (fun d hd => h d (List.mem_cons_of_mem c hd)) n

theorem resume_congr (h : ∀ id ∈ b.repeatIds, loops'.get? id = loops.get? id) :
    resume loops' b = resume loops b := by
  induction b using kids_induction with
  | h b ih =>
    by_cases hb : b.Repeats
    · have hid : b.id ∈ b.repeatIds := by simp [repeatIds_of_repeats hb]
      have hkids : ∀ c ∈ b.kids, resume loops' c = resume loops c :=
        fun c hc => ih c hc fun id hi => h id ((repeatIds_sublist_of_kid hc).subset hi)
      rw [resume_of_repeats hb, resume_of_repeats hb, progress?_congr (h b.id hid)]
      split
      · rfl
      · rw [resumeNth_congr hkids]
    · rw [resume_of_not_repeats hb, resume_of_not_repeats hb]

theorem ready_congr (h : ∀ id ∈ b.repeatIds, loops'.get? id = loops.get? id) (hr : Ready loops b) :
    Ready loops' b := by
  induction b using kids_induction with
  | h b ih =>
    rw [ready_iff] at hr ⊢
    rcases hr with hc | ⟨hb, p, hp, hpos, hle, hchild, hnth⟩
    · exact .inl (clear_congr h hc)
    · have hid : b.id ∈ b.repeatIds := by simp [repeatIds_of_repeats hb]
      refine .inr ⟨hb, p, (h b.id hid).trans hp, hpos, hle, hchild, ?_⟩
      obtain ⟨before, c, after, hkids, hlen⟩ := exists_of_readyNth hnth
      have hall : ∀ d ∈ b.kids, ∀ id ∈ d.repeatIds, loops'.get? id = loops.get? id :=
        fun d hd id hi => h id ((repeatIds_sublist_of_kid hd).subset hi)
      rw [hkids] at hall ⊢
      rw [← hlen, hkids, readyNth_at] at hnth
      rw [← hlen, readyNth_at]
      have hmem : ∀ id ∈ repeatIdsAll b.kids, loops'.get? id = loops.get? id := by
        intro id hi
        exact h id (by rw [repeatIds_of_repeats hb]; exact List.mem_cons_of_mem _ hi)
      rw [hkids, repeatIdsAll_append, repeatIdsAll_cons] at hmem
      refine ⟨clearAll_congr (fun id hi => hmem id (by simp [hi])) hnth.1,
        ih c (by simp [hkids]) (hall c (by simp)) hnth.2.1,
        clearAll_congr (fun id hi => hmem id (by simp [hi])) hnth.2.2⟩

/-- The whole unrolling is left of a block that is not under way. -/
theorem resume_of_clear (h : Clear loops b) : resume loops b = b.unroll := by
  induction b using kids_induction with
  | h b ih =>
    by_cases hb : b.Repeats
    · rw [clear_of_repeats hb] at h
      rw [resume_of_repeats hb, unroll_of_repeats hb, progress?, h.1]
      by_cases hidle : Interpreter.passes b ≤ 0 ∨ b.kids = []
      · simp only [if_pos hidle]
      · simp only [if_neg hidle]
        rw [not_or, Int.not_le] at hidle
        obtain ⟨c, cs, hkids⟩ := List.exists_cons_of_ne_nil hidle.2
        obtain ⟨n, hn⟩ : ∃ n, (Interpreter.passes b).toNat = n + 1 :=
          ⟨(Interpreter.passes b).toNat - 1, by omega⟩
        have hc : resume loops c = c.unroll :=
          ih c (by simp [hkids]) fun id hid =>
            h.2 id ((repeatIds_sublist_of_mem (by simp [hkids])).subset hid)
        have hpred : (Interpreter.passes b - 1).toNat = n := by omega
        simp only [hkids, Int.toNat_zero, resumeNth, hc, hpred, hn, List.replicate_succ, List.flatten_cons,
          unrollAll]
    · rw [resume_of_not_repeats hb, unroll_of_not_repeats hb]

/-- The unrolling of the blocks from a position on is left when none of the list is under way. -/
theorem resumeNth_of_clearAll {bs : List Block} (h : ClearAll loops bs) (n : Nat) :
    resumeNth loops bs n = unrollAll (bs.drop n) := by
  induction bs generalizing n with
  | nil => simp [resumeNth, unrollAll]
  | cons c bs ih =>
    rw [clearAll_cons] at h
    cases n with
    | zero => simp [resumeNth, unrollAll, resume_of_clear h.1]
    | succ n => exact ih h.2 n

theorem readyNth_of_clearAll {bs : List Block} (h : ClearAll loops bs) {n : Nat} (hn : n < bs.length) :
    ReadyNth loops bs n := by
  induction bs generalizing n with
  | nil => simp at hn
  | cons c bs ih =>
    rw [clearAll_cons] at h
    cases n with
    | zero => exact ⟨ready_of_clear h.1, h.2⟩
    | succ n => exact ⟨h.1, ih h.2 (by simpa using hn)⟩

/-- A repeat block at the start of one of its children, with no other entry below it. -/
theorem at_child (hb : b.Repeats) (hclear : ClearAll loops b.kids) {p : LoopProgress}
    (hentry : loops.get? b.id = some p) (hrem : 0 < p.remaining) (hle : p.remaining ≤ Interpreter.passes b)
    (hchild : 0 ≤ p.child) (hlt : p.child.toNat < b.kids.length) :
    Ready loops b ∧ resume loops b = unrollAll (b.kids.drop p.child.toNat) ++
      (List.replicate (p.remaining - 1).toNat (unrollAll b.kids)).flatten := by
  refine ⟨ready_iff.mpr (.inr ⟨hb, p, hentry, hrem, hle, hchild, readyNth_of_clearAll hclear hlt⟩), ?_⟩
  rw [resume_of_repeats hb, progress?, hentry]
  simp only [resumeNth_of_clearAll hclear]

/-- A repeat block goes on at its child `c`, and no sibling of `c` is under way. -/
structure AtChild (loops : Assoc LoopProgress) (b : Block) (p : LoopProgress) (before : List Block)
    (c : Block) (after : List Block) : Prop where
  repeats : b.Repeats
  progress : b.progress? loops = some p
  remaining : 0 < p.remaining
  bound : p.remaining ≤ Interpreter.passes b
  child : 0 ≤ p.child
  kids : b.kids = before ++ c :: after
  position : before.length = p.child.toNat
  before_clear : ClearAll loops before
  after_clear : ClearAll loops after

theorem AtChild.mem {p : LoopProgress} {before after : List Block} {c : Block}
    (h : AtChild loops b p before c after) : c ∈ b.kids := by
  rw [h.kids]
  exact List.mem_append_right _ List.mem_cons_self

/-- The leaves of a repeat block after the child that it is at: the children behind it,
and the later passes. -/
def laterLeaves (b : Block) (p : LoopProgress) (after : List Block) : List (Option Block) :=
  unrollAll after ++ (List.replicate (p.remaining - 1).toNat (unrollAll b.kids)).flatten

/-- A ready repeat block has nothing to do, or goes on at a child that is ready. -/
theorem ready_cases (hb : b.Repeats) (h : Ready loops b) :
    (b.progress? loops = none ∧ Clear loops b) ∨
    ∃ p before c after, AtChild loops b p before c after ∧ Ready loops c := by
  rcases ready_iff.mp h with hclear | ⟨-, p, hp, hrem, hle, hchild, hnth⟩
  · obtain ⟨hentry, hkids⟩ := (clear_of_repeats hb).mp hclear
    by_cases hidle : Interpreter.passes b ≤ 0 ∨ b.kids = []
    · exact .inl ⟨by simp only [progress?, hentry, if_pos hidle], hclear⟩
    · have hprog : b.progress? loops = some ⟨Interpreter.passes b, 0⟩ := by
        simp only [progress?, hentry, if_neg hidle]
      rw [not_or, Int.not_le] at hidle
      obtain ⟨c, after, hcons⟩ := List.exists_cons_of_ne_nil hidle.2
      rw [hcons, clearAll_cons] at hkids
      exact .inr ⟨_, [], c, after, ⟨hb, hprog, hidle.1, Int.le_refl _, Int.le_refl _, hcons, rfl,
        clearAll_nil, hkids.2⟩, ready_of_clear hkids.1⟩
  · obtain ⟨before, c, after, hkids, hlen⟩ := exists_of_readyNth hnth
    rw [hkids, ← hlen, readyNth_at] at hnth
    exact .inr ⟨p, before, c, after, ⟨hb, by simp only [progress?, hp], hrem, hle, hchild, hkids,
      hlen, hnth.1, hnth.2.2⟩, hnth.2.1⟩

/-! ## What is left depends on the shape of a block only -/

/-- The skeletons of leaves. -/
def leafSkeletons (leaves : List (Option Block)) : List (Option Block) := leaves.map (Option.map skeleton)

theorem leafSkeletons_append (as bs : List (Option Block)) :
    leafSkeletons (as ++ bs) = leafSkeletons as ++ leafSkeletons bs := List.map_append

theorem leafSkeletons_passes (n : Nat) (leaves : List (Option Block)) :
    leafSkeletons (List.replicate n leaves).flatten =
      (List.replicate n (leafSkeletons leaves)).flatten := by
  rw [leafSkeletons, List.map_flatten, List.map_replicate]
  rfl

theorem length_leafSkeletons (leaves : List (Option Block)) :
    (leafSkeletons leaves).length = leaves.length :=
  List.length_map _

theorem repeats_skeleton : b.skeleton.Repeats ↔ b.Repeats := by rw [Repeats, Repeats, skeleton_type]

theorem passes_skeleton (h : b.Repeats) : Interpreter.passes b.skeleton = Interpreter.passes b := by
  obtain ⟨id, type, values, _ | cs⟩ := b <;>
    simp [skeleton, Interpreter.passes, parameter, show type = BlockType.repeatTimes from h]

theorem skeletonAll_eq_nil {bs : List Block} : skeletonAll bs = [] ↔ bs = [] := by
  cases bs <;> simp [skeletonAll]

theorem progress?_skeleton (h : b.Repeats) : b.skeleton.progress? loops = b.progress? loops := by
  simp only [progress?, skeleton_id, passes_skeleton h, skeleton_kids, skeletonAll_eq_nil]

theorem unrollAll_skeletonAll {bs : List Block} (h : ∀ c ∈ bs, c.skeleton.unroll = leafSkeletons c.unroll) :
    unrollAll (skeletonAll bs) = leafSkeletons (unrollAll bs) := by
  induction bs with
  | nil => rfl
  | cons c bs ih =>
    rw [skeletonAll, unrollAll, unrollAll, leafSkeletons_append, h c List.mem_cons_self,
      ih fun d hd => h d (List.mem_cons_of_mem c hd)]

theorem unroll_skeleton (b : Block) : b.skeleton.unroll = leafSkeletons b.unroll := by
  induction b using kids_induction with
  | h b ih =>
    by_cases hb : b.Repeats
    · rw [unroll_of_repeats (repeats_skeleton.mpr hb), unroll_of_repeats hb, passes_skeleton hb,
        skeleton_kids, unrollAll_skeletonAll ih]
      simp only [skeletonAll_eq_nil]
      split
      · rfl
      · rw [leafSkeletons_passes]
    · rw [unroll_of_not_repeats (mt repeats_skeleton.mp hb), unroll_of_not_repeats hb]
      rfl

theorem resumeNth_skeletonAll {bs : List Block}
    (h : ∀ c ∈ bs, resume loops c.skeleton = leafSkeletons (resume loops c)) (n : Nat) :
    resumeNth loops (skeletonAll bs) n = leafSkeletons (resumeNth loops bs n) := by
  induction bs generalizing n with
  | nil => simp [skeletonAll, resumeNth, leafSkeletons]
  | cons c bs ih =>
    cases n with
    | zero =>
      rw [skeletonAll, resumeNth, resumeNth, leafSkeletons_append, h c List.mem_cons_self,
        unrollAll_skeletonAll fun d _ => unroll_skeleton d]
    | succ n => exact ih (fun d hd => h d (List.mem_cons_of_mem c hd)) n

theorem resume_skeleton (b : Block) : resume loops b.skeleton = leafSkeletons (resume loops b) := by
  induction b using kids_induction with
  | h b ih =>
    by_cases hb : b.Repeats
    · rw [resume_of_repeats (repeats_skeleton.mpr hb), resume_of_repeats hb, progress?_skeleton hb,
        skeleton_kids]
      split
      · rfl
      · rw [resumeNth_skeletonAll ih, unrollAll_skeletonAll fun d _ => unroll_skeleton d,
          leafSkeletons_append, leafSkeletons_passes]
    · rw [resume_of_not_repeats (mt repeats_skeleton.mp hb), resume_of_not_repeats hb]
      rfl

/-- Two scripts of one shape have equally many leaves left. -/
theorem length_resumeNth_congr {as bs : List Block} (h : skeletonAll as = skeletonAll bs) (n : Nat) :
    (resumeNth loops as n).length = (resumeNth loops bs n).length := by
  rw [← length_leafSkeletons, ← resumeNth_skeletonAll (fun c _ => resume_skeleton c), h,
    resumeNth_skeletonAll (fun c _ => resume_skeleton c), length_leafSkeletons]

theorem repeatIdsAll_skeletonAll {bs : List Block} (h : ∀ c ∈ bs, c.skeleton.repeatIds = c.repeatIds) :
    repeatIdsAll (skeletonAll bs) = repeatIdsAll bs := by
  induction bs with
  | nil => rfl
  | cons c bs ih =>
    rw [skeletonAll, repeatIdsAll_cons, repeatIdsAll_cons, h c List.mem_cons_self,
      ih fun d hd => h d (List.mem_cons_of_mem c hd)]

theorem repeatIds_skeleton (b : Block) : b.skeleton.repeatIds = b.repeatIds := by
  induction b using kids_induction with
  | h b ih =>
    by_cases hb : b.Repeats
    · rw [repeatIds_of_repeats (repeats_skeleton.mpr hb), repeatIds_of_repeats hb, skeleton_id,
        skeleton_kids, repeatIdsAll_skeletonAll ih]
    · rw [repeatIds_of_not_repeats (mt repeats_skeleton.mp hb), repeatIds_of_not_repeats hb, skeleton_kids,
        repeatIdsAll_skeletonAll ih]

theorem clear_skeleton : Clear loops b.skeleton ↔ Clear loops b := by rw [Clear, Clear, repeatIds_skeleton]

theorem clearAll_skeletonAll {bs : List Block} : ClearAll loops (skeletonAll bs) ↔ ClearAll loops bs := by
  rw [ClearAll, ClearAll, repeatIdsAll_skeletonAll fun c _ => repeatIds_skeleton c]

theorem readyNth_skeletonAll {bs : List Block}
    (h : ∀ c ∈ bs, Ready loops c.skeleton ↔ Ready loops c) (n : Nat) :
    ReadyNth loops (skeletonAll bs) n ↔ ReadyNth loops bs n := by
  induction bs generalizing n with
  | nil => exact Iff.rfl
  | cons c bs ih =>
    cases n with
    | zero => exact and_congr (h c List.mem_cons_self) clearAll_skeletonAll
    | succ n => exact and_congr clear_skeleton (ih (fun d hd => h d (List.mem_cons_of_mem c hd)) n)

theorem ready_skeleton (b : Block) : Ready loops b.skeleton ↔ Ready loops b := by
  induction b using kids_induction with
  | h b ih =>
    rw [ready_iff, ready_iff, clear_skeleton, repeats_skeleton, skeleton_id, skeleton_kids]
    refine or_congr_right (and_congr_right fun hb => ?_)
    simp only [passes_skeleton hb, readyNth_skeletonAll ih]

/-- A table that is ready for a script is ready for every script of its shape. -/
theorem readyNth_congr_shape {as bs : List Block} (h : skeletonAll as = skeletonAll bs) (n : Nat) :
    ReadyNth loops as n ↔ ReadyNth loops bs n := by
  rw [← readyNth_skeletonAll (fun c _ => ready_skeleton c), h,
    readyNth_skeletonAll fun c _ => ready_skeleton c]

end Block

end ScriptedStage
