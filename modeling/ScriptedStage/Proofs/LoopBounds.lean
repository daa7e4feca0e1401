import ScriptedStage.Proofs.LoopUnrolling

/-!
Bounds on loops. While scripts are edited the table of progress goes stale: it may have entries of
blocks that are gone or that have come back under the same id with other children and another number
of passes, of blocks that are not under way, and of children that are no longer there. So what is
left of a block cannot be read off its unrolling. It is still bounded: an entry is used up when its
block is done, and a new one starts from the block's own number of passes.

`longest` bounds the calls of a block, from whatever child it may be at, and `ahead` those of the
block as it stands in the table.

What is proved, for interpreters in which repeat blocks repeat and all else is done with one call:
  1. `ahead_le`: what is ahead of a block is within the bound;
  2. `lowers`: a call never raises the bound, and if the block is not done it lowers what is ahead.
-/
namespace ScriptedStage

namespace Block

/-! ## What is ahead -/

/-- The passes that a repeat block may still make: those of its entry, or its own if they are more.
A block whose entry is used up counts with the one call that finds this out. -/
def cap (loops : Assoc LoopProgress) (b : Block) : Nat :=
  max 1 (max (Interpreter.passes b).toNat (((loops.get? b.id).map (·.remaining.toNat)).getD 0))

mutual
/-- A bound on the calls of a block before the last one, wherever it begins. Each pass may take one
call of its own, when the children that were left have been removed. -/
def longest (loops : Assoc LoopProgress) : Block → Nat
  | ⟨id, type, values, none⟩ =>
    if type = BlockType.repeatTimes then cap loops ⟨id, type, values, none⟩ else 0
  | ⟨id, type, values, some cs⟩ =>
    if type = BlockType.repeatTimes then cap loops ⟨id, type, values, some cs⟩ *
      (1 + longestAll loops cs) else 0
/-- A bound on the calls of a list of blocks. -/
def longestAll (loops : Assoc LoopProgress) : List Block → Nat
  | [] => 0
  | b :: rest => 1 + longest loops b + longestAll loops rest
end

mutual
/-- A bound on the calls of a block before the last one, from where it stands in the table. -/
def ahead (loops : Assoc LoopProgress) : Block → Nat
  | ⟨id, type, values, none⟩ =>
    if type = BlockType.repeatTimes then
      match progress? ⟨id, type, values, none⟩ loops with
      | none => 0
      | some p => (p.remaining - 1).toNat
    else 0
  | ⟨id, type, values, some cs⟩ =>
    if type = BlockType.repeatTimes then
      match progress? ⟨id, type, values, some cs⟩ loops with
      | none => 0
      | some p => (p.remaining - 1).toNat * (1 + longestAll loops cs) + aheadNth loops cs p.child.toNat
    else 0
/-- A bound on the calls of a list of blocks from the block at a position on. -/
def aheadNth (loops : Assoc LoopProgress) : List Block → Nat → Nat
  | [], _ => 0
  | b :: rest, 0 => 1 + ahead loops b + longestAll loops rest
  | _ :: rest, n + 1 => aheadNth loops rest n
end

variable {loops loops' : Assoc LoopProgress} {b : Block}

theorem longest_of_repeats (h : b.Repeats) :
    longest loops b = cap loops b * (1 + longestAll loops b.kids) := by
  obtain ⟨id, type, values, _ | cs⟩ := b <;>
    simp [longest, kids, longestAll, show type = BlockType.repeatTimes from h]

theorem longest_of_not_repeats (h : ¬b.Repeats) : longest loops b = 0 := by
  obtain ⟨id, type, values, _ | cs⟩ := b <;> simp [longest, show ¬type = BlockType.repeatTimes from h]

theorem ahead_of_repeats (h : b.Repeats) :
    ahead loops b = match b.progress? loops with
      | none => 0
      | some p =>
        (p.remaining - 1).toNat * (1 + longestAll loops b.kids) +
          aheadNth loops b.kids p.child.toNat := by
  obtain ⟨id, type, values, _ | cs⟩ := b
  · simp only [ahead, kids, show type = BlockType.repeatTimes from h, if_true]
    split <;> simp [longestAll, aheadNth]
  · simp [ahead, kids, show type = BlockType.repeatTimes from h]

theorem ahead_of_not_repeats (h : ¬b.Repeats) : ahead loops b = 0 := by
  obtain ⟨id, type, values, _ | cs⟩ := b <;> simp [ahead, show ¬type = BlockType.repeatTimes from h]

section Positions

variable {before after : List Block}

theorem longestAll_append (as bs : List Block) :
    longestAll loops (as ++ bs) = longestAll loops as + longestAll loops bs := by
  induction as with
  | nil => simp [longestAll]
  | cons a as ih =>
    rw [List.cons_append, longestAll, longestAll, ih]
    omega

theorem aheadNth_append (bs : List Block) :
    aheadNth loops (before ++ bs) before.length = aheadNth loops bs 0 := by
  induction before with
  | nil => rfl
  | cons c before ih => exact ih

theorem aheadNth_at :
    aheadNth loops (before ++ b :: after) before.length = 1 + ahead loops b + longestAll loops after :=
  aheadNth_append _

theorem aheadNth_pos {bs : List Block} {n : Nat} (h : n < bs.length) : 0 < aheadNth loops bs n := by
  induction bs generalizing n with
  | nil => simp at h
  | cons c bs ih =>
    cases n with
    | zero =>
      rw [aheadNth]
      omega
    | succ n => exact ih (by simpa using h)

end Positions

/-! ## Both depend on the block's own entries only -/

theorem cap_congr (h : loops'.get? b.id = loops.get? b.id) : cap loops' b = cap loops b := by
  simp only [cap, h]

theorem longestAll_congr_of {bs : List Block} (h : ∀ c ∈ bs, longest loops' c = longest loops c) :
    longestAll loops' bs = longestAll loops bs := by
  induction bs with
  | nil => rfl
  | cons c bs ih =>
    rw [longestAll, longestAll, h c List.mem_cons_self, ih fun d hd => h d (List.mem_cons_of_mem c hd)]

theorem longest_congr (h : ∀ id ∈ b.repeatIds, loops'.get? id = loops.get? id) :
    longest loops' b = longest loops b := by
  induction b using kids_induction with
  | h b ih =>
    by_cases hb : b.Repeats
    · have hid : b.id ∈ b.repeatIds := by simp [repeatIds_of_repeats hb]
      have hkids : longestAll loops' b.kids = longestAll loops b.kids :=
        longestAll_congr_of fun c hc => ih c hc fun id hi => h id ((repeatIds_sublist_of_kid hc).subset hi)
      rw [longest_of_repeats hb, longest_of_repeats hb, cap_congr (h b.id hid), hkids]
    · rw [longest_of_not_repeats hb, longest_of_not_repeats hb]

theorem longestAll_congr {bs : List Block} (h : ∀ id ∈ repeatIdsAll bs, loops'.get? id = loops.get? id) :
    longestAll loops' bs = longestAll loops bs :=
  longestAll_congr_of fun _ hc => longest_congr fun id hid =>
    h id ((repeatIds_sublist_of_mem hc).subset hid)

theorem aheadNth_congr_of {bs : List Block} (hlongest : ∀ c ∈ bs, longest loops' c = longest loops c)
    (hahead : ∀ c ∈ bs, ahead loops' c = ahead loops c) (n : Nat) :
    aheadNth loops' bs n = aheadNth loops bs n := by
  induction bs generalizing n with
  | nil => rfl
  | cons c bs ih =>
    have htail : ∀ d ∈ bs, longest loops' d = longest loops d :=
      fun d hd => hlongest d (List.mem_cons_of_mem c hd)
    cases n with
    | zero => rw [aheadNth, aheadNth, hahead c List.mem_cons_self, longestAll_congr_of htail]
    | succ n => exact ih htail (fun d hd => hahead d (List.mem_cons_of_mem c hd)) n

theorem ahead_congr (h : ∀ id ∈ b.repeatIds, loops'.get? id = loops.get? id) :
    ahead loops' b = ahead loops b := by
  induction b using kids_induction with
  | h b ih =>
    by_cases hb : b.Repeats
    · have hid : b.id ∈ b.repeatIds := by simp [repeatIds_of_repeats hb]
      have hsub : ∀ c ∈ b.kids, ∀ id ∈ c.repeatIds, loops'.get? id = loops.get? id :=
        fun c hc id hi => h id ((repeatIds_sublist_of_kid hc).subset hi)
      have hlongest : ∀ c ∈ b.kids, longest loops' c = longest loops c :=
        fun c hc => longest_congr (hsub c hc)
      rw [ahead_of_repeats hb, ahead_of_repeats hb, progress?_congr (h b.id hid),
        longestAll_congr_of hlongest]
      split
      · rfl
      · rw [aheadNth_congr_of hlongest fun c hc => ih c hc (hsub c hc)]
    · rw [ahead_of_not_repeats hb, ahead_of_not_repeats hb]

theorem aheadNth_congr {bs : List Block}
    (h : ∀ id ∈ repeatIdsAll bs, loops'.get? id = loops.get? id) (n : Nat) :
    aheadNth loops' bs n = aheadNth loops bs n :=
  aheadNth_congr_of
    (fun _ hc => longest_congr fun id hid => h id ((repeatIds_sublist_of_mem hc).subset hid))
    (fun _ hc => ahead_congr fun id hid => h id ((repeatIds_sublist_of_mem hc).subset hid)) n

/-! ## What is ahead is within the bound -/

/-- No entry points before the first child. How many passes it has left does not matter. -/
def Sound (loops : Assoc LoopProgress) : Prop := ∀ id p, loops.get? id = some p → 0 ≤ p.child

theorem Sound.progress? (h : Sound loops) {p : LoopProgress} (hp : b.progress? loops = some p) :
    0 ≤ p.child ∧ p.remaining.toNat ≤ cap loops b := by
  unfold Block.progress? at hp
  cases hentry : loops.get? b.id with
  | some q =>
    simp only [hentry, Option.some.injEq] at hp
    subst hp
    refine ⟨h b.id q hentry, ?_⟩
    simp only [cap, hentry, Option.map_some, Option.getD_some]
    omega
  | none =>
    simp only [hentry] at hp
    split at hp
    · cases hp
    · obtain rfl := Option.some.inj hp
      refine ⟨Int.le_refl 0, ?_⟩
      simp only [cap]
      omega

/-- A repeat block with nothing to do has no entry. -/
theorem get?_of_idle (h : b.progress? loops = none) : loops.get? b.id = none := by
  unfold Block.progress? at h
  cases hentry : loops.get? b.id with
  | none => rfl
  | some p => simp [hentry] at h

theorem aheadNth_le_of {bs : List Block} (h : ∀ c ∈ bs, ahead loops c ≤ longest loops c) (n : Nat) :
    aheadNth loops bs n ≤ longestAll loops bs := by
  induction bs generalizing n with
  | nil => exact Nat.le_refl _
  | cons c bs ih =>
    have hc := h c List.mem_cons_self
    rw [longestAll]
    cases n with
    | zero =>
      rw [aheadNth]
      omega
    | succ n =>
      have := ih (fun d hd => h d (List.mem_cons_of_mem c hd)) n
      rw [aheadNth]
      omega

theorem ahead_le (h : Sound loops) (b : Block) : ahead loops b ≤ longest loops b := by
  induction b using kids_induction with
  | h b ih =>
    by_cases hb : b.Repeats
    · rw [ahead_of_repeats hb, longest_of_repeats hb]
      split
      · exact Nat.zero_le _
      · rename_i p hp
        obtain ⟨-, hcap⟩ := h.progress? hp
        have hpos : 1 ≤ cap loops b := Nat.le_max_left ..
        have hnth := aheadNth_le_of ih p.child.toNat
        -- the pass under way and the later ones are at most as many as the cap
        calc (p.remaining - 1).toNat * (1 + longestAll loops b.kids) +
              aheadNth loops b.kids p.child.toNat
            ≤ (p.remaining - 1).toNat * (1 + longestAll loops b.kids) +
              (1 + longestAll loops b.kids) := by omega
          _ = ((p.remaining - 1).toNat + 1) * (1 + longestAll loops b.kids) := (Nat.succ_mul ..).symm
          _ ≤ cap loops b * (1 + longestAll loops b.kids) := Nat.mul_le_mul_right _ (by omega)
    · rw [ahead_of_not_repeats hb]
      exact Nat.zero_le _

theorem aheadNth_le (h : Sound loops) (bs : List Block) (n : Nat) :
    aheadNth loops bs n ≤ longestAll loops bs :=
  aheadNth_le_of (fun c _ => ahead_le h c) n

/-! ## Both depend on the shape of a block only -/

theorem cap_skeleton (h : b.Repeats) : cap loops b.skeleton = cap loops b := by
  simp only [cap, skeleton_id, passes_skeleton h]

theorem longestAll_skeletonAll {bs : List Block}
    (h : ∀ c ∈ bs, longest loops c.skeleton = longest loops c) :
    longestAll loops (skeletonAll bs) = longestAll loops bs := by
  induction bs with
  | nil => rfl
  | cons c bs ih =>
    rw [skeletonAll, longestAll, longestAll, h c List.mem_cons_self,
      ih fun d hd => h d (List.mem_cons_of_mem c hd)]

theorem longest_skeleton (b : Block) : longest loops b.skeleton = longest loops b := by
  induction b using kids_induction with
  | h b ih =>
    by_cases hb : b.Repeats
    · rw [longest_of_repeats (repeats_skeleton.mpr hb), longest_of_repeats hb, cap_skeleton hb,
        skeleton_kids, longestAll_skeletonAll ih]
    · rw [longest_of_not_repeats (mt repeats_skeleton.mp hb), longest_of_not_repeats hb]

theorem aheadNth_skeletonAll {bs : List Block}
    (h : ∀ c ∈ bs, ahead loops c.skeleton = ahead loops c) (n : Nat) :
    aheadNth loops (skeletonAll bs) n = aheadNth loops bs n := by
  induction bs generalizing n with
  | nil => rfl
  | cons c bs ih =>
    cases n with
    | zero =>
      rw [skeletonAll, aheadNth, aheadNth, h c List.mem_cons_self,
        longestAll_skeletonAll fun d _ => longest_skeleton d]
    | succ n => exact ih (fun d hd => h d (List.mem_cons_of_mem c hd)) n

theorem ahead_skeleton (b : Block) : ahead loops b.skeleton = ahead loops b := by
  induction b using kids_induction with
  | h b ih =>
    by_cases hb : b.Repeats
    · rw [ahead_of_repeats (repeats_skeleton.mpr hb), ahead_of_repeats hb, progress?_skeleton hb,
        skeleton_kids, longestAll_skeletonAll fun d _ => longest_skeleton d]
      simp only [aheadNth_skeletonAll ih]
    · rw [ahead_of_not_repeats (mt repeats_skeleton.mp hb), ahead_of_not_repeats hb]

/-- Scripts of one shape have the same bound. -/
theorem aheadNth_congr_shape {as bs : List Block} (h : skeletonAll as = skeletonAll bs) (n : Nat) :
    aheadNth loops as n = aheadNth loops bs n := by
  rw [← aheadNth_skeletonAll (fun c _ => ahead_skeleton c), h,
    aheadNth_skeletonAll fun c _ => ahead_skeleton c]

/-! ## Changes of the table -/

theorem Sound.set (h : Sound loops) {q : LoopProgress} (hchild : 0 ≤ q.child) (key : String) :
    Sound (loops.set key q) := by
  intro id p hp
  by_cases hid : id = key
  · rw [hid, Assoc.get?_set_self] at hp
    obtain rfl := Option.some.inj hp
    exact hchild
  · rw [Assoc.get?_set_ne _ _ hid] at hp
    exact h id p hp

theorem Sound.erase (h : Sound loops) (key : String) : Sound (loops.erase key) := by
  intro id p hp
  by_cases hid : id = key
  · rw [hid, Assoc.get?_erase_self] at hp
    cases hp
  · rw [Assoc.get?_erase_ne hid] at hp
    exact h id p hp

theorem sound_nil : Sound [] := fun _ _ h => by cases h

end Block

namespace Interpreter

open Block

variable {i : Interpreter} {a : Actor} {st : Execution} {b : Block} {step : StepResult}

/-- What a call of a block keeps and lowers. -/
structure Lowers (b : Block) (st : Execution) (step : StepResult) : Prop where
  state : step.state = { st with loops := step.state.loops }
  outside : step.state.loops.outside b.repeatIds = st.loops.outside b.repeatIds
  sound : Sound step.state.loops
  longest : longest step.state.loops b ≤ longest st.loops b
  ahead : step.advance = false → ahead step.state.loops b < ahead st.loops b
  finished : step.advance = true → b.Repeats → step.state.loops.get? b.id = none

/-- The table after the child of a repeat block has been called, if one was. -/
structure Within (b : Block) (loops loops₁ : Assoc LoopProgress) : Prop where
  outside : loops₁.outside (repeatIdsAll b.kids) = loops.outside (repeatIdsAll b.kids)
  sound : Sound loops₁
  longest : longestAll loops₁ b.kids ≤ longestAll loops b.kids

theorem Within.refl {loops : Assoc LoopProgress} (h : Sound loops) : Within b loops loops :=
  ⟨rfl, h, Nat.le_refl _⟩

section Repeat

variable {loops₁ : Assoc LoopProgress} {delta : Option Delta} {notes : List Note}

theorem Within.outside_own (hb : b.Repeats) (h : Within b st.loops loops₁) :
    loops₁.outside b.repeatIds = st.loops.outside b.repeatIds := by
  refine Assoc.outside_mono ?_ h.outside
  rw [repeatIds_of_repeats hb]
  exact List.subset_cons_self ..

/-- A repeat block that is done gives its entry up. -/
theorem lowers_done (hb : b.Repeats) (hnodup : b.repeatIds.Nodup) (h : Within b st.loops loops₁) :
    Lowers b st ⟨delta, true, { st with loops := loops₁.erase b.id }, notes⟩ := by
  have hmem : b.id ∈ b.repeatIds := by simp [repeatIds_of_repeats hb]
  have hbelow : ∀ id ∈ repeatIdsAll b.kids, (loops₁.erase b.id).get? id = loops₁.get? id := by
    rw [repeatIds_of_repeats hb, List.nodup_cons] at hnodup
    exact fun id hid => Assoc.get?_erase_ne fun he => hnodup.1 (he ▸ hid)
  refine ⟨rfl, ?_, h.sound.erase b.id, ?_, (fun hfalse => by cases hfalse),
    fun _ _ => Assoc.get?_erase_self ..⟩
  · exact (Assoc.outside_erase hmem).trans (h.outside_own hb)
  · show longest (loops₁.erase b.id) b ≤ _
    rw [longest_of_repeats hb, longest_of_repeats hb, longestAll_congr hbelow]
    refine Nat.mul_le_mul ?_ (Nat.add_le_add_left h.longest 1)
    simp only [cap, Assoc.get?_erase_self, Option.map_none, Option.getD_none]
    omega

/-- A repeat block that goes on with fewer passes, or with less of this pass, has less ahead. -/
theorem lowers_on (hb : b.Repeats) (hnodup : b.repeatIds.Nodup) (hs : Sound st.loops)
    (h : Within b st.loops loops₁) {p q : LoopProgress} (hp : b.progress? st.loops = some p)
    (hle : q.remaining ≤ p.remaining) (hchild : 0 ≤ q.child)
    (hless : (q.remaining - 1).toNat * (1 + longestAll loops₁ b.kids) +
      aheadNth loops₁ b.kids q.child.toNat <
      ahead st.loops b) :
    Lowers b st ⟨delta, false, { st with loops := loops₁.set b.id q }, notes⟩ := by
  have hmem : b.id ∈ b.repeatIds := by simp [repeatIds_of_repeats hb]
  have hbelow := get?_set_below hb hnodup loops₁ q
  refine ⟨rfl, ?_, h.sound.set hchild b.id, ?_, fun _ => ?_, fun htrue => by cases htrue⟩
  · exact (Assoc.outside_set hmem q).trans (h.outside_own hb)
  · show longest (loops₁.set b.id q) b ≤ _
    rw [longest_of_repeats hb, longest_of_repeats hb, longestAll_congr hbelow]
    refine Nat.mul_le_mul ?_ (Nat.add_le_add_left h.longest 1)
    obtain ⟨-, hcap⟩ := hs.progress? hp
    have hpos : 1 ≤ cap st.loops b := Nat.le_max_left ..
    have hown : (passes b).toNat ≤ cap st.loops b := Nat.le_trans (Nat.le_max_left ..) (Nat.le_max_right ..)
    have hset : cap (loops₁.set b.id q) b = max 1 (max (passes b).toNat q.remaining.toNat) := by
      simp only [cap, Assoc.get?_set_self, Option.map_some, Option.getD_some]
    rw [hset]
    exact Nat.max_le.mpr ⟨hpos, Nat.max_le.mpr ⟨hown, by omega⟩⟩
  · show Block.ahead (loops₁.set b.id q) b < _
    rw [ahead_of_repeats hb, Block.progress?, Assoc.get?_set_self]
    simp only [longestAll_congr hbelow, aheadNth_congr hbelow]
    exact hless

/-- The end of a pass. -/
theorem lowers_pass (hb : b.Repeats) (hnodup : b.repeatIds.Nodup) (hs : Sound st.loops)
    (h : Within b st.loops loops₁) {p : LoopProgress} (hp : b.progress? st.loops = some p) :
    Lowers b st (finishPass b.id p { st with loops := loops₁ } delta notes) := by
  unfold finishPass
  split
  · exact lowers_done hb hnodup h
  · rename_i hmore
    have hfewer : p.remaining - 1 ≤ p.remaining := by omega
    refine lowers_on hb hnodup hs h hp hfewer (Int.le_refl 0) ?_
    have hnth := aheadNth_le h.sound b.kids (0 : Int).toNat
    have hpasses : (p.remaining - 1).toNat = (p.remaining - 1 - 1).toNat + 1 := by omega
    rw [ahead_of_repeats hb, hp]
    -- a whole pass less than before
    calc (p.remaining - 1 - 1).toNat * (1 + longestAll loops₁ b.kids) +
          aheadNth loops₁ b.kids (0 : Int).toNat
        < (p.remaining - 1 - 1).toNat * (1 + longestAll loops₁ b.kids) +
          (1 + longestAll loops₁ b.kids) := by omega
      _ = (p.remaining - 1).toNat * (1 + longestAll loops₁ b.kids) := by rw [hpasses, Nat.succ_mul]
      _ ≤ (p.remaining - 1).toNat * (1 + longestAll st.loops b.kids) :=
        Nat.mul_le_mul_left _ (Nat.add_le_add_left h.longest 1)
      _ ≤ _ := Nat.le_add_right ..

/-- A child of a repeat block has been called. -/
theorem within_child {c : Block} {before after : List Block} {r : StepResult} (hb : b.Repeats)
    (hnodup : b.repeatIds.Nodup) (hkids : b.kids = before ++ c :: after) (hr : Lowers c st r) :
    Within b st.loops r.state.loops ∧ longestAll r.state.loops after = longestAll st.loops after := by
  rw [repeatIds_of_repeats hb, List.nodup_cons, hkids, repeatIdsAll_append, repeatIdsAll_cons,
    List.nodup_append, List.nodup_append] at hnodup
  obtain ⟨-, -, ⟨-, -, hca⟩, hbc⟩ := hnodup
  -- the siblings of the child do not see what it writes
  have hbefore : longestAll r.state.loops before = longestAll st.loops before :=
    longestAll_congr fun id hid => Assoc.get?_congr_outside hr.outside fun hin =>
      hbc id hid id (List.mem_append_left _ hin) rfl
  have hafter : longestAll r.state.loops after = longestAll st.loops after :=
    longestAll_congr fun id hid => Assoc.get?_congr_outside hr.outside fun hin => hca id hin id hid rfl
  have hmem : c ∈ b.kids := by rw [hkids]; simp
  refine ⟨⟨Assoc.outside_mono (repeatIds_sublist_of_mem hmem).subset hr.outside, hr.sound, ?_⟩, hafter⟩
  have hc := hr.longest
  rw [hkids, longestAll_append, longestAll_append, longestAll, longestAll, hbefore, hafter]
  omega

theorem lowers_child {c : Block} {before after : List Block} {r : StepResult} (hb : b.Repeats)
    (hnodup : b.repeatIds.Nodup) (hs : Sound st.loops) {p : LoopProgress}
    (hp : b.progress? st.loops = some p) (hkids : b.kids = before ++ c :: after)
    (hposition : before.length = p.child.toNat) (hr : Lowers c st r) :
    Lowers b st (afterChild b.id b.kids.length p r) := by
  obtain ⟨hwithin, hafter⟩ := within_child hb hnodup hkids hr
  obtain ⟨hchild, -⟩ := hs.progress? hp
  have hcount : b.kids.length = p.child.toNat + 1 + after.length := by
    rw [hkids, List.length_append, List.length_cons, hposition]
    omega
  have hstate : r.state = { st with loops := r.state.loops } := hr.state
  have hbound : (p.remaining - 1).toNat * (1 + longestAll r.state.loops b.kids) ≤
      (p.remaining - 1).toNat * (1 + longestAll st.loops b.kids) :=
    Nat.mul_le_mul_left _ (Nat.add_le_add_left hwithin.longest 1)
  have hnow : Block.ahead st.loops b = (p.remaining - 1).toNat * (1 + longestAll st.loops b.kids) +
      (1 + Block.ahead st.loops c + longestAll st.loops after) := by
    have hnth : aheadNth st.loops b.kids p.child.toNat =
        1 + Block.ahead st.loops c + longestAll st.loops after := by rw [hkids, ← hposition, aheadNth_at]
    rw [ahead_of_repeats hb, hp]
    simp only [hnth]
  have hset : ∀ q, r.state.setLoop b.id q = { st with loops := r.state.loops.set b.id q } := by
    intro q
    rw [Execution.setLoop, hstate]
  unfold afterChild
  cases hadvance : r.advance with
  | false =>
    have hlt : p.child < b.kids.length := by omega
    simp only [Bool.false_eq_true, if_false, if_pos hlt]
    rw [hset]
    refine lowers_on hb hnodup hs hwithin hp (Int.le_refl _) hchild ?_
    have hless := hr.ahead hadvance
    show (p.remaining - 1).toNat * _ + aheadNth _ b.kids p.child.toNat < _
    have hnth : aheadNth r.state.loops b.kids p.child.toNat =
        1 + Block.ahead r.state.loops c + longestAll r.state.loops after := by
      rw [hkids, ← hposition, aheadNth_at]
    rw [hnow, hnth, hafter]
    omega
  | true =>
    simp only [if_true]
    split
    · rename_i hlt
      rw [hset]
      refine lowers_on hb hnodup hs hwithin hp (Int.le_refl _) (by show 0 ≤ p.child + 1; omega) ?_
      show (p.remaining - 1).toNat * _ + aheadNth _ b.kids (p.child + 1).toNat < _
      have hnth : aheadNth r.state.loops b.kids (p.child + 1).toNat ≤ longestAll r.state.loops after := by
        have hlen : (p.child + 1).toNat = (before ++ [c]).length := by
          rw [List.length_append, hposition, List.length_singleton]
          omega
        rw [hkids, List.append_cons, hlen, aheadNth_append]
        exact aheadNth_le hwithin.sound after 0
      rw [hnow]
      omega
    · rw [hstate]
      exact lowers_pass hb hnodup hs hwithin hp

end Repeat

/-- The plan for a repeat block that has progress to go on from. -/
theorem planRepeat_eq {p : LoopProgress} (hp : b.progress? st.loops = some p) :
    planRepeat b st =
      if p.remaining ≤ 0 ∨ b.kids = [] then .done ⟨none, true, st.clearLoop b.id, []⟩
      else if (b.kids.length : Int) ≤ p.child then .done (finishPass b.id p st none [])
      else .child p := by
  unfold Block.progress? at hp
  unfold planRepeat
  cases hentry : st.loops.get? b.id with
  | some q =>
    obtain rfl : q = p := by simpa [hentry] using hp
    simp only [Bool.or_eq_true, decide_eq_true_eq, List.length_eq_zero_iff]
  | none =>
    simp only [hentry] at hp
    split at hp
    · cases hp
    · rename_i hlive
      obtain rfl := Option.some.inj hp
      simp only [Bool.or_eq_true, decide_eq_true_eq, List.length_eq_zero_iff, if_neg hlive]

/-- What a call of a repeat block comes to when its entry does not point before the first child: it
has nothing to do, or the entry is used up, or the pass has no child left, or a child is called. -/
theorem execute_repeats_cases (hi : i.Regular) (hb : b.Repeats) (hs : Sound st.loops)
    (h : i.execute a st b = .ok step) :
    (b.progress? st.loops = none ∧ step = ⟨none, true, st, []⟩) ∨
      ∃ p, b.progress? st.loops = some p ∧
        ((p.remaining ≤ 0 ∨ b.kids = []) ∧ step = ⟨none, true, st.clearLoop b.id, []⟩ ∨
          b.kids.length ≤ p.child.toNat ∧ step = finishPass b.id p st none [] ∨
          ∃ before c after r, 0 < p.remaining ∧ b.kids = before ++ c :: after ∧
            before.length = p.child.toNat ∧
            i.execute a st c = .ok r ∧ step = afterChild b.id b.kids.length p r) := by
  cases hp : b.progress? st.loops with
  | none =>
    rw [execute_of_idle hi hb hp, Except.ok.injEq] at h
    exact .inl ⟨rfl, h.symm⟩
  | some p =>
    refine .inr ⟨p, rfl, ?_⟩
    obtain ⟨hchild, -⟩ := hs.progress? hp
    by_cases hlive : p.remaining ≤ 0 ∨ b.kids = []
    · rw [execute_of_repeats hi hb, planRepeat_eq hp, if_pos hlive, Except.ok.injEq] at h
      exact .inl ⟨hlive, h.symm⟩
    · by_cases hlt : p.child.toNat < b.kids.length
      · obtain ⟨before, c, after, hkids, hlen⟩ :
            ∃ before c after, b.kids = before ++ c :: after ∧ before.length = p.child.toNat :=
          ⟨b.kids.take p.child.toNat, b.kids[p.child.toNat], b.kids.drop (p.child.toNat + 1), by simp,
            by simp; omega⟩
        have hrem : 0 < p.remaining := Int.not_le.mp fun hle => hlive (.inl hle)
        have hnth : i.executeNth a st b.kids p.child.toNat = i.execute a st c := by
          rw [hkids, ← hlen, executeNth_at]
        rw [execute_of_progress hi hb hp hrem hchild hlt, hnth] at h
        cases hr : i.execute a st c with
        | error e => rw [hr] at h; cases h
        | ok r =>
          rw [hr] at h
          exact .inr (.inr ⟨before, c, after, r, hrem, hkids, hlen, hr, (Except.ok.inj h).symm⟩)
      · have hpast : (b.kids.length : Int) ≤ p.child := by omega
        rw [execute_of_repeats hi hb, planRepeat_eq hp, if_neg hlive, if_pos hpast, Except.ok.injEq] at h
        exact .inr (.inl ⟨Nat.not_lt.mp hlt, h.symm⟩)

/-- From a table without entries that point before the first child a call of a block never raises
the bound, and if the block is not done it lowers what is ahead. -/
theorem lowers (hi : i.Regular) (hnodup : b.repeatIds.Nodup) (hs : Sound st.loops)
    (h : i.execute a st b = .ok step) : Lowers b st step := by
  induction b using kids_induction generalizing step with
  | h b ih =>
    by_cases hb : b.Repeats
    · rcases execute_repeats_cases hi hb hs h with ⟨hidle, rfl⟩ | ⟨p, hp, ⟨-, rfl⟩ | ⟨-, rfl⟩ | hcall⟩
      · exact ⟨rfl, rfl, hs, Nat.le_refl _, (fun hfalse => by cases hfalse), fun _ _ => get?_of_idle hidle⟩
      · exact lowers_done hb hnodup (.refl hs)
      · exact lowers_pass hb hnodup hs (.refl hs) hp
      · obtain ⟨before, c, after, r, -, hkids, hposition, hr, rfl⟩ := hcall
        have hmem : c ∈ b.kids := by rw [hkids]; simp
        exact lowers_child hb hnodup hs hp hkids hposition
          (ih c hmem (hnodup.sublist (repeatIds_sublist_of_kid hmem)) hr)
    · -- any other block is done with one call
      have hsame := execute_of_not_repeats hi hb a st st
      rw [h] at hsame
      have hstep : step = { step with advance := true, state := st } := Except.ok.inj hsame
      rw [hstep]
      exact ⟨rfl, rfl, hs, Nat.le_refl _, (fun hfalse => by cases hfalse),
        fun _ hrepeats => absurd hrepeats hb⟩

end Interpreter

end ScriptedStage
