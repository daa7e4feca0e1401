import ScriptedStage.Proofs.LoopBounds

/-!
Calls of a block from any table of progress. Nothing is asked of the table but that no entry points
before the first child of its block: entries may be used up, point past the last child, belong to
blocks that are gone, or be shared by several blocks with one id.

What is proved, for interpreters in which repeat blocks repeat and all else is done with one call:
  1. `execute_footprint`: a call writes the entries of repeat blocks of the tree and nothing else.
  2. `execute_leaf`: a call runs at most one leaf. `calledLeaf` names it, from the table as it is
     before the call: each repeat block on the way has a pass left, and the way goes on at the child
     that its entry points to.
  3. `calls_finish`: called again and again a block is done after at most `ahead` further calls, and
     a repeat block has then given its entry up.
-/
namespace ScriptedStage

namespace Block

mutual
/-- The leaf that a call of a block runs, if it runs one. -/
def calledLeaf (loops : Assoc LoopProgress) : Block → Option Block
  | ⟨id, type, values, none⟩ =>
    if type = BlockType.repeatTimes then none else some ⟨id, type, values, none⟩
  | ⟨id, type, values, some cs⟩ =>
    if type = BlockType.repeatTimes then
      match progress? ⟨id, type, values, some cs⟩ loops with
      | none => none
      | some p => if p.remaining ≤ 0 then none else calledLeafNth loops cs p.child.toNat
    else some ⟨id, type, values, some cs⟩
/-- The leaf that a call of the block at a position runs. -/
def calledLeafNth (loops : Assoc LoopProgress) : List Block → Nat → Option Block
  | [], _ => none
  | b :: _, 0 => calledLeaf loops b
  | _ :: rest, n + 1 => calledLeafNth loops rest n
end

variable {loops : Assoc LoopProgress} {b : Block}

theorem calledLeaf_of_not_repeats (h : ¬b.Repeats) : calledLeaf loops b = some b := by
  obtain ⟨id, type, values, _ | cs⟩ := b <;> simp [calledLeaf, show ¬type = BlockType.repeatTimes from h]

theorem calledLeaf_of_repeats (h : b.Repeats) :
    calledLeaf loops b = match b.progress? loops with
      | none => none
      | some p => if p.remaining ≤ 0 then none else calledLeafNth loops b.kids p.child.toNat := by
  obtain ⟨id, type, values, _ | cs⟩ := b
  · simp only [calledLeaf, kids, show type = BlockType.repeatTimes from h, if_true]
    split <;> simp [calledLeafNth]
  · simp [calledLeaf, kids, show type = BlockType.repeatTimes from h]

theorem calledLeaf_of_idle (h : b.Repeats) (hp : b.progress? loops = none) : calledLeaf loops b = none := by
  rw [calledLeaf_of_repeats h, hp]

theorem calledLeaf_of_progress (h : b.Repeats) {p : LoopProgress} (hp : b.progress? loops = some p) :
    calledLeaf loops b = if p.remaining ≤ 0 then none else calledLeafNth loops b.kids p.child.toNat := by
  rw [calledLeaf_of_repeats h, hp]

theorem calledLeafNth_at {before after : List Block} :
    calledLeafNth loops (before ++ b :: after) before.length = calledLeaf loops b := by
  induction before with
  | nil => rfl
  | cons c before ih => exact ih

theorem calledLeafNth_past {bs : List Block} {n : Nat} (h : bs.length ≤ n) :
    calledLeafNth loops bs n = none := by
  induction bs generalizing n with
  | nil => rfl
  | cons c bs ih =>
    cases n with
    | zero => simp at h
    | succ n => exact ih (by simpa using h)

theorem sound_of_forall (h : ∀ entry ∈ loops, 0 ≤ entry.2.child) : Sound loops := by
  intro id p hp
  induction loops with
  | nil => cases hp
  | cons entry loops ih =>
    rw [List.forall_mem_cons] at h
    rw [Assoc.get?] at hp
    split at hp
    · obtain rfl := Option.some.inj hp
      exact h.1
    · exact ih h.2 hp

theorem mem_preorder_self : b ∈ b.preorder := by
  rw [preorder_eq]
  exact List.mem_cons_self

theorem mem_preorder_of_kid {c d : Block} (hc : c ∈ b.kids) (hd : d ∈ c.preorder) : d ∈ b.preorder := by
  obtain ⟨before, after, hkids⟩ := List.append_of_mem hc
  rw [preorder_eq, hkids, preorderAll_append, preorderAll]
  exact List.mem_cons_of_mem _ (List.mem_append_right _ (List.mem_append_left _ hd))

end Block

/-- Two execution states that differ in nothing but the entries of some ids. -/
structure Execution.SameBut (ids : List String) (st st' : Execution) : Prop where
  pointer : st'.pointer = st.pointer
  eligible : st'.eligible = st.eligible
  entry : ∀ id, id ∉ ids → st'.loops.get? id = st.loops.get? id

namespace Execution.SameBut

variable {ids : List String} {st st' : Execution} {id : String}

theorem refl (ids : List String) (st : Execution) : SameBut ids st st := ⟨rfl, rfl, fun _ _ => rfl⟩

theorem mono {ids' : List String} (h : SameBut ids st st') (hsub : ids ⊆ ids') : SameBut ids' st st' :=
  ⟨h.pointer, h.eligible, fun id hid => h.entry id fun hin => hid (hsub hin)⟩

theorem setLoop (h : SameBut ids st st') (hid : id ∈ ids) (p : LoopProgress) :
    SameBut ids st (st'.setLoop id p) := by
  refine ⟨h.pointer, h.eligible, fun other hother => ?_⟩
  have hne : other ≠ id := fun he => hother (he ▸ hid)
  exact (Assoc.get?_set_ne _ _ hne).trans (h.entry other hother)

theorem clearLoop (h : SameBut ids st st') (hid : id ∈ ids) : SameBut ids st (st'.clearLoop id) := by
  refine ⟨h.pointer, h.eligible, fun other hother => ?_⟩
  have hne : other ≠ id := fun he => hother (he ▸ hid)
  exact (Assoc.get?_erase_ne hne).trans (h.entry other hother)

end Execution.SameBut

namespace Interpreter

open Block Execution

variable {i : Interpreter} {a : Actor} {st : Execution} {b : Block} {step : StepResult}

/-! ## One call -/

section Parts

variable {ids : List String} {p : LoopProgress} {st' : Execution} {delta : Option Delta} {notes : List Note}

theorem finishPass_delta : (finishPass b.id p st delta notes).delta = delta := by
  unfold finishPass
  split <;> rfl

theorem afterChild_delta {r : StepResult} {count : Nat} : (afterChild b.id count p r).delta = r.delta := by
  by_cases hmore : (if r.advance then p.child + 1 else p.child) < (count : Int)
  · simp only [afterChild, if_pos hmore]
  · simp only [afterChild, if_neg hmore, finishPass_delta]

theorem finishPass_sameBut (h : SameBut ids st st') (hid : b.id ∈ ids) :
    SameBut ids st (finishPass b.id p st' delta notes).state := by
  unfold finishPass
  split
  · exact h.clearLoop hid
  · exact h.setLoop hid _

theorem afterChild_sameBut {r : StepResult} {count : Nat} (h : SameBut ids st r.state) (hid : b.id ∈ ids) :
    SameBut ids st (afterChild b.id count p r).state := by
  by_cases hmore : (if r.advance then p.child + 1 else p.child) < (count : Int)
  · simp only [afterChild, if_pos hmore]
    exact h.setLoop hid _
  · simp only [afterChild, if_neg hmore]
    exact finishPass_sameBut h hid

end Parts

/-- A call writes the entries of the repeat blocks of the tree and nothing else. -/
theorem execute_footprint (hi : i.Regular) (hs : Sound st.loops)
    (h : i.execute a st b = .ok step) : SameBut b.repeatIds st step.state := by
  induction b using kids_induction generalizing step with
  | h b ih =>
    by_cases hb : b.Repeats
    · have hid : b.id ∈ b.repeatIds := by simp [repeatIds_of_repeats hb]
      have hsame := SameBut.refl b.repeatIds st
      rcases execute_repeats_cases hi hb hs h with ⟨-, rfl⟩ | ⟨p, -, ⟨-, rfl⟩ | ⟨-, rfl⟩ | hcall⟩
      · exact hsame
      · exact hsame.clearLoop hid
      · exact finishPass_sameBut hsame hid
      · -- what the child wrote lies below the block, and the block adds its own entry
        obtain ⟨before, c, after, r, -, hkids, -, hr, rfl⟩ := hcall
        have hmem : c ∈ b.kids := by simp [hkids]
        have hchild := (ih c hmem hr).mono (repeatIds_sublist_of_kid hmem).subset
        exact afterChild_sameBut hchild hid
    · have hsame := execute_of_not_repeats hi hb a st st
      rw [h] at hsame
      have hstate : step.state = st := congrArg StepResult.state (Except.ok.inj hsame)
      rw [hstate]
      exact .refl _ st

/-- What a call does to the actor is what its leaf does, run alone from any state; without a
leaf it is nothing. -/
def RunsLeaf (i : Interpreter) (a : Actor) (b : Block) (step : StepResult) : Option Block → Prop
  | none => step.delta = none
  | some leaf =>
    leaf ∈ b.preorder ∧ ¬leaf.Repeats ∧ ∀ st', (i.execute a st' leaf).map (·.delta) = .ok step.delta

/-- A call runs the leaf that the table leads to. -/
theorem execute_leaf (hi : i.Regular) (hs : Sound st.loops)
    (h : i.execute a st b = .ok step) : i.RunsLeaf a b step (b.calledLeaf st.loops) := by
  induction b using kids_induction generalizing step with
  | h b ih =>
    by_cases hb : b.Repeats
    · rcases execute_repeats_cases hi hb hs h with ⟨hp, rfl⟩ | ⟨p, hp, ⟨hout, rfl⟩ | ⟨hpast, rfl⟩ | hcall⟩
      · rw [calledLeaf_of_idle hb hp]
        exact rfl
      · have hnone : calledLeaf st.loops b = none := by
          rw [calledLeaf_of_progress hb hp]
          rcases hout with hout | hempty
          · rw [if_pos hout]
          · rw [hempty, calledLeafNth, ite_self]
        rw [hnone]
        exact rfl
      · rw [calledLeaf_of_progress hb hp, calledLeafNth_past hpast, ite_self]
        exact finishPass_delta
      · obtain ⟨before, c, after, r, hrem, hkids, hposition, hr, rfl⟩ := hcall
        have hmem : c ∈ b.kids := by simp [hkids]
        have hleaf : calledLeaf st.loops b = calledLeaf st.loops c := by
          rw [calledLeaf_of_progress hb hp, if_neg (Int.not_le.mpr hrem), hkids, ← hposition,
            calledLeafNth_at]
        have hchild := ih c hmem hr
        rw [hleaf]
        cases hc : calledLeaf st.loops c with
        | none =>
          rw [hc] at hchild
          exact afterChild_delta.trans hchild
        | some leaf =>
          rw [hc] at hchild
          obtain ⟨hin, hplain, hdelta⟩ := hchild
          refine ⟨mem_preorder_of_kid hmem hin, hplain, fun st' => ?_⟩
          rw [hdelta st', afterChild_delta]
    · rw [calledLeaf_of_not_repeats hb]
      refine ⟨mem_preorder_self, hb, fun st' => ?_⟩
      rw [execute_of_not_repeats hi hb a st st', h]
      rfl

/-- A call leaves the pointer, the eligibility and the entries of all ids that no repeat block of
the tree has. It does to the actor what one leaf of the tree does, or nothing. -/
theorem call_is_local (hi : i.behaviours = builtInBehaviours) (a : Actor) (b : Block) (st : Execution)
    (hchild : ∀ id p, st.loops.get? id = some p → 0 ≤ p.child) (step : StepResult)
    (h : i.execute a st b = .ok step) :
    step.state.pointer = st.pointer ∧ step.state.eligible = st.eligible ∧
      (∀ id, id ∉ b.repeatIds → step.state.loops.get? id = st.loops.get? id) ∧
      i.RunsLeaf a b step (b.calledLeaf st.loops) := by
  obtain ⟨hpointer, heligible, hentry⟩ := execute_footprint (regular_of_builtIn hi) hchild h
  exact ⟨hpointer, heligible, hentry, execute_leaf (regular_of_builtIn hi) hchild h⟩

/-- Two loops with one id share an entry, and an entry of a block that is gone stays: the call says
what the inner loop says. -/
theorem call_is_local_sharedEntry :
    let say : Block := ⟨"s", BlockType.say, [.str "hi"], none⟩
    let inner : Block := ⟨"r", BlockType.repeatTimes, [.int 9], some [say]⟩
    let outer : Block :=
      ⟨"r", BlockType.repeatTimes, [.int 3], some [inner, ⟨"m", BlockType.moveSteps, [], none⟩]⟩
    let st : Execution := ⟨1, [("gone", ⟨-5, 7⟩), ("r", ⟨2, 0⟩)], true⟩
    outer.calledLeaf st.loops = some say ∧
      ∃ step, execute {} { id := "cat-1" } st outer = .ok step ∧ step.state.pointer = 1 ∧
        step.state.loops.get? "gone" = some ⟨-5, 7⟩ ∧
        (execute {} { id := "cat-1" } st say).map (·.delta) = .ok step.delta := by
  intro say inner outer st
  have hleaf : outer.calledLeaf st.loops = some say := rfl
  have hchild : Sound st.loops := sound_of_forall (by decide)
  refine ⟨hleaf, _, rfl, ?_⟩
  obtain ⟨hpointer, -, hentry, hrun⟩ := call_is_local (i := {}) rfl { id := "cat-1" } outer st hchild _ rfl
  rw [hleaf] at hrun
  exact ⟨hpointer, hentry "gone" (by decide), hrun.2.2 st⟩

/-! ## Call after call -/

/-- An interpreter stays regular when a leaf is given a behaviour that lets its caller move on. -/
theorem Regular.register_fixed (h : i.Regular) {type : String} (htype : type ≠ BlockType.repeatTimes)
    (delta : Option Delta) : (i.register type (.fixed delta true)).Regular where
  repeatTimes := (Assoc.get?_set_ne _ _ htype.symm).trans h.repeatTimes
  only := by
    intro other hother
    by_cases hsame : other = type
    · rw [hsame, register, Assoc.get?_set_self] at hother
      cases hother
    · rw [register, Assoc.get?_set_ne _ _ hsame] at hother
      exact h.only hother
  moves := by
    intro other delta' advance hother
    by_cases hsame : other = type
    · rw [hsame, register, Assoc.get?_set_self] at hother
      cases hother
      rfl
    · rw [register, Assoc.get?_set_ne _ _ hsame] at hother
      exact h.moves hother

/-- A first call and the calls from the state that it leaves. -/
theorem calls_cons_ok {actors : List Actor} {results : List StepResult}
    (h : i.calls b st (a :: actors) = .ok results) :
    ∃ r later, i.execute a st b = .ok r ∧ i.calls b r.state actors = .ok later ∧ results = r :: later := by
  rw [calls] at h
  cases hr : i.execute a st b with
  | error e => rw [hr] at h; cases h
  | ok r =>
    rw [hr] at h
    cases hlater : i.calls b r.state actors with
    | error e => simp only [bind, Except.bind, hlater] at h; cases h
    | ok later =>
      simp only [bind, Except.bind, hlater] at h
      exact ⟨r, later, rfl, hlater, (Except.ok.inj h).symm⟩

/-- Every call lowers what is ahead until one reports that the block is done. -/
theorem calls_done_within (hi : i.Regular) (hnodup : b.repeatIds.Nodup) (actors : List Actor)
    (hs : Sound st.loops) {results : List StepResult} (h : i.calls b st actors = .ok results)
    (hlength : ahead st.loops b < results.length) :
    ∃ k r, k ≤ ahead st.loops b ∧ results[k]? = some r ∧ r.advance = true := by
  induction actors generalizing st results with
  | nil =>
    obtain rfl := Except.ok.inj h
    simp at hlength
  | cons a actors ih =>
    obtain ⟨r, later, hr, hlater, rfl⟩ := calls_cons_ok h
    have hcall := lowers hi hnodup hs hr
    cases hadvance : r.advance with
    | true => exact ⟨0, r, Nat.zero_le _, rfl, hadvance⟩
    | false =>
      have hless := hcall.ahead hadvance
      rw [List.length_cons] at hlength
      obtain ⟨k, q, hk, hget, hq⟩ := ih hcall.sound hlater (by omega)
      exact ⟨k + 1, q, by omega, hget, hq⟩

/-- Whenever a call reports that a repeat block is done, the block has no entry. -/
theorem calls_give_up (hi : i.Regular) (hnodup : b.repeatIds.Nodup) (actors : List Actor)
    (hs : Sound st.loops) {results : List StepResult} (h : i.calls b st actors = .ok results) :
    ∀ r ∈ results, r.advance = true → b.Repeats → r.state.loops.get? b.id = none := by
  induction actors generalizing st results with
  | nil =>
    obtain rfl := Except.ok.inj h
    simp
  | cons a actors ih =>
    obtain ⟨r, later, hr, hlater, rfl⟩ := calls_cons_ok h
    have hcall := lowers hi hnodup hs hr
    rw [List.forall_mem_cons]
    exact ⟨hcall.finished, ih hcall.sound hlater⟩

/-- A block whose repeat blocks have ids of their own is done after finitely many calls, whatever
the table says and whoever is called with, and a repeat block that is done has no entry. The number
of calls does not depend on the actors. -/
theorem calls_finish (hi : i.Regular) (b : Block) (st : Execution)
    (hnodup : b.repeatIds.Nodup) (hchild : ∀ id p, st.loops.get? id = some p → 0 ≤ p.child) :
    ∃ n, ∀ actors results, i.calls b st actors = .ok results →
      (n ≤ results.length → ∃ k r, k < n ∧ results[k]? = some r ∧ r.advance = true) ∧
      ∀ r ∈ results, r.advance = true → b.Repeats → r.state.loops.get? b.id = none := by
  refine ⟨ahead st.loops b + 1, fun actors results h => ⟨fun hlength => ?_, ?_⟩⟩
  · obtain ⟨k, r, hk, hget, hadvance⟩ := calls_done_within hi hnodup actors hchild h hlength
    exact ⟨k, r, Nat.lt_succ_of_le hk, hget, hadvance⟩
  · exact calls_give_up hi hnodup actors hchild h

/-- An outer loop past its last child, an inner one without passes left and an entry of neither,
with a behaviour of its own for the leaf. -/
theorem calls_finish_staleLoops :
    let i : Interpreter := register {} BlockType.say (.fixed none true)
    let inner : Block :=
      ⟨"q", BlockType.repeatTimes, [.int 2], some [⟨"s", BlockType.say, [.str "hi"], none⟩]⟩
    let outer : Block := ⟨"r", BlockType.repeatTimes, [.int 1], some [inner]⟩
    let st : Execution := ⟨1, [("q", ⟨-1, 4⟩), ("r", ⟨3, 7⟩), ("gone", ⟨0, 9⟩)], true⟩
    ((i.calls outer st (List.replicate 4 { id := "cat-1" })).map (·.map (·.advance))).toOption =
        some [false, false, false, true] ∧
      ∃ n, ∀ actors results, i.calls outer st actors = .ok results →
        (n ≤ results.length → ∃ k r, k < n ∧ results[k]? = some r ∧ r.advance = true) ∧
        ∀ r ∈ results, r.advance = true → outer.Repeats → r.state.loops.get? "r" = none := by
  intro i inner outer st
  have hi : i.Regular := (regular_of_builtIn rfl).register_fixed (by decide) none
  have hchild : Sound st.loops := sound_of_forall (by decide)
  exact ⟨rfl, calls_finish hi outer st (by decide) hchild⟩

end Interpreter

end ScriptedStage
