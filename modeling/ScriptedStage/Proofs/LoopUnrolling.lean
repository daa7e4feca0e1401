import ScriptedStage.Proofs.LoopProgress

/-!
The interpreter runs the unrolling of a block. It runs one leaf per call, and a repeat block and the
one inside it both change the table of progress in the same call.

What is proved, for the behaviours of the palette:
  1. `advances`: from a ready table a call runs the first of the leaves that are left, reports that
     it is done exactly when no others are left, and leaves a table that is ready for the rest;
  2. `calls_unroll`: called again and again from a table without entries of its repeat
     blocks, a block runs its unrolling, is done with the last leaf and not before, and gives
     back the state as it was.
-/
namespace ScriptedStage

namespace Interpreter

open Block

/-! ## One call of a block -/

theorem builtIn_repeatTimes {type : String} (h : builtInBehaviours.get? type = some .repeatTimes) :
    type = BlockType.repeatTimes := by
  simp only [builtInBehaviours, Assoc.get?] at h
  repeat' split at h
  all_goals simp_all

theorem builtIn_ne_fixed {type : String} {delta : Option Delta} {advance : Bool} :
    builtInBehaviours.get? type ≠ some (.fixed delta advance) := by
  simp only [builtInBehaviours, Assoc.get?]
  repeat' split
  all_goals simp

/-- Repeat blocks repeat and no other blocks do, and whatever has been registered lets
its caller move on. -/
structure Regular (i : Interpreter) : Prop where
  repeatTimes : i.behaviours.get? BlockType.repeatTimes = some .repeatTimes
  only : ∀ {type : String}, i.behaviours.get? type = some .repeatTimes → type = BlockType.repeatTimes
  moves : ∀ {type : String} {delta : Option Delta} {advance : Bool},
    i.behaviours.get? type = some (.fixed delta advance) → advance = true

theorem regular_of_builtIn {i : Interpreter} (hi : i.behaviours = builtInBehaviours) : i.Regular where
  repeatTimes := by rw [hi]; rfl
  only h := builtIn_repeatTimes (hi ▸ h)
  moves h := absurd (hi ▸ h) builtIn_ne_fixed

section Regular

variable {i : Interpreter} (hi : i.Regular)
include hi

/-- A block that is not a repeat block is done with one call. What it does to the actor does not
depend on the execution state, which it leaves alone. -/
theorem execute_of_not_repeats {b : Block} (hb : ¬b.Repeats) (a : Actor) (st st' : Execution) :
    i.execute a st' b = (i.execute a st b).map fun r => { r with advance := true, state := st' } := by
  obtain ⟨id, type, values, children⟩ := b
  have hmap : ∀ d : Except Fault Delta, d.map (fun d => (⟨some d, true, st', []⟩ : StepResult)) =
      (d.map fun d => (⟨some d, true, st, []⟩ : StepResult)).map
        fun r => { r with advance := true, state := st' } := by
    intro d; cases d <;> rfl
  rw [execute, execute]
  cases hg : i.behaviours.get? type with
  | none => rfl
  | some behaviour =>
    cases behaviour with
    | repeatTimes => exact absurd (hi.only hg) hb
    | fixed delta advance =>
      obtain rfl := hi.moves hg
      rfl
    | nothing => rfl
    | _ => exact hmap _

/-- A repeat block does what its plan says. -/
theorem execute_of_repeats {b : Block} (hb : b.Repeats) (a : Actor) (st : Execution) :
    i.execute a st b = match planRepeat b st with
      | .done result => .ok result
      | .child p =>
        match position? b.kids.length p.child, b.children with
        | some n, some cs => (i.executeNth a st cs n).map (afterChild b.id b.kids.length p)
        | _, _ => .error .outOfRange := by
  obtain ⟨id, type, values, children⟩ := b
  obtain rfl : type = BlockType.repeatTimes := hb
  rewrite [execute, hi.repeatTimes]
  cases planRepeat ⟨id, BlockType.repeatTimes, values, children⟩ st with
  | done result => rfl
  | child p =>
    generalize position? (kids ⟨id, BlockType.repeatTimes, values, children⟩).length p.child = n
    cases n <;> cases children <;> rfl

omit hi in
theorem planRepeat_of_idle {b : Block} {st : Execution} (h : b.progress? st.loops = none) :
    planRepeat b st = .done ⟨none, true, st, []⟩ := by
  unfold progress? at h
  cases hp : st.loops.get? b.id with
  | some p => simp [hp] at h
  | none =>
    simp only [hp, ite_eq_left_iff, reduceCtorEq, imp_false, not_not] at h
    simp only [planRepeat, hp]
    rw [if_pos (by simpa using h)]

omit hi in
theorem planRepeat_of_progress {b : Block} {st : Execution} {p : LoopProgress}
    (h : b.progress? st.loops = some p) (hrem : 0 < p.remaining) (hchild : 0 ≤ p.child)
    (hlt : p.child < b.kids.length) : planRepeat b st = .child p := by
  -- neither the passes nor the children have run out, so no test of the plan holds
  have hlive : ¬(p.remaining ≤ 0 || b.kids.length = 0) = true := by
    simp only [Bool.or_eq_true, decide_eq_true_eq, not_or]
    omega
  have hnot : ¬(b.kids.length : Int) ≤ p.child := by omega
  unfold progress? at h
  unfold planRepeat
  cases hp : st.loops.get? b.id with
  | some q =>
    obtain rfl : q = p := by simpa [hp] using h
    simp only [if_neg hlive, if_neg hnot]
  | none =>
    simp only [hp] at h
    split at h
    · cases h
    · obtain rfl := Option.some.inj h
      simp only [if_neg hlive, if_neg hnot]

theorem execute_of_idle {b : Block} (hb : b.Repeats) {st : Execution} (h : b.progress? st.loops = none)
    (a : Actor) : i.execute a st b = .ok ⟨none, true, st, []⟩ := by
  rw [execute_of_repeats hi hb, planRepeat_of_idle h]

theorem execute_of_progress {b : Block} (hb : b.Repeats) {st : Execution} {p : LoopProgress}
    (h : b.progress? st.loops = some p) (hrem : 0 < p.remaining) (hchild : 0 ≤ p.child)
    (hlt : p.child.toNat < b.kids.length) (a : Actor) :
    i.execute a st b =
      (i.executeNth a st b.kids p.child.toNat).map (afterChild b.id b.kids.length p) := by
  rw [execute_of_repeats hi hb, planRepeat_of_progress h hrem hchild (by omega)]
  simp only [position?, if_pos hchild]
  obtain ⟨id, type, values, _ | cs⟩ := b
  · simp [kids] at hlt
  · rfl

end Regular

variable {i : Interpreter} (hi : i.behaviours = builtInBehaviours)
include hi

/-- What a call of a block does from `loops`: it runs `leaf`, leaves `rest` for later calls and goes
on from `loops'`. Entries of other blocks stay as they are. -/
structure Advances (i : Interpreter) (b : Block) (loops : Assoc LoopProgress) (leaf : Option Block)
    (rest : List (Option Block)) (loops' : Assoc LoopProgress) : Prop where
  left : resume loops b = leaf :: rest
  plain : ∀ l ∈ leaf, ¬l.Repeats
  outside : loops'.outside b.repeatIds = loops.outside b.repeatIds
  done : rest = [] → Clear loops' b
  more : rest ≠ [] → Ready loops' b ∧ resume loops' b = rest
  result : ∀ (a : Actor) (st : Execution), st.loops = loops →
    i.execute a st b = (i.executeSlot a st leaf).map fun r =>
      ⟨r.delta, rest.isEmpty, { st with loops := loops' }, r.notes⟩

theorem advances_of_not_repeats {b : Block} (hb : ¬b.Repeats) {loops : Assoc LoopProgress}
    (h : Ready loops b) : Advances i b loops (some b) [] loops where
  left := resume_of_not_repeats hb
  plain := by rintro _ ⟨⟩; exact hb
  outside := rfl
  done _ := by
    rcases ready_iff.mp h with hc | ⟨hr, -⟩
    · exact hc
    · exact absurd hr hb
  more h := absurd rfl h
  result a st hst := by
    subst hst
    exact execute_of_not_repeats (regular_of_builtIn hi) hb a st st

theorem advances_of_idle {b : Block} (hb : b.Repeats) {loops : Assoc LoopProgress}
    (h : b.progress? loops = none) (hclear : Clear loops b) : Advances i b loops none [] loops where
  left := by rw [resume_of_repeats hb, h]
  plain := by rintro _ ⟨⟩
  outside := rfl
  done _ := hclear
  more h := absurd rfl h
  result a st hst := by
    subst hst
    exact execute_of_idle (regular_of_builtIn hi) hb h a

section Child

variable {b c : Block} {before after : List Block} {loops loops₁ : Assoc LoopProgress} {p : LoopProgress}
  {leaf : Option Block} {rest : List (Option Block)}

omit hi in
/-- A call of one block of a list leaves the others as they are, so none of them is under way. -/
theorem siblings_clear (hnodup : (repeatIdsAll (before ++ c :: after)).Nodup)
    (hbefore : ClearAll loops before) (hafter : ClearAll loops after)
    (hout : loops₁.outside c.repeatIds = loops.outside c.repeatIds) :
    ClearAll loops₁ before ∧ ClearAll loops₁ after := by
  rw [repeatIdsAll_append, repeatIdsAll_cons, List.nodup_append, List.nodup_append] at hnodup
  obtain ⟨-, ⟨-, -, hca⟩, hbc⟩ := hnodup
  refine ⟨clearAll_congr (fun id hid => Assoc.get?_congr_outside hout fun hin => ?_) hbefore,
    clearAll_congr (fun id hid => Assoc.get?_congr_outside hout fun hin => ?_) hafter⟩
  · exact hbc id hid id (List.mem_append_left _ hin) rfl
  · exact hca id hin id hid rfl

omit hi in
theorem AtChild.siblings_clear (hnodup : b.repeatIds.Nodup) (h : AtChild loops b p before c after)
    (hout : loops₁.outside c.repeatIds = loops.outside c.repeatIds) :
    ClearAll loops₁ before ∧ ClearAll loops₁ after := by
  rw [repeatIds_of_repeats h.repeats, List.nodup_cons, h.kids] at hnodup
  exact Interpreter.siblings_clear hnodup.2 h.before_clear h.after_clear hout

omit hi in
theorem resume_atChild (h : AtChild loops b p before c after) :
    resume loops b = resume loops c ++ laterLeaves b p after := by
  have hnth : resumeNth loops b.kids p.child.toNat = resume loops c ++ unrollAll after := by
    rw [h.kids, ← h.position, resumeNth_at]
  rw [resume_of_repeats h.repeats, h.progress]
  simp only [hnth, laterLeaves, List.append_assoc]

omit hi in
theorem executeNth_at (a : Actor) (st : Execution) :
    i.executeNth a st (before ++ c :: after) before.length = i.execute a st c := by
  induction before with
  | nil => rw [List.nil_append, List.length_nil, executeNth]
  | cons d before ih => rw [List.cons_append, List.length_cons, executeNth, ih]

theorem execute_atChild (h : AtChild loops b p before c after) (hc : Advances i c loops leaf rest loops₁)
    (a : Actor) {st : Execution} (hst : st.loops = loops) :
    i.execute a st b = (i.executeSlot a st leaf).map fun r => afterChild b.id b.kids.length p
      ⟨r.delta, rest.isEmpty, { st with loops := loops₁ }, r.notes⟩ := by
  have hlt : p.child.toNat < b.kids.length := by rw [h.kids, ← h.position]; simp
  have hnth : i.executeNth a st b.kids p.child.toNat = i.execute a st c := by
    rw [h.kids, ← h.position, executeNth_at]
  rw [execute_of_progress (regular_of_builtIn hi) h.repeats
    (hst ▸ h.progress) h.remaining h.child hlt a, hnth,
    hc.result a st hst]
  cases i.executeSlot a st leaf <;> rfl

omit hi in
/-- The entries below a repeat block do not see a change of its own entry. -/
theorem get?_set_below (hb : b.Repeats) (hnodup : b.repeatIds.Nodup) (t : Assoc LoopProgress)
    (q : LoopProgress) : ∀ id ∈ repeatIdsAll b.kids, (t.set b.id q).get? id = t.get? id := by
  rw [repeatIds_of_repeats hb, List.nodup_cons] at hnodup
  exact fun id hin => Assoc.get?_set_ne _ _ fun he => hnodup.1 (he ▸ hin)

omit hi in
theorem outside_set_of_child (h : AtChild loops b p before c after)
    (hout : loops₁.outside c.repeatIds = loops.outside c.repeatIds) (q : LoopProgress) :
    (loops₁.set b.id q).outside b.repeatIds = loops.outside b.repeatIds := by
  have hmem : b.id ∈ b.repeatIds := by simp [repeatIds_of_repeats h.repeats]
  rw [Assoc.outside_set hmem]
  exact Assoc.outside_mono (repeatIds_sublist_of_kid h.mem).subset hout

/-- The child is not done: the repeat block stays at it. -/
theorem advances_within (hnodup : b.repeatIds.Nodup) (h : AtChild loops b p before c after)
    (hc : Advances i c loops leaf rest loops₁) (hrest : rest ≠ []) :
    Advances i b loops leaf (rest ++ laterLeaves b p after) (loops₁.set b.id p) := by
  obtain ⟨hbefore, hafter⟩ := AtChild.siblings_clear hnodup h hc.outside
  obtain ⟨hready, hresume⟩ := hc.more hrest
  have hsub := get?_set_below h.repeats hnodup loops₁ p
  rw [h.kids, repeatIdsAll_append, repeatIdsAll_cons] at hsub
  have hcset : ∀ id ∈ c.repeatIds, (loops₁.set b.id p).get? id = loops₁.get? id :=
    fun id hid => hsub id (by simp [hid])
  have hentry : (loops₁.set b.id p).get? b.id = some p := Assoc.get?_set_self ..
  have hat : AtChild (loops₁.set b.id p) b p before c after :=
    { h with
      progress := by simp only [progress?, hentry]
      before_clear := clearAll_congr (fun id hid => hsub id (by simp [hid])) hbefore
      after_clear := clearAll_congr (fun id hid => hsub id (by simp [hid])) hafter }
  refine ⟨?left, hc.plain, outside_set_of_child h hc.outside p, ?done, fun _ => ⟨?ready, ?resume⟩, ?result⟩
  case left => rw [resume_atChild h, hc.left]; rfl
  case done => intro hnil; exact absurd (List.append_eq_nil_iff.mp hnil).1 hrest
  case ready =>
    have hnth : ReadyNth (loops₁.set b.id p) b.kids p.child.toNat := by
      rw [h.kids, ← h.position, readyNth_at]
      exact ⟨hat.before_clear, ready_congr hcset hready, hat.after_clear⟩
    exact ready_iff.mpr (.inr ⟨h.repeats, p, hentry, h.remaining, h.bound, h.child, hnth⟩)
  case resume => rw [resume_atChild hat, resume_congr hcset, hresume]
  case result =>
    intro a st hst
    have hlt : p.child < b.kids.length := by
      have := h.position
      have := h.child
      rw [h.kids]; simp; omega
    have hfull : (rest ++ laterLeaves b p after).isEmpty = false :=
      List.isEmpty_eq_false_iff.mpr (by simp [hrest])
    rw [execute_atChild hi h hc a hst, hfull]
    simp [afterChild, hrest, hlt, Execution.setLoop]

/-- The child is done: the repeat block goes to the start of another child, in this
pass or the next. -/
theorem advances_to (hnodup : b.repeatIds.Nodup) (h : AtChild loops b p before c after)
    (hc : Advances i c loops leaf [] loops₁) {q : LoopProgress} (hrem : 0 < q.remaining)
    (hle : q.remaining ≤ p.remaining) (hchild : 0 ≤ q.child) (hlt : q.child.toNat < b.kids.length)
    (hlater : laterLeaves b p after = laterLeaves b q (b.kids.drop q.child.toNat))
    (hstep : ∀ r : StepResult, r.advance = true → afterChild b.id b.kids.length p r =
      ⟨r.delta, false, r.state.setLoop b.id q, r.notes⟩) :
    Advances i b loops leaf (laterLeaves b p after) (loops₁.set b.id q) := by
  obtain ⟨hbefore, hafter⟩ := AtChild.siblings_clear hnodup h hc.outside
  have hclear : ClearAll (loops₁.set b.id q) b.kids := by
    refine clearAll_congr (get?_set_below h.repeats hnodup loops₁ q) ?_
    rw [h.kids, clearAll_append, clearAll_cons]
    exact ⟨hbefore, hc.done rfl, hafter⟩
  have hat := at_child h.repeats hclear (Assoc.get?_set_self ..) hrem (Int.le_trans hle h.bound) hchild hlt
  have hne : laterLeaves b p after ≠ [] := by
    rw [hlater, laterLeaves]
    intro hnil
    have := unrollAll_eq_nil.mp (List.append_eq_nil_iff.mp hnil).1
    rw [List.drop_eq_nil_iff] at this
    omega
  refine ⟨?left, hc.plain, outside_set_of_child h hc.outside q, fun hnil => absurd hnil hne,
    fun _ => ?more, ?result⟩
  case left => rw [resume_atChild h, hc.left]; rfl
  case more => rw [hlater]; exact hat
  case result =>
    intro a st hst
    rw [execute_atChild hi h hc a hst]
    simp only [List.isEmpty_nil, hstep, List.isEmpty_eq_false_iff.mpr hne, Execution.setLoop]

/-- The last child of the last pass is done: so is the repeat block. -/
theorem advances_end (hnodup : b.repeatIds.Nodup) (h : AtChild loops b p before c [])
    (hc : Advances i c loops leaf [] loops₁) (hlast : p.remaining ≤ 1) :
    Advances i b loops leaf [] (loops₁.erase b.id) := by
  have hmem : b.id ∈ b.repeatIds := by simp [repeatIds_of_repeats h.repeats]
  have hlater : laterLeaves b p [] = [] := by
    have : (p.remaining - 1).toNat = 0 := by omega
    simp [laterLeaves, unrollAll, this]
  have hcount : ¬p.child + 1 < b.kids.length := by
    have := h.position
    have := h.child
    rw [h.kids]; simp; omega
  refine ⟨?left, hc.plain, ?outside, fun _ => ?done, fun hne => absurd rfl hne, ?result⟩
  case left => rw [resume_atChild h, hc.left, hlater]; rfl
  case outside =>
    rw [Assoc.outside_erase hmem]
    exact Assoc.outside_mono (repeatIds_sublist_of_kid h.mem).subset hc.outside
  case done =>
    obtain ⟨hbefore, hafter⟩ := AtChild.siblings_clear hnodup h hc.outside
    refine (clear_of_repeats h.repeats).mpr ⟨Assoc.get?_erase_self .., ?_⟩
    rw [repeatIds_of_repeats h.repeats, List.nodup_cons] at hnodup
    refine clearAll_congr (fun id hid => Assoc.get?_erase_ne fun he => hnodup.1 (he ▸ hid)) ?_
    rw [h.kids, clearAll_append, clearAll_cons]
    exact ⟨hbefore, hc.done rfl, hafter⟩
  case result =>
    intro a st hst
    rw [execute_atChild hi h hc a hst]
    have hover : p.remaining - 1 ≤ 0 := by omega
    simp [afterChild, hcount, finishPass, hover, Execution.clearLoop]

/-- A call of a repeat block that goes on at a child, from what the call of the child does. -/
theorem advances_of_child (hnodup : b.repeatIds.Nodup) (h : AtChild loops b p before c after)
    (hc : Advances i c loops leaf rest loops₁) :
    ∃ rest' loops', Advances i b loops leaf rest' loops' := by
  have hpos := h.position
  have hchild := h.child
  have hcount : b.kids.length = p.child.toNat + 1 + after.length := by rw [h.kids]; simp; omega
  by_cases hrest : rest = []
  · subst hrest
    cases after with
    | cons d after =>
      -- on to the next child of this pass
      have hdrop : b.kids.drop (p.child + 1).toNat = d :: after := by
        have : (p.child + 1).toNat = (before ++ [c]).length := by simp; omega
        rw [h.kids, List.append_cons, this, List.drop_left]
      simp only [List.length_cons] at hcount
      exact ⟨_, _, advances_to hi hnodup h hc (q := ⟨p.remaining, p.child + 1⟩) h.remaining (Int.le_refl _)
        (by simp only; omega) (by simp only; omega) (by simp only [hdrop]; rfl) fun r hr => by
          have : p.child + 1 < b.kids.length := by omega
          simp [afterChild, hr, this]⟩
    | nil =>
      simp only [List.length_nil] at hcount
      have hover : ¬p.child + 1 < b.kids.length := by omega
      by_cases hlast : p.remaining ≤ 1
      · exact ⟨_, _, advances_end hi hnodup h hc hlast⟩
      · -- on to the first child of the next pass
        have hpass : ¬p.remaining - 1 ≤ 0 := by omega
        have hlater : laterLeaves b p [] = laterLeaves b ⟨p.remaining - 1, 0⟩ b.kids := by
          have : (p.remaining - 1).toNat = (p.remaining - 1 - 1).toNat + 1 := by omega
          rw [laterLeaves, laterLeaves, this, List.replicate_succ, List.flatten_cons]
          rfl
        exact ⟨_, _, advances_to hi hnodup h hc (q := ⟨p.remaining - 1, 0⟩) (by simp only; omega)
          (by simp only; omega) (Int.le_refl _) (by simp only [Int.toNat_zero]; omega) hlater fun r hr => by
            simp [afterChild, hr, hover, finishPass, hpass]⟩
  · exact ⟨_, _, advances_within hi hnodup h hc hrest⟩

end Child

/-- A call of a ready block runs the first of the leaves that are left of it, is the last one
exactly when no other leaf is left, and leaves the block ready for the rest. -/
theorem advances {b : Block} (hnodup : b.repeatIds.Nodup) {loops : Assoc LoopProgress} (h : Ready loops b) :
    ∃ leaf rest loops', Advances i b loops leaf rest loops' := by
  induction b using kids_induction with
  | h b ih =>
    by_cases hb : b.Repeats
    · rcases ready_cases hb h with ⟨hidle, hclear⟩ | ⟨p, before, c, after, hat, hready⟩
      · exact ⟨_, _, _, advances_of_idle hi hb hidle hclear⟩
      · have hchild := hnodup.sublist (repeatIds_sublist_of_kid hat.mem)
        obtain ⟨leaf, rest, loops₁, hstep⟩ := ih c hat.mem hchild hready
        obtain ⟨rest', loops', hadv⟩ := advances_of_child hi hnodup hat hstep
        exact ⟨leaf, rest', loops', hadv⟩
    · exact ⟨_, _, _, advances_of_not_repeats hi hb h⟩

/-! ## Calls in a row -/

omit hi in
/-- Calls a block again and again, with one actor for each call, and hands the state of each
call on to the next. -/
def calls (i : Interpreter) (b : Block) : Execution → List Actor → Except Fault (List StepResult)
  | _, [] => .ok []
  | st, a :: actors => do
    let r ← i.execute a st b
    let later ← calls i b r.state actors
    return r :: later

/-- What a leaf does to an actor does not depend on the execution state. -/
theorem executeSlot_delta {leaf : Option Block} (hplain : ∀ l ∈ leaf, ¬l.Repeats) (a : Actor)
    (st st' : Execution) :
    (i.executeSlot a st' leaf).map (·.delta) = (i.executeSlot a st leaf).map (·.delta) := by
  cases leaf with
  | none => rfl
  | some l =>
    simp only [executeSlot]
    rw [execute_of_not_repeats (regular_of_builtIn hi) (hplain l rfl) a st st']
    cases i.execute a st l <;> rfl

omit hi in
theorem calls_cons {b : Block} {st : Execution} {leaf : Option Block} {rest : List (Option Block)}
    {loops' : Assoc LoopProgress} (h : Advances i b st.loops leaf rest loops') (a : Actor)
    (actors : List Actor) :
    i.calls b st (a :: actors) = (i.executeSlot a st leaf).bind fun r =>
      (i.calls b { st with loops := loops' } actors).map
        (⟨r.delta, rest.isEmpty, { st with loops := loops' }, r.notes⟩ :: ·) := by
  rw [calls, h.result a st rfl]
  cases i.executeSlot a st leaf with
  | error e => rfl
  | ok r =>
    simp only [Except.map, bind, Except.bind]
    cases i.calls b { st with loops := loops' } actors <;> rfl

/-- What `leaves` say of calls in a row: the changes are those of the leaves, as many as there are
calls, and a call is the last one exactly when it runs the last leaf. -/
def Replays (i : Interpreter) (actors : List Actor) (leaves : List (Option Block))
    (outcome : Except Fault (List StepResult)) : Prop :=
  (∀ st, outcome.map (·.map (·.delta)) =
      (actors.zip leaves).mapM fun p => (i.executeSlot p.1 st p.2).map (·.delta)) ∧
    ∀ results, outcome = .ok results →
      results.map (·.advance) = (List.range actors.length).map fun k => decide (k + 1 = leaves.length)

theorem replays_cons {leaf : Option Block} (hplain : ∀ l ∈ leaf, ¬l.Repeats) {leaves : List (Option Block)}
    {actors : List Actor} {a : Actor} {st : Execution} {later : Except Fault (List StepResult)}
    {next : Execution} (h : Replays i actors leaves later) :
    Replays i (a :: actors) (leaf :: leaves) ((i.executeSlot a st leaf).bind fun r =>
      later.map (⟨r.delta, leaves.isEmpty, next, r.notes⟩ :: ·)) := by
  refine ⟨fun st' => ?_, fun results hok => ?_⟩
  · have hslot := executeSlot_delta hi hplain a st st'
    rw [List.zip_cons_cons, List.mapM_cons, hslot, ← h.1 st']
    cases i.executeSlot a st leaf <;> cases later <;> rfl
  · cases hslot : i.executeSlot a st leaf with
    | error e => rw [hslot] at hok; cases hok
    | ok r =>
      cases hlater : later with
      | error e => rw [hslot, hlater] at hok; cases hok
      | ok tail =>
        rw [hslot, hlater] at hok
        obtain rfl := Except.ok.inj hok
        have hfirst : leaves.isEmpty = decide (0 + 1 = leaves.length + 1) := by
          cases leaves <;> simp
        rw [List.map_cons, h.2 tail hlater, List.length_cons, List.length_cons, List.range_succ_eq_map,
          List.map_cons, List.map_map, hfirst]
        refine congrArg _ (List.map_congr_left fun k _ => ?_)
        simp

/-- Calls in a row from a ready state run the leaves that are left. -/
theorem calls_replay {b : Block} (hnodup : b.repeatIds.Nodup) (actors : List Actor) (st : Execution)
    (hready : Ready st.loops b) (hlen : actors.length ≤ (resume st.loops b).length) :
    Replays i actors (resume st.loops b) (i.calls b st actors) := by
  induction actors generalizing st with
  | nil =>
    refine ⟨fun _ => rfl, fun results hok => ?_⟩
    obtain rfl := Except.ok.inj hok
    rfl
  | cons a actors ih =>
    obtain ⟨leaf, rest, loops', hadv⟩ := advances hi hnodup hready
    rw [hadv.left] at hlen ⊢
    rw [calls_cons hadv]
    refine replays_cons hi hadv.plain ?_
    by_cases hrest : rest = []
    · -- the block is done, and there is no call left either
      have hnone : actors = [] := by
        rw [← List.length_eq_zero_iff]
        simpa [hrest] using hlen
      subst hnone
      refine ⟨fun _ => rfl, fun results hok => ?_⟩
      obtain rfl := Except.ok.inj hok
      rfl
    · obtain ⟨hready', hresume⟩ := hadv.more hrest
      have := ih { st with loops := loops' } hready' (by rw [hresume]; simpa using hlen)
      rwa [hresume] at this

/-- When the last leaf has run, the entries of the block are gone and the others are
as they were. -/
theorem calls_last {b : Block} (hnodup : b.repeatIds.Nodup) (actors : List Actor) (st : Execution)
    (hready : Ready st.loops b) (hlen : actors.length = (resume st.loops b).length)
    {results : List StepResult} (hok : i.calls b st actors = .ok results) :
    ∃ loops', results.getLast?.map (·.state) = some { st with loops := loops' } ∧
      loops'.outside b.repeatIds = st.loops.outside b.repeatIds ∧ Clear loops' b := by
  induction actors generalizing st results with
  | nil =>
    obtain ⟨leaf, rest, loops', hadv⟩ := advances hi hnodup hready
    simp [hadv.left] at hlen
  | cons a actors ih =>
    obtain ⟨leaf, rest, loops', hadv⟩ := advances hi hnodup hready
    rw [hadv.left] at hlen
    rw [calls_cons hadv] at hok
    cases hslot : i.executeSlot a st leaf with
    | error e => rw [hslot] at hok; cases hok
    | ok r =>
      cases hlater : i.calls b { st with loops := loops' } actors with
      | error e => rw [hslot, hlater] at hok; cases hok
      | ok tail =>
        rw [hslot, hlater] at hok
        obtain rfl := Except.ok.inj hok
        by_cases hrest : rest = []
        · have hnone : actors = [] := by
            rw [← List.length_eq_zero_iff]
            simpa [hrest] using hlen
          subst hnone
          obtain rfl := Except.ok.inj hlater
          exact ⟨loops', rfl, hadv.outside, hadv.done hrest⟩
        · obtain ⟨hready', hresume⟩ := hadv.more hrest
          obtain ⟨last, hlast, hout, hclear⟩ :=
            ih { st with loops := loops' } hready' (by rw [hresume]; simpa using hlen) hlater
          refine ⟨last, ?_, hout.trans hadv.outside, hclear⟩
          cases tail with
          | nil => simp at hlast
          | cons r' tail => simpa [List.getLast?_cons_cons] using hlast

/-- Called again and again from a state without entries of its repeat blocks, a block runs its
unrolling: each call changes its actor as the next leaf of the unrolling does, the calls before the
last leaf say that the block is not done, the call of the last leaf says that it is, and the state
is then what it was. -/
theorem calls_unroll (b : Block) (st : Execution) (actors : List Actor) (hnodup : b.repeatIds.Nodup)
    (hclear : Clear st.loops b) (hlen : actors.length ≤ b.unroll.length) :
    (i.calls b st actors).map (·.map (·.delta)) =
        (actors.zip b.unroll).mapM (fun p => (i.executeSlot p.1 st p.2).map (·.delta)) ∧
      ∀ results, i.calls b st actors = .ok results →
        results.map (·.advance) =
            (List.range actors.length).map (fun k => decide (k + 1 = b.unroll.length)) ∧
          (actors.length = b.unroll.length → results.getLast?.map (·.state) = some st) := by
  have hresume : resume st.loops b = b.unroll := resume_of_clear hclear
  have hready : Ready st.loops b := ready_of_clear hclear
  obtain ⟨hdeltas, hadvance⟩ := calls_replay hi hnodup actors st hready (hresume ▸ hlen)
  rw [hresume] at hdeltas hadvance
  refine ⟨hdeltas st, fun results hok => ⟨hadvance results hok, fun hall => ?_⟩⟩
  obtain ⟨loops', hlast, hout, hgone⟩ := calls_last hi hnodup actors st hready (hresume ▸ hall) hok
  -- neither table has entries of the block, and outside the block they agree
  have hsame : loops' = st.loops := by
    rw [← Assoc.outside_eq_self hgone, hout, Assoc.outside_eq_self hclear]
  rw [hlast, hsame]

omit hi in
/-- Two passes over an inner loop of two passes and a loop that has nothing to do, while another
block is under way. -/
theorem calls_unroll_nested :
    let say : Block := ⟨"s", BlockType.say, [.str "hi"], none⟩
    let idle : Block := ⟨"e", BlockType.repeatTimes, [.int 3], none⟩
    let inner : Block := ⟨"q", BlockType.repeatTimes, [.int 2], some [say]⟩
    let outer : Block := ⟨"r", BlockType.repeatTimes, [.int 2], some [inner, idle]⟩
    let st : Execution := ⟨4, [("z", ⟨1, 0⟩)], true⟩
    let actors : List Actor := List.replicate 6 { id := "cat-1" }
    outer.unroll = [some say, some say, none, some say, some say, none] ∧
      ∃ results, calls {} outer st actors = .ok results ∧
        results.map (·.advance) = [false, false, false, false, false, true] ∧
        results.getLast?.map (·.state) = some st := by
  intro say idle inner outer st actors
  have hunroll : outer.unroll = [some say, some say, none, some say, some say, none] := rfl
  obtain ⟨hdeltas, h⟩ := calls_unroll (i := {}) rfl outer st actors (by decide) (by unfold Clear; decide)
    (Nat.le_of_eq (congrArg List.length hunroll).symm)
  rw [hunroll] at hdeltas h
  cases hcalls : calls {} outer st actors with
  | error e => rw [hcalls] at hdeltas; cases hdeltas
  | ok results =>
    obtain ⟨hadvance, hlast⟩ := h results hcalls
    exact ⟨hunroll, results, rfl, hadvance, hlast rfl⟩

end Interpreter

end ScriptedStage
