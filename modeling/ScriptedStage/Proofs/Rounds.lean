import ScriptedStage.Proofs.LoopUnrolling
import ScriptedStage.Run.Round

/-!
Rounds of a run. A round takes the actors in order and records for each the state after its
step, its changes and whether it finished its script. As ids are distinct, what an actor does
in a round depends on its own state before the round only, so a round is described actor by
actor (`Round.taken`).

What is proved:
  1. `Round.play_ok`: what a round comes to, from what each actor does on its own;
  2. `Round.turn`: an actor whose state is ready runs the first of the leaves that are left of its
     script; it finishes exactly when no others are left, and otherwise is ready for them.
-/
namespace ScriptedStage

open Block

/-- Whether a script takes part in a run: it starts with a trigger and has something after it. -/
def Script.Runnable (s : Script) : Prop := s.isEligible = true ∧ 1 < s.length

instance (s : Script) : Decidable s.Runnable := inferInstanceAs (Decidable (_ ∧ _))

theorem Script.runnable_congr {s t : Script} (h : skeletonAll s = skeletonAll t) :
    s.Runnable ↔ t.Runnable := by
  rw [Runnable, Runnable, ← isEligible_skeletonAll s, ← length_skeletonAll s, h, isEligible_skeletonAll,
    length_skeletonAll]

namespace Execution

/-- The leaves that are left of a script. -/
def left (e : Execution) (script : Script) : List (Option Block) :=
  resumeNth e.loops script e.pointer.toNat

/-- A state between two rounds of a run: it points at a block of the script that is ready, and no
other block of the script is under way. -/
structure ReadyFor (e : Execution) (script : Script) : Prop where
  pointer : 0 ≤ e.pointer
  loops : ReadyNth e.loops script e.pointer.toNat

/-- At the start of a run all the leaves behind the trigger are left. -/
theorem initial_ready {script : Script} (h : script.Runnable) :
    (initial script).ReadyFor script ∧ (initial script).left script = unrollAll (script.drop 1) := by
  have hpointer : (initial script).pointer = 1 := by simp [initial, h.1]
  have hclear : ClearAll (initial script).loops script := fun _ _ => rfl
  refine ⟨⟨by rw [hpointer]; decide, readyNth_of_clearAll hclear ?_⟩, ?_⟩
  · rw [hpointer]; exact h.2
  · rw [left, resumeNth_of_clearAll hclear, hpointer]; rfl

end Execution

namespace Round

/-! ## What one actor does -/

/-- Whether a step is the last of a script. -/
def finishes (a : Actor) (pointer : Int) (step : StepResult) : Bool :=
  step.advance && decide ((a.script.length : Int) ≤ pointer + 1)

/-- The state of an actor after a step. -/
def stateAfter (a : Actor) (pointer : Int) (step : StepResult) : Execution :=
  if step.advance then
    if (a.script.length : Int) ≤ pointer + 1 then { step.state with pointer := pointer + 1 }.rewound
    else { step.state with pointer := pointer + 1 }
  else step.state

/-- The change that a step asks for, if there is any. -/
def changeOf (step : StepResult) : Option Delta :=
  match step.delta with
  | some (d :: ds) => some (d :: ds)
  | _ => none

/-- The step that an actor takes in a round, with its state before. -/
def taken (i : Interpreter) (states : Executions) (a : Actor) : Option (Execution × StepResult) :=
  (nextBlock? a states).bind fun p => (i.execute a p.1 p.2).toOption.map fun step => (p.1, step)

/-- The change that an actor asks for in a round. -/
def changeBy (i : Interpreter) (states : Executions) (a : Actor) : Option (String × Delta) :=
  (taken i states a).bind fun t => (changeOf t.2).map fun d => (a.id, d)

/-- Whether an actor finishes its script in a round. -/
def endsBy (i : Interpreter) (states : Executions) (a : Actor) : Bool :=
  (taken i states a).any fun t => finishes a t.1.pointer t.2

theorem record_eq (r : Round) (a : Actor) (pointer : Int) (step : StepResult) :
    (r.record a pointer step).1 =
      { states := r.states.set a.id (stateAfter a pointer step)
        deltas := r.deltas ++ ((changeOf step).map fun d => (a.id, d)).toList
        completed := r.completed ++ if finishes a pointer step then [a.id] else [] } := by
  obtain ⟨delta, advance, state, notes⟩ := step
  -- the same three outcomes for each kind of change
  rcases delta with _ | _ | ⟨d, ds⟩ <;> cases advance <;>
    by_cases hend : (a.script.length : Int) ≤ pointer + 1 <;>
    simp [record, stateAfter, finishes, changeOf, hend]

theorem nextBlock?_congr {a : Actor} {states states' : Executions}
    (h : states'.get? a.id = states.get? a.id) :
    nextBlock? a states' = nextBlock? a states := by
  simp only [nextBlock?, h]

theorem taken_congr {i : Interpreter} {a : Actor} {states states' : Executions}
    (h : states'.get? a.id = states.get? a.id) : taken i states' a = taken i states a := by
  simp only [taken, nextBlock?_congr h]

theorem taken_of_none {i : Interpreter} {a : Actor} {states : Executions} (h : nextBlock? a states = none) :
    taken i states a = none := by
  simp [taken, h]

theorem taken_of_some {i : Interpreter} {a : Actor} {states : Executions} {e : Execution} {b : Block}
    {step : StepResult} (h : nextBlock? a states = some (e, b)) (hstep : i.execute a e b = .ok step) :
    taken i states a = some (e, step) := by
  simp [taken, h, hstep, Except.toOption]

/-! ## What a round comes to -/

/-- What a round adds to an earlier one, from what each actor does on its own. -/
structure Extends (i : Interpreter) (actors : List Actor) (r r' : Round) : Prop where
  deltas : r'.deltas = r.deltas ++ actors.filterMap (changeBy i r.states)
  completed : r'.completed = r.completed ++ (actors.filter (endsBy i r.states)).map (·.id)
  states : ∀ a ∈ actors, r'.states.get? a.id =
    ((taken i r.states a).map fun t => stateAfter a t.1.pointer t.2).or (r.states.get? a.id)
  others : ∀ id ∉ actors.map (·.id), r'.states.get? id = r.states.get? id
  steps : ∀ a ∈ actors, ∀ e b, nextBlock? a r.states = some (e, b) → ∃ step, i.execute a e b = .ok step

namespace Extends

variable {i : Interpreter} {r r₁ r' : Round} {a : Actor}

theorem of_none (h : nextBlock? a r.states = none) : Extends i [a] r r where
  deltas := by simp [changeBy, taken_of_none h]
  completed := by simp [endsBy, taken_of_none h]
  states b hb := by
    obtain rfl := List.mem_singleton.mp hb
    simp [taken_of_none h]
  others _ _ := rfl
  steps b hb e c hnext := by
    obtain rfl := List.mem_singleton.mp hb
    rw [h] at hnext
    cases hnext

theorem of_some {e : Execution} {b : Block} {step : StepResult} (h : nextBlock? a r.states = some (e, b))
    (hstep : i.execute a e b = .ok step) : Extends i [a] r (r.record a e.pointer step).1 where
  deltas := by
    rw [record_eq]
    cases hc : changeOf step <;> simp [changeBy, taken_of_some h hstep, hc]
  completed := by
    rw [record_eq]
    cases hf : finishes a e.pointer step <;> simp [endsBy, taken_of_some h hstep, hf]
  states c hc := by
    obtain rfl := List.mem_singleton.mp hc
    simp [record_eq, taken_of_some h hstep]
  others id hid := by
    rw [record_eq]
    exact Assoc.get?_set_ne _ _ (by simpa using hid)
  steps c hc e' b' hnext := by
    obtain rfl := List.mem_singleton.mp hc
    rw [h] at hnext
    cases hnext
    exact ⟨step, hstep⟩

/-- The first actor does not change what the others do. -/
theorem cons {actors : List Actor} (hfresh : a.id ∉ actors.map (·.id)) (hfirst : Extends i [a] r r₁)
    (hrest : Extends i actors r₁ r') : Extends i (a :: actors) r r' := by
  have hget : ∀ b ∈ actors, r₁.states.get? b.id = r.states.get? b.id := by
    intro b hb
    refine hfirst.others b.id fun hid => hfresh ?_
    rw [List.map_cons, List.map_nil, List.mem_singleton] at hid
    exact hid ▸ List.mem_map_of_mem hb
  have htaken : ∀ b ∈ actors, taken i r₁.states b = taken i r.states b :=
    fun b hb => taken_congr (hget b hb)
  refine ⟨?deltas, ?completed, ?states, ?others, ?steps⟩
  case deltas =>
    have hsame : actors.filterMap (changeBy i r₁.states) = actors.filterMap (changeBy i r.states) :=
      List.filterMap_congr fun b hb => by simp only [changeBy, htaken b hb]
    rw [hrest.deltas, hfirst.deltas, hsame, List.append_assoc, ← List.filterMap_append]
    rfl
  case completed =>
    have hsame : actors.filter (endsBy i r₁.states) = actors.filter (endsBy i r.states) :=
      List.filter_congr fun b hb => by simp only [endsBy, htaken b hb]
    rw [hrest.completed, hfirst.completed, hsame, List.append_assoc, ← List.map_append,
      ← List.filter_append]
    rfl
  case states =>
    intro b hb
    rcases List.mem_cons.mp hb with rfl | hmem
    · rw [hrest.others b.id hfresh, hfirst.states b (List.mem_singleton_self b)]
    · rw [hrest.states b hmem, htaken b hmem, hget b hmem]
  case others =>
    intro id hid
    rw [List.map_cons, List.mem_cons, not_or] at hid
    rw [hrest.others id hid.2, hfirst.others id (by simpa using hid.1)]
  case steps =>
    intro b hb e c hnext
    rcases List.mem_cons.mp hb with rfl | hmem
    · exact hfirst.steps b (List.mem_singleton_self b) e c hnext
    · exact hrest.steps b hmem e c ((nextBlock?_congr (hget b hmem)).trans hnext)

end Extends

theorem playFrom_ok {i : Interpreter} {actors : List Actor} (hnodup : (actors.map (·.id)).Nodup)
    {r r' : Round} {notes : List Note} (h : playFrom i r actors = (notes, .ok r')) :
    Extends i actors r r' := by
  induction actors generalizing r notes with
  | nil =>
    obtain rfl := Except.ok.inj (Prod.mk.inj h).2
    exact ⟨by simp, by simp, by simp, fun _ _ => rfl, by simp⟩
  | cons a actors ih =>
    rw [List.map_cons, List.nodup_cons] at hnodup
    rw [playFrom] at h
    cases hnext : nextBlock? a r.states with
    | none =>
      rw [hnext] at h
      exact .cons hnodup.1 (.of_none hnext) (ih hnodup.2 h)
    | some p =>
      obtain ⟨e, b⟩ := p
      rw [hnext] at h
      cases hexec : i.execute a e b with
      | error fault => simp [hexec] at h
      | ok step =>
        simp only [hexec, Prod.mk.injEq] at h
        exact .cons hnodup.1 (.of_some hnext hexec) (ih hnodup.2 (Prod.ext rfl h.2))

/-- What a round comes to when no step fails. -/
theorem play_ok {i : Interpreter} {actors : List Actor} {states : Executions}
    (hnodup : (actors.map (·.id)).Nodup) {r : Round} (h : (play i actors states).2 = .ok r) :
    Extends i actors { states := states } r :=
  playFrom_ok hnodup (Prod.ext rfl h)

/-! ## The turn of an actor -/

/-- What a step does that runs `leaf` when `rest` is left after it. -/
structure Runs (i : Interpreter) (a : Actor) (e : Execution) (leaf : Option Block)
    (rest : List (Option Block)) (step : StepResult) : Prop where
  delta : (i.executeSlot a e leaf).map (·.delta) = .ok step.delta
  ends : finishes a e.pointer step = rest.isEmpty
  eligible : (stateAfter a e.pointer step).eligible = e.eligible
  more : rest ≠ [] →
    (stateAfter a e.pointer step).ReadyFor a.script ∧ (stateAfter a e.pointer step).left a.script = rest

theorem repeatIdsAll_sublist (s : Script) : (repeatIdsAll s).Sublist s.ids :=
  List.filter_sublist.map _

variable {i : Interpreter} {a : Actor} {e : Execution} {b : Block} {before after : List Block}
  {leaf : Option Block} {rest : List (Option Block)} {loops : Assoc LoopProgress}

/-- The call of the block at the pointer is not its last: the pointer stays. -/
theorem runs_within (hscript : a.script = before ++ b :: after) (hlen : before.length = e.pointer.toNat)
    (hpos : 0 ≤ e.pointer) (hadv : i.Advances b e.loops leaf rest loops) (hrest : rest ≠ [])
    (hclear : ClearAll loops before ∧ ClearAll loops after) {r : StepResult}
    (hslot : i.executeSlot a e leaf = .ok r) :
    Runs i a e leaf (rest ++ unrollAll after) ⟨r.delta, rest.isEmpty, { e with loops := loops },
      r.notes⟩ := by
  obtain ⟨hready, hresume⟩ := hadv.more hrest
  have hfull : rest.isEmpty = false := List.isEmpty_eq_false_iff.mpr hrest
  have hlong : (rest ++ unrollAll after).isEmpty = false := List.isEmpty_eq_false_iff.mpr (by simp [hrest])
  have hstate : stateAfter a e.pointer ⟨r.delta, rest.isEmpty, { e with loops := loops }, r.notes⟩ =
      { e with loops := loops } := by simp [stateAfter, hfull]
  refine ⟨by rw [hslot]; rfl, by simp only [finishes, hfull, hlong, Bool.false_and],
    by rw [hstate], fun _ => ?_⟩
  rw [hstate]
  refine ⟨⟨hpos, ?_⟩, ?_⟩
  · show ReadyNth loops a.script e.pointer.toNat
    rw [hscript, ← hlen, readyNth_at]
    exact ⟨hclear.1, hready, hclear.2⟩
  · show resumeNth loops a.script e.pointer.toNat = rest ++ unrollAll after
    rw [hscript, ← hlen, resumeNth_at, hresume]

/-- The call of the block at the pointer is its last: the pointer goes on, or the
script is finished. -/
theorem runs_past (hscript : a.script = before ++ b :: after) (hlen : before.length = e.pointer.toNat)
    (hpos : 0 ≤ e.pointer) (hclear : ClearAll loops a.script) {r : StepResult}
    (hslot : i.executeSlot a e leaf = .ok r) :
    Runs i a e leaf (unrollAll after) ⟨r.delta, true, { e with loops := loops }, r.notes⟩ := by
  have hcount : a.script.length = e.pointer.toNat + 1 + after.length := by rw [hscript]; simp; omega
  cases after with
  | nil =>
    -- the pointer is at the end, so the state is rewound and keeps its eligibility
    have hend : (a.script.length : Int) ≤ e.pointer + 1 := by simp at hcount; omega
    refine ⟨by rw [hslot]; rfl, by simp [finishes, hend, unrollAll], ?_, fun hne => absurd rfl hne⟩
    simp [stateAfter, hend, Execution.rewound]
  | cons c after =>
    have hend : ¬(a.script.length : Int) ≤ e.pointer + 1 := by simp at hcount; omega
    have hmore : (unrollAll (c :: after)).isEmpty = false :=
      List.isEmpty_eq_false_iff.mpr fun hnil => by simpa using unrollAll_eq_nil.mp hnil
    have hstate : stateAfter a e.pointer ⟨r.delta, true, { e with loops := loops }, r.notes⟩ =
        { e with loops := loops, pointer := e.pointer + 1 } := by simp [stateAfter, hend]
    have hdrop : a.script.drop (e.pointer + 1).toNat = c :: after := by
      have : (e.pointer + 1).toNat = (before ++ [b]).length := by simp; omega
      rw [hscript, List.append_cons, this, List.drop_left]
    refine ⟨by rw [hslot]; rfl, by simp [finishes, hend, hmore], by rw [hstate], fun _ => ?_⟩
    rw [hstate]
    refine ⟨⟨by simp only; omega, readyNth_of_clearAll hclear (by simp only; omega)⟩, ?_⟩
    show resumeNth loops a.script (e.pointer + 1).toNat = _
    rw [resumeNth_of_clearAll hclear, hdrop]

/-- The turn of an actor whose state is ready: it runs the first of the leaves that are
left of its script. -/
theorem turn (hi : i.behaviours = builtInBehaviours) {states : Executions}
    (he : states.get? a.id = some e) (helig : e.eligible = true) (hlen : 1 < a.script.length)
    (hnodup : a.script.ids.Nodup) (hready : e.ReadyFor a.script) :
    ∃ b leaf rest, nextBlock? a states = some (e, b) ∧ e.left a.script = leaf :: rest ∧
      (∀ l ∈ leaf, ¬l.Repeats) ∧ ∀ step, i.execute a e b = .ok step → Runs i a e leaf rest step := by
  obtain ⟨before, b, after, hscript, hposition⟩ := exists_of_readyNth hready.loops
  have hpos := hready.pointer
  have hnth := hready.loops
  rw [hscript, ← hposition, readyNth_at] at hnth
  obtain ⟨hbefore, hb, hafter⟩ := hnth
  have hrepeats : (repeatIdsAll (before ++ b :: after)).Nodup :=
    hscript ▸ hnodup.sublist (repeatIdsAll_sublist _)
  have hbnodup : b.repeatIds.Nodup := hrepeats.sublist (repeatIds_sublist_of_mem (by simp))
  obtain ⟨leaf, rest, loops, hadv⟩ := Interpreter.advances hi hbnodup hb
  -- the call writes to the loops of `b` only, so the loops of the other blocks stay clear
  have hclear := Interpreter.siblings_clear hrepeats hbefore hafter hadv.outside
  refine ⟨b, leaf, rest ++ unrollAll after, ?next, ?left, hadv.plain, fun step hstep => ?runs⟩
  case next =>
    have hblock : a.script[e.pointer.toNat]? = some b := by simp [hscript, ← hposition]
    have hlt : ¬(a.script.length : Int) ≤ e.pointer := by rw [hscript]; simp; omega
    have hmany : ¬a.script.length ≤ 1 := by omega
    simp [nextBlock?, he, helig, hblock, hlt, hmany]
  case left =>
    rw [Execution.left, hscript, ← hposition, resumeNth_at, hadv.left]
    rfl
  case runs =>
    rw [hadv.result a e rfl] at hstep
    cases hslot : i.executeSlot a e leaf with
    | error fault => rw [hslot] at hstep; cases hstep
    | ok r =>
      rw [hslot] at hstep
      obtain rfl := Except.ok.inj hstep
      by_cases hrest : rest = []
      · subst hrest
        refine runs_past hscript hposition hpos ?_ hslot
        rw [hscript, clearAll_append, clearAll_cons]
        exact ⟨hclear.1, hadv.done rfl, hclear.2⟩
      · exact runs_within hscript hposition hpos hadv hrest hclear hslot

end Round

end ScriptedStage
