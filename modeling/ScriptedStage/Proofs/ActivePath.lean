import ScriptedStage.Proofs.EditAcceptance
import ScriptedStage.Proofs.EditedRuns
import ScriptedStage.Proofs.Insertions
import ScriptedStage.Proofs.StaleProgress

/-!
The loops of a script that are under way. The table of progress is flat: it knows blocks by their
ids and not where they stand. The loops that are under way form a path all the same. It starts at
the block that the pointer is at and goes on, from a repeat block that has an entry, to the child
that the entry points to (`activePath`).

A state is on its path when the table has entries for the blocks of the path and for nothing else,
each within the passes and the children of its block (`Execution.OnPath`).

What is proved:
  1. `OnPath.keys_iff`, `OnPath.underWay`: what a state on its path says about the table;
  2. `OnPath.grown`: a script may be revised without losing a block, and its state
     stays on the path;
  3. `OnPath.turn`: a turn of the actor leaves the state on the path;
  4. `Stage.reduce_scripts`: an intent lets a script grow, unless it takes a block out of it.
-/
namespace ScriptedStage

namespace Block

mutual
/-- The repeat blocks under way, from a block down. -/
def activePath (loops : Assoc LoopProgress) : Block → List Block
  | ⟨id, type, values, none⟩ =>
    if type = BlockType.repeatTimes then
      match loops.get? id with
      | none => []
      | some _ => [⟨id, type, values, none⟩]
    else []
  | ⟨id, type, values, some cs⟩ =>
    if type = BlockType.repeatTimes then
      match loops.get? id with
      | none => []
      | some p => ⟨id, type, values, some cs⟩ :: activePathNth loops cs p.child.toNat
    else []
/-- The repeat blocks under way, from the block at a position down. -/
def activePathNth (loops : Assoc LoopProgress) : List Block → Nat → List Block
  | [], _ => []
  | b :: _, 0 => activePath loops b
  | _ :: rest, n + 1 => activePathNth loops rest n
end

/-- A repeat block with passes left, at one of its children. -/
def UnderWay (loops : Assoc LoopProgress) (b : Block) : Prop :=
  ∃ p, loops.get? b.id = some p ∧ 1 ≤ p.remaining ∧ p.remaining ≤ Interpreter.passes b ∧
    0 ≤ p.child ∧ p.child < b.kids.length

variable {loops : Assoc LoopProgress} {b : Block}

theorem activePath_of_not_repeats (h : ¬b.Repeats) : activePath loops b = [] := by
  obtain ⟨id, type, values, _ | cs⟩ := b <;> simp [activePath, show ¬type = BlockType.repeatTimes from h]

theorem activePath_of_none (h : loops.get? b.id = none) : activePath loops b = [] := by
  obtain ⟨id, type, values, _ | cs⟩ := b <;> simp [activePath, show loops.get? id = none from h]

theorem activePath_of_some (hb : b.Repeats) {p : LoopProgress} (h : loops.get? b.id = some p) :
    activePath loops b = b :: activePathNth loops b.kids p.child.toNat := by
  obtain ⟨id, type, values, _ | cs⟩ := b <;>
    simp [activePath, activePathNth, kids, show type = BlockType.repeatTimes from hb,
      show loops.get? id = some p from h]

theorem activePathNth_at {before after : List Block} :
    activePathNth loops (before ++ b :: after) before.length = activePath loops b := by
  induction before with
  | nil => rfl
  | cons c before ih => exact ih

/-- An empty table has no path. -/
theorem activePathNth_nil (bs : List Block) (n : Nat) : activePathNth [] bs n = [] := by
  induction bs generalizing n with
  | nil => rfl
  | cons c bs ih =>
    cases n with
    | zero => exact activePath_of_none rfl
    | succ n => exact ih n

/-- The path of a block that is ready: all its entries are on it, and all that is on
it is under way. -/
theorem ready_path (h : Ready loops b) :
    (∀ id ∈ b.repeatIds, loops.get? id ≠ none → id ∈ (activePath loops b).map (·.id)) ∧
      ∀ c ∈ activePath loops b, UnderWay loops c := by
  induction b using kids_induction with
  | h b ih =>
    rcases ready_iff.mp h with hclear | ⟨hb, p, hp, hrem, hle, hchild, hnth⟩
    · have hpath : activePath loops b = [] := by
        by_cases hb : b.Repeats
        · exact activePath_of_none (hclear b.id (by simp [repeatIds_of_repeats hb]))
        · exact activePath_of_not_repeats hb
      rw [hpath]
      exact ⟨fun id hid hsome => absurd (hclear id hid) hsome, by simp⟩
    · obtain ⟨before, c, after, hkids, hposition⟩ := exists_of_readyNth hnth
      rw [hkids, ← hposition, readyNth_at] at hnth
      obtain ⟨hbefore, hc, hafter⟩ := hnth
      obtain ⟨hentries, hunder⟩ := ih c (by simp [hkids]) hc
      have hpath : activePath loops b = b :: activePath loops c := by
        rw [activePath_of_some hb hp, hkids, ← hposition, activePathNth_at]
      have hlt : p.child < b.kids.length := by
        rw [hkids, List.length_append, List.length_cons]
        omega
      rw [hpath, List.forall_mem_cons]
      refine ⟨fun id hid hsome => ?_, ⟨p, hp, hrem, hle, hchild, hlt⟩, hunder⟩
      -- the siblings of the child that is called have no entries
      rw [repeatIds_of_repeats hb, hkids, repeatIdsAll_append, repeatIdsAll_cons, List.mem_cons,
        List.mem_append, List.mem_append] at hid
      rw [List.map_cons, List.mem_cons]
      rcases hid with hself | hin | hin | hin
      · exact .inl hself
      · exact absurd (hbefore id hin) hsome
      · exact .inr (hentries id hin hsome)
      · exact absurd (hafter id hin) hsome

/-- The same from a position of a list that is ready. -/
theorem readyNth_path {bs : List Block} {n : Nat} (h : ReadyNth loops bs n) :
    (∀ id ∈ repeatIdsAll bs, loops.get? id ≠ none → id ∈ (activePathNth loops bs n).map (·.id)) ∧
      ∀ c ∈ activePathNth loops bs n, UnderWay loops c := by
  obtain ⟨before, c, after, rfl, rfl⟩ := exists_of_readyNth h
  obtain ⟨hbefore, hc, hafter⟩ := readyNth_at.mp h
  obtain ⟨hentries, hunder⟩ := ready_path hc
  rw [activePathNth_at]
  refine ⟨fun id hid hsome => ?_, hunder⟩
  rw [repeatIdsAll_append, repeatIdsAll_cons, List.mem_append, List.mem_append] at hid
  rcases hid with hin | hin | hin
  · exact absurd (hbefore id hin) hsome
  · exact hentries id hin hsome
  · exact absurd (hafter id hin) hsome

end Block

open Block

/-- A script that has come to its end forgets its loops. -/
theorem Round.stateAfter_loops (a : Actor) (pointer : Int) (step : StepResult) :
    (stateAfter a pointer step).loops = if finishes a pointer step then [] else step.state.loops := by
  unfold stateAfter finishes
  cases step.advance with
  | false => rfl
  | true =>
    by_cases hend : (a.script.length : Int) ≤ pointer + 1
    · simp [hend, Execution.rewound]
    · simp [hend]

/-! ## States on their path -/

/-- A state whose table has entries of repeat blocks of the script only, none or those
of the path. -/
structure Execution.OnPath (e : Execution) (script : Script) : Prop where
  pointer : 0 ≤ e.pointer
  owned : ∀ id, e.loops.get? id ≠ none → id ∈ repeatIdsAll script
  ready : e.loops = [] ∨ ReadyNth e.loops script e.pointer.toNat

namespace Execution.OnPath

variable {e e' : Execution} {script script' : Script}

/-- A state without entries is on its path. -/
theorem of_nil (hpointer : 0 ≤ e.pointer) (hloops : e.loops = []) : e.OnPath script := by
  refine ⟨hpointer, fun id hid => ?_, .inl hloops⟩
  rw [hloops] at hid
  exact absurd rfl hid

theorem initial (script : Script) : (Execution.initial script).OnPath script :=
  of_nil (Execution.initial_orderly script).pointer rfl

theorem congr (h : e.OnPath script) (hpointer : e'.pointer = e.pointer) (hloops : e'.loops = e.loops) :
    e'.OnPath script := by
  refine ⟨?_, ?_, ?_⟩
  · rw [hpointer]; exact h.pointer
  · rw [hloops]; exact h.owned
  · rw [hloops, hpointer]; exact h.ready

/-- The entries are those of the blocks on the path. -/
theorem keys_iff (h : e.OnPath script) (id : String) :
    id ∈ e.loops.keys ↔ id ∈ (activePathNth e.loops script e.pointer.toNat).map (·.id) := by
  rw [Assoc.mem_keys_iff]
  rcases h.ready with hnil | hready
  · rw [hnil, activePathNth_nil]
    simp
  · obtain ⟨hentries, hunder⟩ := readyNth_path hready
    constructor
    · intro hsome
      exact hentries id (h.owned id hsome) hsome
    · intro hin
      obtain ⟨c, hc, rfl⟩ := List.mem_map.mp hin
      obtain ⟨p, hp, -⟩ := hunder c hc
      simp [hp]

/-- The blocks on the path are under way. -/
theorem underWay (h : e.OnPath script) :
    ∀ b ∈ activePathNth e.loops script e.pointer.toNat, UnderWay e.loops b := by
  rcases h.ready with hnil | hready
  · rw [hnil, activePathNth_nil]
    simp
  · exact (readyNth_path hready).2

end Execution.OnPath

/-! ## Scripts that grow -/

namespace Block

variable {loops : Assoc LoopProgress} {new : Block}

/-- A position stays ready when blocks that are not under way are added at the end. -/
theorem readyNth_append {bs cs : List Block} {n : Nat} (h : ReadyNth loops bs n)
    (hclear : ClearAll loops cs) :
    ReadyNth loops (bs ++ cs) n := by
  obtain ⟨before, b, after, rfl, rfl⟩ := exists_of_readyNth h
  obtain ⟨hbefore, hb, hafter⟩ := readyNth_at.mp h
  rw [List.append_assoc, List.cons_append, readyNth_at, clearAll_append]
  exact ⟨hbefore, hb, hafter, hclear⟩

theorem mem_repeatIds {b : Block} {id : String} :
    id ∈ b.repeatIds ↔ (b.Repeats ∧ id = b.id) ∨ id ∈ repeatIdsAll b.kids := by
  by_cases hb : b.Repeats
  · simp [repeatIds_of_repeats hb, hb]
  · simp [repeatIds_of_not_repeats hb, hb]

/-- A new child brings its own repeat blocks and no others. -/
theorem mem_repeatIds_adopt {b : Block} {id : String} :
    id ∈ (b.adopt new).repeatIds ↔ id ∈ b.repeatIds ∨ id ∈ repeatIdsAll [new] := by
  rw [mem_repeatIds, mem_repeatIds, Block.adopt_kids, repeatIdsAll_append, List.mem_append, or_assoc]
  rfl

theorem clear_adopt {b : Block} (h : Clear loops b) (hnew : ClearAll loops [new]) :
    Clear loops (b.adopt new) := by
  intro id hid
  rcases mem_repeatIds_adopt.mp hid with hold | hin
  · exact h id hold
  · exact hnew id hin

/-- A block goes on as it was when a child is added behind the others. -/
theorem ready_adopt {b : Block} (h : Ready loops b) (hnew : ClearAll loops [new]) :
    Ready loops (b.adopt new) := by
  rcases ready_iff.mp h with hclear | ⟨hb, p, hp, hrem, hle, hchild, hnth⟩
  · exact ready_of_clear (clear_adopt hclear hnew)
  · exact ready_iff.mpr (.inr ⟨hb, p, hp, hrem, hle, hchild, readyNth_append hnth hnew⟩)

/-- A new child below a place brings its own repeat blocks and no others. -/
theorem mem_repeatIdsAll_fill {place : Place} {b : Block} {id : String} :
    id ∈ repeatIdsAll (place.fill (b.adopt new)) ↔
      id ∈ repeatIdsAll (place.fill b) ∨ id ∈ repeatIdsAll [new] := by
  induction place with
  | here after =>
    rw [Place.fill, Place.fill, repeatIdsAll_cons, repeatIdsAll_cons, List.mem_append, List.mem_append,
      mem_repeatIds_adopt]
    tauto
  | within i type values inner after ih =>
    rw [Place.fill, Place.fill, repeatIdsAll_cons, repeatIdsAll_cons, List.mem_append,
      List.mem_append, mem_repeatIds, mem_repeatIds]
    change (_ ∨ id ∈ repeatIdsAll (inner.fill (b.adopt new))) ∨ _ ↔
      ((_ ∨ id ∈ repeatIdsAll (inner.fill b)) ∨ _) ∨ _
    rw [ih]
    tauto
  | behind first place ih =>
    rw [Place.fill, Place.fill, repeatIdsAll_cons, repeatIdsAll_cons, List.mem_append,
      List.mem_append, ih, or_assoc]

theorem clearAll_fill {place : Place} {b : Block} (h : ClearAll loops (place.fill b))
    (hnew : ClearAll loops [new]) :
    ClearAll loops (place.fill (b.adopt new)) := by
  intro id hid
  rcases mem_repeatIdsAll_fill.mp hid with hold | hin
  · exact h id hold
  · exact hnew id hin

/-- An insertion leaves every position ready that was. -/
theorem readyNth_fill {place : Place} {b : Block} {n : Nat} (h : ReadyNth loops (place.fill b) n)
    (hnew : ClearAll loops [new]) : ReadyNth loops (place.fill (b.adopt new)) n := by
  induction place generalizing n with
  | here after =>
    cases n with
    | zero => exact ⟨ready_adopt h.1 hnew, h.2⟩
    | succ n => exact ⟨clear_adopt h.1 hnew, h.2⟩
  | within i type values inner after ih =>
    -- the enclosing block holds the place among its children
    have hclear : Clear loops ⟨i, type, values, some (inner.fill b)⟩ →
        Clear loops ⟨i, type, values, some (inner.fill (b.adopt new))⟩ := by
      intro hold
      have hwhole : ClearAll loops ((Place.within i type values inner []).fill b) :=
        clearAll_cons.mpr ⟨hold, clearAll_nil⟩
      exact (clearAll_cons.mp (clearAll_fill hwhole hnew)).1
    cases n with
    | zero =>
      refine ⟨?_, h.2⟩
      rcases ready_iff.mp h.1 with hold | ⟨hb, p, hp, hrem, hle, hchild, hnth⟩
      · exact ready_of_clear (hclear hold)
      · exact ready_iff.mpr (.inr ⟨hb, p, hp, hrem, hle, hchild, ih hnth⟩)
    | succ n => exact ⟨hclear h.1, h.2⟩
  | behind first place ih =>
    cases n with
    | zero => exact ⟨h.1, clearAll_fill h.2 hnew⟩
    | succ n => exact ⟨h.1, ih h.2⟩

end Block

/-- How a script may be revised without losing a block: its numbers change, or a new block is added
at the end or in a container. -/
inductive Script.Grows (s : Script) : Script → Prop where
  | reshaped {t : Script} (h : skeletonAll t = skeletonAll s) : Grows s t
  | appended {new : Block} (hfree : s.Free new) : Grows s (s.append new)
  | inserted {new b : Block} {place : Place} (hfree : s.Free new) (h : place.fill b = s) :
      Grows s (place.fill (b.adopt new))

namespace Script

variable {s t : Script}

/-- A block with free ids is not under way. -/
theorem Free.clearAll {new : Block} (h : s.Free new) {loops : Assoc LoopProgress}
    (howned : ∀ id, loops.get? id ≠ none → id ∈ repeatIdsAll s) : ClearAll loops [new] := by
  intro id hid
  by_contra hsome
  have hin : id ∈ ids [new] := (Round.repeatIdsAll_sublist _).subset hid
  exact h.2 id hin ((Round.repeatIdsAll_sublist s).subset (howned id hsome))

/-- A script that grows keeps its ids. -/
theorem Grows.ids_subset (h : s.Grows t) : s.ids ⊆ t.ids := by
  intro id hid
  cases h with
  | reshaped h =>
    rw [← ids_skeletonAll, h, ids_skeletonAll]
    exact hid
  | appended hfree =>
    rw [append, ids_append]
    exact List.mem_append_left _ hid
  | inserted hfree h =>
    rename_i new b place
    rw [← h, Place.ids_fill] at hid
    rw [Place.ids_fill, Block.adopt_kids, ids_append]
    simp only [List.mem_append, List.mem_cons] at hid ⊢
    change _ ∨ id = b.id ∨ _
    tauto

end Script

namespace Execution.OnPath

variable {e : Execution} {s t : Script}

/-- A script may grow under a state. -/
theorem grown (h : e.OnPath s) (hgrows : s.Grows t) : e.OnPath t := by
  cases hgrows with
  | reshaped hshape =>
    refine ⟨h.pointer, fun id hid => ?_, h.ready.imp_right fun hready => ?_⟩
    · rw [← repeatIdsAll_skeletonAll fun c _ => repeatIds_skeleton c, hshape,
        repeatIdsAll_skeletonAll fun c _ => repeatIds_skeleton c]
      exact h.owned id hid
    · exact (readyNth_congr_shape hshape.symm _).mp hready
  | appended hfree =>
    have hnew := hfree.clearAll h.owned
    refine ⟨h.pointer, fun id hid => ?_, h.ready.imp_right fun hready => readyNth_append hready hnew⟩
    rw [Script.append, repeatIdsAll_append]
    exact List.mem_append_left _ (h.owned id hid)
  | inserted hfree hplace =>
    subst hplace
    have hnew := hfree.clearAll h.owned
    refine ⟨h.pointer, fun id hid => ?_, h.ready.imp_right fun hready => readyNth_fill hready hnew⟩
    exact mem_repeatIdsAll_fill.mpr (.inl (h.owned id hid))

/-! ## Turns -/

theorem sound (h : e.OnPath s) : Sound e.loops := by
  intro id p hp
  have hkey : id ∈ e.loops.keys := Assoc.mem_keys_iff.mpr (by simp [hp])
  obtain ⟨c, hc, rfl⟩ := List.mem_map.mp ((h.keys_iff id).mp hkey)
  obtain ⟨q, hq, -, -, hchild, -⟩ := h.underWay c hc
  obtain rfl : p = q := Option.some.inj (hp.symm.trans hq)
  exact hchild

theorem readyFor (h : e.OnPath s) (hlt : e.pointer < s.length) : e.ReadyFor s := by
  refine ⟨h.pointer, ?_⟩
  rcases h.ready with hnil | hready
  · have hpos := h.pointer
    refine readyNth_of_clearAll (fun id _ => ?_) (by omega)
    rw [hnil]
    rfl
  · exact hready

variable {i : Interpreter} {a : Actor} {b : Block} {step : StepResult} {states : Executions}

/-- A turn leaves a state on its path. -/
theorem turn (h : e.OnPath a.script) (hi : i.behaviours = builtInBehaviours) (hnodup : a.script.ids.Nodup)
    (hnext : Round.nextBlock? a states = some (e, b)) (hstep : i.execute a e b = .ok step) :
    (Round.stateAfter a e.pointer step).OnPath a.script := by
  obtain ⟨he, helig, hlong, hlt, hget⟩ := Round.nextBlock?_eq_some.mp hnext
  obtain ⟨b', leaf, rest, hnext', -, -, hruns⟩ := Round.turn hi he helig hlong hnodup (h.readyFor hlt)
  obtain rfl : b' = b := (Prod.mk.inj (Option.some.inj (hnext'.symm.trans hnext))).2
  have hrun := hruns step hstep
  have hloops := Round.stateAfter_loops a e.pointer step
  rw [hrun.ends] at hloops
  by_cases hrest : rest = []
  · -- the script has come to its end, and its loops are forgotten
    rw [hrest] at hloops
    exact of_nil (Round.turn_lowers hi hnodup ⟨h.pointer, h.sound⟩ hnext hstep).orderly.pointer hloops
  · obtain ⟨hready, -⟩ := hrun.more hrest
    have hmore : rest.isEmpty = false := List.isEmpty_eq_false_iff.mpr hrest
    rw [hmore, if_neg Bool.false_ne_true] at hloops
    refine ⟨hready.pointer, fun id hid => ?_, .inr hready.loops⟩
    -- the entries that the call has written are those of the block at the pointer
    by_cases hin : id ∈ b'.repeatIds
    · exact (repeatIds_sublist_of_mem (List.mem_of_getElem? hget)).subset hin
    · have hcall := Interpreter.execute_footprint (Interpreter.regular_of_builtIn hi) h.sound hstep
      rw [hloops, hcall.entry id hin] at hid
      exact h.owned id hid

end Execution.OnPath

/-! ## What intents do to scripts -/

/-- An edit lets a script grow, or takes a block out of it. -/
theorem ScriptEdit.result_grows {e : ScriptEdit} {script script' : Script} (hnodup : script.ids.Nodup)
    (h : e.result script = some script') :
    script.Grows script' ∨ ∃ block, e = .remove block ∧ ∃ id ∈ script.ids, id ∉ script'.ids := by
  cases e with
  | append sent =>
    obtain ⟨hfree, hscript⟩ := Option.ite_none_right_eq_some.mp h
    rw [← Option.some.inj hscript]
    exact .inl (.appended hfree)
  | insert container sent =>
    obtain ⟨hfree, hinsert⟩ := Option.ite_none_right_eq_some.mp h
    obtain ⟨place, b, hreceives, rfl⟩ := Script.insert_eq_some_iff.mp hinsert
    exact .inl (.inserted hfree hreceives.1.fills)
  | remove block =>
    obtain ⟨c, -, rfl, hids⟩ := Script.remove_ids hnodup h
    have hown : c.id ∈ Script.ids [c] := by simp [Script.ids_cons]
    have hthere : c.id ∈ script.ids := Script.remove_isSome_iff.mp (Option.isSome_iff_exists.mpr ⟨_, h⟩)
    exact .inr ⟨c.id, rfl, c.id, hthere, fun hin => ((hids c.id).mp hin).2 hown⟩

/-- What an intent makes of an actor: its script grows, or a block was to be taken out
and is gone. -/
def Actor.Reworked (i : Intent) (a a' : Actor) : Prop :=
  a.id = a'.id ∧
    (a.script.Grows a'.script ∨ (∃ block, i = .removeBlock a.id block) ∧
     ∃ id ∈ a.script.ids, id ∉ a'.script.ids)

theorem Actor.reworked_self (i : Intent) (a : Actor) : Reworked i a a := ⟨rfl, .inl (.reshaped rfl)⟩

namespace Stage

variable {rules : StageRules} {s t : Stage} {i : Intent}

theorem scriptEdit_scripts (h : s.WellFormed) {actor : String} {e : ScriptEdit}
    (hs : (s.reduce rules (e.intent actor)).1 = some t) {a' : Actor} (ha' : a' ∈ t.actors) :
    ∃ a ∈ s.actors, Actor.Reworked (e.intent actor) a a' := by
  rw [reduce_scriptEdit] at hs
  obtain ⟨a, ha, hscript⟩ := Option.bind_eq_some_iff.mp hs
  obtain ⟨script, hresult, rfl⟩ := Option.map_eq_some_iff.mp hscript
  obtain ⟨b, hb, rfl⟩ := List.mem_map.mp ha'
  obtain ⟨hmem, rfl⟩ := actor?_mem ha
  by_cases hid : b.id = a.id
  · rw [if_pos hid]
    refine ⟨a, hmem, rfl, ?_⟩
    rcases ScriptEdit.result_grows (h.blockIds a hmem) hresult with hgrows | ⟨block, rfl, hlost⟩
    · exact .inl hgrows
    · exact .inr ⟨⟨block, rfl⟩, hlost⟩
  · rw [if_neg hid]
    exact ⟨b, hb, Actor.reworked_self _ b⟩

/-- The actors of a stage after an intent: someone may have joined, and the scripts of the others
have grown, unless the intent takes a block out. -/
theorem reduce_scripts (h : s.WellFormed) (hs : (s.reduce rules i).1 = some t) {a' : Actor}
    (ha' : a' ∈ t.actors) :
    (a'.id ∉ s.ids ∧ Session.inFrames i = false) ∨ ∃ a ∈ s.actors, Actor.Reworked i a a' := by
  have hdistinct : s.Distinct := ⟨h.actorIds, h.blockIds⟩
  have hshapes : t.shapes = s.shapes → ∃ a ∈ s.actors, Actor.Reworked i a a' := by
    intro hsame
    obtain ⟨a, ha, hid, hskel⟩ := exists_of_shapes hsame ha'
    exact ⟨a, ha, hid, .inl (.reshaped hskel.symm)⟩
  have hkept : a' ∈ s.actors → ∃ a ∈ s.actors, Actor.Reworked i a a' :=
    fun hold => ⟨a', hold, Actor.reworked_self i a'⟩
  cases i with
  | addActor kind x y =>
    cases reduce_change hs with
    | joined hnew =>
      rcases List.mem_append.mp ha' with hold | hjoined
      · exact .inr (hkept hold)
      · rw [List.mem_singleton.mp hjoined]
        exact .inl ⟨hnew, rfl⟩
    | edited hi => cases hi
  | removeActor id =>
    cases reduce_change hs with
    | gone hold => exact .inr (hkept (List.mem_of_mem_filter ha'))
    | edited hi => cases hi
  | addBlock id b => exact .inr (scriptEdit_scripts (e := .append b) h hs ha')
  | addBlockTo id c b => exact .inr (scriptEdit_scripts (e := .insert c b) h hs ha')
  | removeBlock id b => exact .inr (scriptEdit_scripts (e := .remove b) h hs ha')
  | updateActor id p => exact .inr (hshapes (updateActor_keeps hdistinct hs).1)
  | handleCollision first second => exact .inr (hshapes (handleCollision_keeps hdistinct hs).1)
  | _ => exact .inr (hkept (reduce_actors rfl hs ▸ ha'))

end Stage

end ScriptedStage
