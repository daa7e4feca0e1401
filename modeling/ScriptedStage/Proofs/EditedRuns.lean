import ScriptedStage.Proofs.LoopBounds
import ScriptedStage.Proofs.ScheduledFrames

/-!
Runs whose scripts are edited on the way. An edit leaves the pointers and the progress of the loops
as they are. An actor whose pointer is still within its script takes part, with a bound on the
frames that it needs, so its run comes to an end. An actor whose script has been cut off at its
pointer or before is passed over as if it had finished in an earlier frame, but it has not finished
and never will; where all actors that could take part are such, no frame ends the run.

What is proved, over all histories in which no frame of the run has failed:
  1. `lasting_orderly`: between operations every actor has a state, with a pointer and
     loops that make sense;
  2. `tick_lowers`, `tick_idles`: a round ends the run or lowers the bound of an actor that takes
     part; where no actor takes part it leaves it at that;
  3. `edited_run_ends_iff`: a run ends if an actor takes part, and never does otherwise;
  4. `cut_off_run_goes_on`: a run that an edit has left without an end.
-/
namespace ScriptedStage

open Block

/-! ## The turn of an actor -/

/-- A state with a pointer and loops that make sense for some script. -/
structure Execution.Orderly (e : Execution) : Prop where
  pointer : 0 ≤ e.pointer
  loops : Sound e.loops

/-- A bound on the frames that a script still needs. -/
def Execution.ahead (e : Execution) (script : Script) : Nat := aheadNth e.loops script e.pointer.toNat

theorem Execution.initial_orderly (script : Script) : (Execution.initial script).Orderly := by
  refine ⟨?_, sound_nil⟩
  unfold initial
  simp only
  split <;> decide

theorem Execution.rewound_orderly (e : Execution) : e.rewound.Orderly := by
  refine ⟨?_, sound_nil⟩
  unfold rewound startPointer
  simp only
  split <;> decide

namespace Round

variable {i : Interpreter} {a : Actor} {e : Execution} {b : Block} {step : StepResult} {states : Executions}

/-- The block at the pointer is there for an actor that can run and has not come to
the end of its script. -/
theorem nextBlock?_eq_some :
    nextBlock? a states = some (e, b) ↔ states.get? a.id = some e ∧ e.eligible = true ∧
      1 < a.script.length ∧
      e.pointer < a.script.length ∧ a.script[e.pointer.toNat]? = some b := by
  unfold nextBlock?
  cases he : states.get? a.id with
  | none => simp
  | some e' =>
    simp only [Option.some.injEq]
    split
    · rename_i hout
      simp only [reduceCtorEq, false_iff]
      rintro ⟨rfl, helig, hlong, hlt, -⟩
      simp only [helig, Bool.not_true, Bool.false_or, Bool.or_eq_true, decide_eq_true_eq] at hout
      omega
    · rename_i hin
      simp only [Bool.or_eq_true, Bool.not_eq_true', decide_eq_true_eq, not_or, Bool.not_eq_false] at hin
      rw [Option.map_eq_some_iff]
      constructor
      · rintro ⟨c, hc, hpair⟩
        cases hpair
        exact ⟨rfl, hin.1.1, by omega, by omega, hc⟩
      · rintro ⟨rfl, -, -, -, hb⟩
        exact ⟨b, hb, rfl⟩

/-- What the turn of an actor keeps, and lowers unless it is the last. -/
structure Lowers (a : Actor) (e e' : Execution) (last : Bool) : Prop where
  orderly : e'.Orderly
  eligible : e'.eligible = e.eligible
  pointer : last = false → e'.pointer < a.script.length
  ahead : last = false → e'.ahead a.script < e.ahead a.script

theorem turn_lowers (hi : i.behaviours = builtInBehaviours) (hnodup : a.script.ids.Nodup) (he : e.Orderly)
    (hnext : nextBlock? a states = some (e, b)) (hstep : i.execute a e b = .ok step) :
    Lowers a e (stateAfter a e.pointer step) (finishes a e.pointer step) := by
  obtain ⟨-, -, -, hlt, hget⟩ := nextBlock?_eq_some.mp hnext
  have hpos := he.pointer
  obtain ⟨before, after, hscript, hlen⟩ :
      ∃ before after, a.script = before ++ b :: after ∧ before.length = e.pointer.toNat := by
    obtain ⟨hin, rfl⟩ := List.getElem?_eq_some_iff.mp hget
    exact ⟨a.script.take e.pointer.toNat, a.script.drop (e.pointer.toNat + 1), by simp, by simp; omega⟩
  have hrepeats : (repeatIdsAll a.script).Nodup := hnodup.sublist (repeatIdsAll_sublist _)
  have hmem : b ∈ a.script := by rw [hscript]; simp
  have hcall := Interpreter.lowers (Interpreter.regular_of_builtIn hi)
    (hrepeats.sublist (repeatIds_sublist_of_mem hmem)) he.loops hstep
  -- the blocks behind `b` do not see what the call writes
  have hafter : longestAll step.state.loops after = longestAll e.loops after := by
    rw [hscript, repeatIdsAll_append, repeatIdsAll_cons, List.nodup_append, List.nodup_append] at hrepeats
    obtain ⟨-, ⟨-, -, hba⟩, -⟩ := hrepeats
    exact longestAll_congr fun id hid => Assoc.get?_congr_outside hcall.outside fun hin =>
      hba id hin id hid rfl
  have hstate := hcall.state
  have hpointer : step.state.pointer = e.pointer := by rw [hstate]
  have heligible : step.state.eligible = e.eligible := by rw [hstate]
  have hnow : e.ahead a.script = 1 + Block.ahead e.loops b + longestAll e.loops after := by
    rw [Execution.ahead, hscript, ← hlen, aheadNth_at]
  unfold stateAfter finishes
  cases hadvance : step.advance with
  | false =>
    refine ⟨⟨by simp [hpointer, hpos], hcall.sound⟩, heligible,
      fun _ => by simpa [hpointer] using hlt, fun _ => ?_⟩
    have hless := hcall.ahead hadvance
    show aheadNth step.state.loops a.script step.state.pointer.toNat < _
    rw [hnow, hpointer, hscript, ← hlen, aheadNth_at, hafter]
    omega
  | true =>
    simp only [if_true, Bool.true_and]
    split
    · rename_i hend
      exact ⟨Execution.rewound_orderly _, heligible, fun hlast => by simp [hend] at hlast,
        fun hlast => by simp [hend] at hlast⟩
    · rename_i hmore
      refine ⟨⟨by show 0 ≤ e.pointer + 1; omega, hcall.sound⟩, heligible, fun _ => ?_, fun _ => ?_⟩
      · show e.pointer + 1 < _
        omega
      · show aheadNth step.state.loops a.script (e.pointer + 1).toNat < _
        have hnext : (e.pointer + 1).toNat = (before ++ [b]).length := by
          rw [List.length_append, hlen, List.length_singleton]
          omega
        have hrest := aheadNth_le hcall.sound after 0
        rw [hnow, hscript, List.append_cons, hnext, aheadNth_append]
        omega

end Round

/-! ## States between operations -/

namespace Executions

/-- The entries of a table that is filled from a roster. -/
theorem get?_foldl_cases (f : Actor → Execution) (actors : List Actor) (t : Executions) {id : String}
    {e : Execution} (h : (actors.foldl (fun t a => t.set a.id (f a)) t).get? id = some e) :
    (∃ a ∈ actors, e = f a) ∨ t.get? id = some e := by
  induction actors generalizing t with
  | nil => exact .inr h
  | cons a actors ih =>
    rcases ih _ h with ⟨b, hb, rfl⟩ | hget
    · exact .inl ⟨b, List.mem_cons_of_mem a hb, rfl⟩
    · by_cases hid : id = a.id
      · rw [hid, Assoc.get?_set_self] at hget
        exact .inl ⟨a, List.mem_cons_self, (Option.some.inj hget).symm⟩
      · rw [Assoc.get?_set_ne _ _ hid] at hget
        exact .inr hget

/-- The states of a roster: everyone has one, which knows whether the script can run, no one else
does, and all are in order. -/
structure Fit (states : Executions) (actors : List Actor) : Prop where
  mirrored : ∀ a ∈ actors, ∃ e, states.get? a.id = some e ∧ e.eligible = a.script.isEligible
  others : ∀ id ∉ actors.map (·.id), states.get? id = none
  orderly : ∀ id e, states.get? id = some e → e.Orderly

theorem fit_rewind {actors : List Actor} (hnodup : (actors.map (·.id)).Nodup) :
    Fit (rewind actors) actors := by
  refine ⟨fun a ha => ⟨_, get?_foldl_set _ _ [] hnodup ha, rfl⟩, fun id hid => get?_foldl_other _ _ [] hid,
    fun id e he => ?_⟩
  rcases get?_foldl_cases _ actors [] he with ⟨a, -, rfl⟩ | hnil
  · exact Execution.initial_orderly a.script
  · cases hnil

theorem fit_reconcile {previous : Executions} (h : ∀ id e, previous.get? id = some e → e.Orderly)
    {actors : List Actor} (hnodup : (actors.map (·.id)).Nodup) :
    Fit (previous.reconcile actors) actors := by
  refine ⟨fun a ha => ⟨_, get?_foldl_set _ _ [] hnodup ha, ?_⟩, fun id hid => get?_foldl_other _ _ [] hid,
    fun id e he => ?_⟩
  · split <;> rfl
  · rcases get?_foldl_cases _ actors [] he with ⟨a, -, rfl⟩ | hnil
    · split
      · exact Execution.initial_orderly a.script
      · rename_i e' he'
        exact ⟨(h a.id e' he').pointer, (h a.id e' he').loops⟩
    · cases hnil

/-- A round leaves the states in order. -/
theorem Fit.round {i : Interpreter} {actors : List Actor} {states : Executions} {r : Round}
    (h : Fit states actors) (hi : i.behaviours = builtInBehaviours) (hnodup : (actors.map (·.id)).Nodup)
    (hblocks : ∀ a ∈ actors, a.script.ids.Nodup) (hr : (Round.play i actors states).2 = .ok r) :
    Fit r.states actors := by
  have hextends := Round.play_ok hnodup hr
  have hturn : ∀ a ∈ actors, ∃ e e', states.get? a.id = some e ∧ r.states.get? a.id = some e' ∧ e'.Orderly ∧
      e'.eligible = e.eligible := by
    intro a ha
    obtain ⟨e, he, -⟩ := h.mirrored a ha
    rw [hextends.states a ha]
    cases hnext : Round.nextBlock? a states with
    | none => exact ⟨e, e, he, by rw [Round.taken_of_none hnext]; exact he, h.orderly a.id e he, rfl⟩
    | some p =>
      obtain ⟨e', b⟩ := p
      obtain rfl : e = e' := Option.some.inj (he.symm.trans (Round.nextBlock?_eq_some.mp hnext).1)
      obtain ⟨step, hstep⟩ := hextends.steps a ha e b hnext
      have hlowers := Round.turn_lowers hi (hblocks a ha) (h.orderly a.id e he) hnext hstep
      exact ⟨e, _, he, by rw [Round.taken_of_some hnext hstep]; rfl, hlowers.orderly, hlowers.eligible⟩
  refine ⟨fun a ha => ?_, fun id hid => (hextends.others id hid).trans (h.others id hid), fun id e he => ?_⟩
  · obtain ⟨e, he, helig⟩ := h.mirrored a ha
    obtain ⟨e₁, e', he₁, he', -, hsame⟩ := hturn a ha
    obtain rfl : e = e₁ := Option.some.inj (he.symm.trans he₁)
    exact ⟨e', he', hsame.trans helig⟩
  · by_cases hid : id ∈ actors.map (·.id)
    · obtain ⟨a, ha, rfl⟩ := List.mem_map.mp hid
      obtain ⟨-, e', -, he', horderly, -⟩ := hturn a ha
      obtain rfl : e = e' := Option.some.inj (he.symm.trans he')
      exact horderly
    · rw [hextends.others id hid] at he
      exact h.orderly id e he

end Executions

namespace Session

variable {s s' t : Session}

/-- An open session between operations, however they ended. -/
structure Orderly (s : Session) : Prop where
  wellFormed : s.stage.WellFormed
  following : s.following = true
  behaviours : s.interpreter.behaviours = builtInBehaviours
  states : s.executions.Fit s.stage.actors

theorem Orderly.tidy (h : s.Orderly) : s.Tidy :=
  ⟨⟨h.wellFormed.actorIds, h.wellFormed.blockIds⟩, h.states.mirrored⟩

/-- Intents keep a stage well formed. -/
theorem Follows.wellFormed {i : Intent} (h : s.stage.WellFormed) (hf : Follows s i t) :
    t.stage.WellFormed := by
  cases hf with
  | nothing => exact h
  | alone hclosed hafter => exact h.reduce hafter
  | edited hfollow hafter hrun => exact h.reduce hafter
  | started | stopped => exact ⟨h.actorIds, h.selection, h.blockIds, h.children⟩

theorem Orderly.follows {i : Intent} (hf : Follows s i t) (h : s.Orderly) : t.Orderly := by
  have hwf := hf.wellFormed h.wellFormed
  cases hf with
  | nothing => exact h
  | alone hclosed hafter =>
    rw [h.following] at hclosed
    cases hclosed
  | edited hfollow hafter hrun =>
    refine ⟨hwf, h.following, h.behaviours, ?_⟩
    cases htouch : touchesActors i with
    | true => exact Executions.fit_reconcile h.states.orderly hwf.actorIds
    | false =>
      have hsame := Stage.reduce_actors htouch hafter
      exact ⟨fun a ha => h.states.mirrored a (hsame ▸ ha), fun id hid => h.states.others id (hsame ▸ hid),
        h.states.orderly⟩
  | started hfollow hrun =>
    exact ⟨hwf, h.following, h.behaviours, Executions.fit_rewind h.wellFormed.actorIds⟩
  | stopped hfollow hrun => exact ⟨hwf, h.following, h.behaviours, h.states⟩

/-- The intents of a frame change the positions and the numbers in the scripts only. -/
theorem Follows.shapes {i : Intent} (h : s.Orderly) (hi : inFrames i = true) (hf : Follows s i t) :
    t.stage.shapes = s.stage.shapes := by
  cases hf with
  | nothing => rfl
  | alone hclosed hafter =>
    rw [h.following] at hclosed
    cases hclosed
  | edited hfollow hafter hrun =>
    cases i with
    | updateActor id patch => exact (Stage.updateActor_keeps h.tidy.distinct hafter).1
    | handleCollision first second => exact (Stage.handleCollision_keeps h.tidy.distinct hafter).1
    | stopRun =>
      simp only [Stage.shapes]
      rw [Stage.reduce_actors rfl hafter]
    | _ => cases hi
  | started hfollow hrest => cases hi
  | stopped hfollow hrun => rfl

theorem lasting_orderly : Lasting Orderly where
  blind s t ht hs := by
    obtain ⟨j, r, f, handled, ticks, history, -, -, rfl⟩ := ht
    exact ⟨hs.wellFormed, hs.following, hs.behaviours, hs.states⟩
  hosted s _ _ hs := ⟨hs.wellFormed, hs.following, hs.behaviours, hs.states⟩
  intent s t i hf hs := hs.follows hf
  look s _ _ _ _ hs := ⟨hs.wellFormed, hs.following, hs.behaviours, hs.states⟩
  played s r hs _ hr := ⟨hs.wellFormed, hs.following, hs.behaviours,
    hs.states.round hs.behaviours hs.wellFormed.actorIds hs.wellFormed.blockIds hr⟩

theorem create_orderly {o : SessionOptions} (h : o.initial.WellFormed) : (create o).Orderly := by
  obtain ⟨j, -, heq⟩ := create_begins o
  rw [heq]
  cases hrun : o.initial.running with
  | false =>
    have hfit : (Executions.reconcile [] o.initial.actors).Fit o.initial.actors :=
      Executions.fit_reconcile (fun _ _ he => by cases he) h.actorIds
    exact ⟨h, rfl, rfl, hfit⟩
  | true => exact ⟨h, rfl, rfl, Executions.fit_rewind h.actorIds⟩

/-- Whether a run is on or not, the states of a new session are filled in from the scripts. -/
theorem create_executions {o : SessionOptions} (h : o.initial.WellFormed) {a : Actor}
    (ha : a ∈ o.initial.actors) :
    (create o).executions.get? a.id = some (.initial a.script) := by
  obtain ⟨j, -, heq⟩ := create_begins o
  rw [heq]
  split
  · exact Executions.get?_foldl_set _ _ [] h.actorIds ha
  · exact Executions.get?_foldl_set _ _ [] h.actorIds ha

/-! ## Frames of an edited run -/

/-- An actor takes part in the rounds that come: its script can run, and its pointer
is within it. -/
def TakesPart (s : Session) (a : Actor) : Prop :=
  a.script.Runnable ∧ ∃ e, s.executions.get? a.id = some e ∧ e.pointer < a.script.length

instance (s : Session) (a : Actor) : Decidable (s.TakesPart a) :=
  decidable_of_iff
    (a.script.Runnable ∧
      (s.executions.get? a.id).any (fun e => decide (e.pointer < (a.script.length : Int))) = true)
    (and_congr_right fun _ => by cases s.executions.get? a.id <;> simp)

/-- A bound on the frames that an actor still needs. -/
def ahead (s : Session) (a : Actor) : Nat := ((s.executions.get? a.id).map (·.ahead a.script)).getD 0

/-- An actor takes part exactly if it has a block to run next. -/
theorem Orderly.takesPart_iff (h : s.Orderly) {a : Actor} (ha : a ∈ s.stage.actors) :
    s.TakesPart a ↔ ∃ e b, Round.nextBlock? a s.executions = some (e, b) := by
  obtain ⟨e, he, helig⟩ := h.states.mirrored a ha
  have hpos := (h.states.orderly a.id e he).pointer
  constructor
  · rintro ⟨hrun, e', he', hlt⟩
    obtain rfl : e = e' := Option.some.inj (he.symm.trans he')
    have hin : e.pointer.toNat < a.script.length := by omega
    exact ⟨e, a.script[e.pointer.toNat], Round.nextBlock?_eq_some.mpr
      ⟨he, helig.trans hrun.1, hrun.2, hlt, List.getElem?_eq_getElem hin⟩⟩
  · rintro ⟨e', b, hnext⟩
    obtain ⟨he', helig', hlong, hlt, -⟩ := Round.nextBlock?_eq_some.mp hnext
    obtain rfl : e = e' := Option.some.inj (he.symm.trans he')
    exact ⟨⟨helig.symm.trans helig', hlong⟩, e, he, hlt⟩

/-- Counterparts with the same state take part alike. -/
theorem TakesPart.congr {a b : Actor} (hid : b.id = a.id)
    (hskel : skeletonAll b.script = skeletonAll a.script)
    (hget : t.executions.get? a.id = s.executions.get? a.id) :
    (t.TakesPart b ↔ s.TakesPart a) ∧ t.ahead b = s.ahead a := by
  have hlen : b.script.length = a.script.length := by rw [← length_skeletonAll, hskel, length_skeletonAll]
  constructor
  · rw [TakesPart, TakesPart, Script.runnable_congr hskel, hid, hget, hlen]
  · rw [ahead, ahead, hid, hget]
    cases s.executions.get? a.id with
    | none => rfl
    | some e => exact aheadNth_congr_shape hskel _

/-- How a round of an orderly session comes to its end. -/
theorem Orderly.tick_parts (h : s.Orderly) (hrun : s.stage.running = true) {u : Unit}
    (ht : tick s = (s', .ok u)) :
    ∃ (r : Round) (j : Journal) (s₅ : Session),
      (Round.play s.interpreter s.stage.actors s.executions).2 = .ok r ∧
      Round.Extends s.interpreter s.stage.actors { states := s.executions } r ∧
      Undisturbed (s.afterRound r j) s₅ ∧ Ends r.completed s₅ s' := by
  obtain ⟨r, j, s₃, s₄, s₅, events, -, hr, hdeltas, hwatch, hemit, hends⟩ := Session.tick_parts hrun ht
  have hfit := h.states.round h.behaviours h.wellFormed.actorIds h.wellFormed.blockIds hr
  have htidy : (s.afterRound r j).Tidy := ⟨h.tidy.distinct, hfit.mirrored⟩
  have hu₃ := Calm.applyDeltas _ htidy hdeltas
  have hu₄ := hu₃.trans (Calm.watch (htidy.of_undisturbed hu₃) hwatch)
  have hu := hu₄.trans (Calm.emit _ _ (htidy.of_undisturbed hu₄) hemit)
  exact ⟨r, j, s₅, hr, Round.play_ok h.wellFormed.actorIds hr, hu, hends⟩

/-- A round ends the run or lowers what is ahead of an actor that takes part. -/
theorem tick_lowers (h : s.Orderly) (hrun : s.stage.running = true) {a : Actor} (ha : a ∈ s.stage.actors)
    (hon : s.TakesPart a) {u : Unit} (ht : tick s = (s', .ok u)) :
    s'.stage.running = false ∨
      s'.stage.running = true ∧ ∃ a' ∈ s'.stage.actors, s'.TakesPart a' ∧ s'.ahead a' < s.ahead a := by
  obtain ⟨r, j, s₅, hr, hextends, hu, hends⟩ := h.tick_parts hrun ht
  obtain ⟨e, b, hnext⟩ := (h.takesPart_iff ha).mp hon
  obtain ⟨step, hstep⟩ := hextends.steps a ha e b hnext
  obtain ⟨he, -⟩ := Round.nextBlock?_eq_some.mp hnext
  have htaken := Round.taken_of_some hnext hstep
  have hturn :=
    Round.turn_lowers h.behaviours (h.wellFormed.blockIds a ha)
    (h.states.orderly a.id e he) hnext hstep
  unfold Ends at hends
  by_cases hc : r.completed = []
  · right
    -- the actor has not finished, or the round would have completed a script
    have hlast : Round.finishes a e.pointer step = false := by
      have hnone := hextends.completed
      rw [hc, List.nil_append, eq_comm, List.map_eq_nil_iff, List.filter_eq_nil_iff] at hnone
      have := hnone a ha
      simpa [Round.endsBy, htaken] using this
    have hrunning : s₅.stage.running = true := hu.running.trans hrun
    simp only [hc, List.isEmpty_nil, if_true, hrunning, requestFrame_eq] at hends
    obtain rfl := congrArg Prod.fst hends
    refine ⟨hrunning, ?_⟩
    obtain ⟨a', ha', hid, hskel⟩ := Stage.exists_of_shapes hu.shapes.symm ha
    have hget : (s.afterRound r j).executions.get? a.id = some (Round.stateAfter a e.pointer step) := by
      show r.states.get? a.id = _
      rw [hextends.states a ha, htaken]
      rfl
    have hget₅ : s₅.asking.executions.get? a.id = (s.afterRound r j).executions.get? a.id :=
      hu.executions a.id (List.mem_map_of_mem ha)
    obtain ⟨hiff, hsame⟩ := TakesPart.congr hid hskel hget₅
    refine ⟨a', ha', hiff.mpr ⟨hon.1, _, hget, hturn.pointer hlast⟩, ?_⟩
    have hless := hturn.ahead hlast
    rw [hsame]
    simpa only [ahead, hget, he, Option.map_some, Option.getD_some] using hless
  · left
    rw [if_neg (by simpa using hc)] at hends
    obtain ⟨new, hstop⟩ := hends
    exact stop_rests hstop

/-- Where no actor takes part, a round leaves it at that. -/
theorem tick_idles (h : s.Orderly) (hrun : s.stage.running = true)
    (hnone : ∀ a ∈ s.stage.actors, ¬s.TakesPart a) {u : Unit} (ht : tick s = (s', .ok u)) :
    s'.stage.running = true ∧ ∀ a ∈ s'.stage.actors, ¬s'.TakesPart a := by
  obtain ⟨r, j, s₅, hr, hextends, hu, hends⟩ := h.tick_parts hrun ht
  have htaken : ∀ a ∈ s.stage.actors, Round.taken s.interpreter s.executions a = none := by
    intro a ha
    refine Round.taken_of_none (Option.eq_none_iff_forall_ne_some.mpr fun p hp => ?_)
    exact hnone a ha ((h.takesPart_iff ha).mpr ⟨p.1, p.2, hp⟩)
  have hc : r.completed = [] := by
    rw [hextends.completed, List.nil_append, List.map_eq_nil_iff, List.filter_eq_nil_iff]
    intro a ha
    simp [Round.endsBy, htaken a ha]
  have hrunning : s₅.stage.running = true := hu.running.trans hrun
  unfold Ends at hends
  simp only [hc, List.isEmpty_nil, if_true, hrunning, requestFrame_eq] at hends
  obtain rfl := congrArg Prod.fst hends
  refine ⟨hrunning, fun a' ha' hon' => ?_⟩
  obtain ⟨a, ha, hid, hskel⟩ := Stage.exists_of_shapes hu.shapes ha'
  have hget : s₅.asking.executions.get? a.id = s.executions.get? a.id := by
    refine (hu.executions a.id (List.mem_map_of_mem ha)).trans ?_
    show r.states.get? a.id = _
    rw [hextends.states a ha, htaken a ha]
    rfl
  exact hnone a ha ((TakesPart.congr hid.symm hskel.symm hget).1.mp hon')

/-- A frame of a run that is not stranded is one round. -/
theorem frame_round {caller : String} {b : Bool} (hs : Attended s) (h : s.Orderly)
    (hrun : s.stage.running = true) (hf : frame caller s = (s', .ok b)) :
    b = true ∧ Attended s' ∧ s'.Orderly ∧
      ∃ s₀ s₁, s₀.Orderly ∧ s₀.stage = s.stage ∧ s₀.executions = s.executions ∧ tick s₀ = (s₁, .ok ()) ∧
        s'.stage = s₁.stage ∧ s'.executions = s₁.executions := by
  have hattended := (frame_attends caller hs).1 s' b hf
  have horderly := (lasting_orderly.frame caller h).1 s' b hf
  obtain ⟨host, n, hhost, hpending⟩ := HostWaits.of_scheduled hs.scheduled (hs.waits h.following hrun)
  obtain ⟨rfl, s₁, htick, rfl⟩ := frame_parts hhost hpending hf
  have h₀ : Orderly { s with host := .manual { host with pending := [] } } :=
    lasting_orderly.hosted (s := s) _ s.awaited h
  exact ⟨rfl, hattended, horderly, _, s₁, h₀, rfl, rfl, htick, rfl, rfl⟩

theorem TakesPart.of_eq {a : Actor} (h : t.executions = s.executions) :
    (t.TakesPart a ↔ s.TakesPart a) ∧ t.ahead a = s.ahead a := by
  simp only [TakesPart, ahead, h, and_self]

theorem ahead_pos (h : s.Orderly) {a : Actor} (hpart : s.TakesPart a) : 0 < s.ahead a := by
  obtain ⟨-, e, he, hlt⟩ := hpart
  have hpos := (h.states.orderly a.id e he).pointer
  simp only [ahead, he, Option.map_some, Option.getD_some]
  exact aheadNth_pos (by omega)

/-- Frames end a run in which an actor takes part, within its bound. -/
theorem frames_end {caller : String} {k n : Nat} (hs : Attended s) (h : s.Orderly)
    (hrun : s.stage.running = true) {a : Actor} (ha : a ∈ s.stage.actors) (hpart : s.TakesPart a)
    (hk : s.ahead a ≤ k) (hf : frames caller k s = (s', .ok n)) : s'.stage.running = false := by
  induction k generalizing s a n with
  | zero =>
    have := ahead_pos h hpart
    omega
  | succ k ih =>
    obtain ⟨s₁, b, hframe, hrest⟩ := frames_succ hf
    obtain ⟨rfl, hs₁, h₁, s₀, t₁, h₀, hstage₀, hexec₀, htick, hstage₁, hexec₁⟩ :=
      frame_round hs h hrun hframe
    obtain ⟨m, hrest, -⟩ := hrest
    have hpart₀ := TakesPart.of_eq (a := a) hexec₀
    rcases tick_lowers h₀ (hstage₀ ▸ hrun) (hstage₀ ▸ ha) (hpart₀.1.mpr hpart) htick with
      hover | ⟨hon, a', ha', hpart', hless⟩
    · -- the run is over, and no frame waits any more
      have hrest₁ : s₁.stage.running = false := hstage₁ ▸ hover
      have hnone : s₁.awaited = none := by
        rw [← Option.not_isSome_iff_eq_none]
        intro hsome
        rw [(hs₁.scheduled.running hsome).1] at hrest₁
        cases hrest₁
      rw [frames_of_idle (.of_scheduled hs₁.scheduled hnone)] at hrest
      obtain rfl := congrArg Prod.fst hrest
      exact hrest₁
    · have hpart₁ := TakesPart.of_eq (a := a') hexec₁
      refine ih hs₁ h₁ (hstage₁ ▸ hon) (hstage₁ ▸ ha') (hpart₁.1.mpr hpart') ?_ hrest
      rw [hpart₁.2]
      rw [hpart₀.2] at hless
      omega

theorem frames_idle {caller : String} {k n : Nat} (hs : Attended s) (h : s.Orderly)
    (hrun : s.stage.running = true) (hnone : ∀ a ∈ s.stage.actors, ¬s.TakesPart a)
    (hf : frames caller k s = (s', .ok n)) :
    s'.stage.running = true := by
  induction k generalizing s n with
  | zero =>
    obtain ⟨rfl, -⟩ := Act.pure_ok.mp hf
    exact hrun
  | succ k ih =>
    obtain ⟨s₁, b, hframe, hrest⟩ := frames_succ hf
    obtain ⟨rfl, hs₁, h₁, s₀, t₁, h₀, hstage₀, hexec₀, htick, hstage₁, hexec₁⟩ :=
      frame_round hs h hrun hframe
    obtain ⟨m, hrest, -⟩ := hrest
    have hnone₀ : ∀ a ∈ s₀.stage.actors, ¬s₀.TakesPart a := fun a ha hpart =>
      hnone a (hstage₀ ▸ ha) ((TakesPart.of_eq hexec₀).1.mp hpart)
    obtain ⟨hon, hnone₁⟩ := tick_idles h₀ (hstage₀ ▸ hrun) hnone₀ htick
    refine ih hs₁ h₁ (hstage₁ ▸ hon) (fun a ha hpart => ?_) hrest
    exact hnone₁ a (hstage₁ ▸ ha) ((TakesPart.of_eq hexec₁).1.mp hpart)

/-! ## Histories with edits -/

/-- What is left of a history in which no frame of the run has failed: a run with its
next frame waiting. -/
theorem after_attended {o : SessionOptions} {h : FrameHost FrameRequest} (hhost : o.host = .manual h)
    (hpending : h.pending = []) {ops : List SessionOp} (hquiet : (create o).failedIn false ops = false) :
    Attended ((create o).after ops) := by
  have htracked := (Tracked.of_attended (create_attended hhost hpending)).after ops
  rw [hquiet] at htracked
  exact ⟨htracked.scheduled, htracked.waits⟩

/-- A session over a well-formed stage, after any history in which no frame of the run that is on
has failed: if an actor takes part, some number of frames, none of which fails, ends the run; if
none does, no number of them does. -/
theorem edited_run_ends_iff (o : SessionOptions) {h : FrameHost FrameRequest} (hhost : o.host = .manual h)
    (hpending : h.pending = []) (hinitial : o.initial.WellFormed) {ops : List SessionOp}
    (hopen : .close ∉ ops) (hquiet : (create o).failedIn false ops = false)
    (hrun : ((create o).after ops).stage.running = true) (caller : String) :
    ((∃ a ∈ ((create o).after ops).stage.actors, ((create o).after ops).TakesPart a) →
      ∃ k, ∀ s' n, frames caller k ((create o).after ops) = (s', .ok n) → s'.stage.running = false) ∧
    ((∀ a ∈ ((create o).after ops).stage.actors, ¬((create o).after ops).TakesPart a) →
      ∀ k s' n, frames caller k ((create o).after ops) = (s', .ok n) → s'.stage.running = true) := by
  have hattended := after_attended hhost hpending hquiet
  have horderly : ((create o).after ops).Orderly := lasting_orderly.after hopen (create_orderly hinitial)
  constructor
  · rintro ⟨a, ha, hpart⟩
    exact ⟨((create o).after ops).ahead a, fun s' n hf =>
      frames_end hattended horderly hrun ha hpart (Nat.le_refl _) hf⟩
  · intro hnone k s' n hf
    exact frames_idle hattended horderly hrun hnone hf

/-- A block as a document gives it. -/
def sentMove (id : String) : Value :=
  .record [("id", .str id), ("type", .str BlockType.moveSteps), ("values", .list [.int 10])]

/-- A script of two moves loses the second when the first has run. -/
def cutOffRun : List SessionOp :=
  [.addActor (.str "cat") (.float 0) (.float 0),
   .addBlock (.str "cat-1") (.record [("id", .str "f"), ("type", .str BlockType.flagClicked)]),
   .addBlock (.str "cat-1") (sentMove "m1"), .addBlock (.str "cat-1") (sentMove "m2"), .start, .step,
   .removeBlock (.str "cat-1") (.str "m2")]

/-- A run in which a script starts with a trigger and has something after it need not come to an
end: the pointer of this one is behind the script, and no number of frames ends the run. -/
theorem cut_off_run_goes_on :
    ((create {}).after cutOffRun).stage.running = true ∧
      (∃ a ∈ ((create {}).after cutOffRun).stage.actors, a.script.Runnable) ∧
      (frames "run" 50 ((create {}).after cutOffRun)).2.toOption = some 50 ∧
      ∀ k s' n, frames "run" k ((create {}).after cutOffRun) = (s', .ok n) → s'.stage.running = true := by
  have hrun : ((create {}).after cutOffRun).stage.running = true := by decide +kernel
  have hquiet : (create {}).failedIn false cutOffRun = false := by decide +kernel
  have hattended := after_attended (o := {}) rfl rfl hquiet
  have horderly : ((create {}).after cutOffRun).Orderly :=
    lasting_orderly.after (by simp [cutOffRun]) (create_orderly (by decide))
  refine ⟨hrun, by decide +kernel, by decide +kernel, fun k s' n hf => ?_⟩
  exact frames_idle hattended horderly hrun (by decide +kernel) hf

/-- The run that was cut off does not end; with a new block at the end of the script it does. -/
theorem edited_run_ends_iff_cutOffRun :
    (∀ k s' n, frames "run" k ((create {}).after cutOffRun) = (s', .ok n) → s'.stage.running = true) ∧
      ∃ k, ∀ s' n, frames "run" k ((create {}).after
        (cutOffRun ++ [.addBlock (.str "cat-1") (sentMove "m3")])) =
        (s', .ok n) → s'.stage.running = false := by
  constructor
  · refine (edited_run_ends_iff {} rfl rfl (by decide) (by simp [cutOffRun]) ?_ ?_ "run").2 ?_
    · decide +kernel
    · decide +kernel
    · decide +kernel
  · refine (edited_run_ends_iff {} rfl rfl (by decide) (by simp [cutOffRun]) ?_ ?_ "run").1 ?_
    · decide +kernel
    · decide +kernel
    · decide +kernel

end Session

end ScriptedStage
