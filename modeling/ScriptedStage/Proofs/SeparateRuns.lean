import ScriptedStage.Proofs.Frames

/-!
Runs without collisions. Each actor does what its own script says and nothing else: after a number
of frames it is what the first so many leaves of its unrolled script make of it, one after another.
Neither the other actors nor the order of the roster has a part in this, although all actors take
their steps from one stage and their changes go through one store.

What is proved:
  1. `applyDeltas_actors`: the changes of a round reach the actors that asked for
     them, and no others;
  2. `frame_actors`: a frame of a run without collisions runs one leaf for each actor
     that takes part;
  3. `runs_separately`: the actors after a number of frames of a run without collisions.
-/
namespace ScriptedStage

open Block

/-! ## What a leaf makes of an actor -/

namespace Actor

/-- An actor with a change put in as a patch; a change that is no patch is a fault. -/
def patched (a : Actor) (d : Delta) : Except Fault Actor :=
  ((ActorPatch.check (.record d)).mapError Fault.invalid).map (·.apply a)

/-- What a leaf makes of an actor. -/
def obey (i : Interpreter) (a : Actor) (leaf : Option Block) : Except Fault Actor := do
  let step ← i.executeSlot a {} leaf
  match Round.changeOf step with
  | some d => a.patched d
  | none => return a

/-- What the first leaves of its script make of an actor. An actor that takes no part in
runs stays as it is. -/
def afterLeaves (i : Interpreter) (count : Nat) (a : Actor) : Except Fault Actor :=
  if a.script.Runnable then ((unrollAll (a.script.drop 1)).take count).foldlM (obey i) a else .ok a

/-- What the changes of a round make of an actor. -/
def changedBy (deltas : Assoc Delta) (a : Actor) : Except Fault Actor :=
  match deltas.get? a.id with
  | some d => a.patched d
  | none => .ok a

/-- Only the change that a leaf asks for matters. -/
theorem obey_of_delta {i : Interpreter} {a : Actor} {leaf : Option Block} {step : StepResult}
    (h : (i.executeSlot a {} leaf).map (·.delta) = .ok step.delta) :
    a.obey i leaf = match Round.changeOf step with
      | some d => a.patched d
      | none => .ok a := by
  cases hslot : i.executeSlot a {} leaf with
  | error e => rw [hslot] at h; cases h
  | ok r =>
    rw [hslot] at h
    have hdelta : r.delta = step.delta := Except.ok.inj h
    have hchange : Round.changeOf r = Round.changeOf step := by simp only [Round.changeOf, hdelta]
    rw [obey, hslot, ← hchange]
    rfl

theorem patched_keeps {a b : Actor} {d : Delta} (h : a.patched d = .ok b) :
    b.id = a.id ∧ b.script = a.script := by
  unfold patched at h
  cases hc : ActorPatch.check (.record d) with
  | error issues => rw [hc] at h; cases h
  | ok patch =>
    rw [hc] at h
    obtain rfl := Except.ok.inj h
    exact ⟨rfl, rfl⟩

theorem changedBy_keeps {a b : Actor} {deltas : Assoc Delta} (h : a.changedBy deltas = .ok b) :
    b.id = a.id ∧ b.script = a.script := by
  unfold changedBy at h
  split at h
  · exact patched_keeps h
  · obtain rfl := Except.ok.inj h
    exact ⟨rfl, rfl⟩

end Actor

theorem ActorPatch.apply_of_isEmpty {p : ActorPatch} (h : p.isEmpty = true) (a : Actor) :
    p.apply a = a := by
  obtain ⟨_ | x, _ | y, _ | heading, _ | scale, _ | message⟩ := p <;> simp_all [isEmpty, updates, apply]

/-! ## The changes of a round -/

/-- A patch reaches the actor with the id, and no other. -/
theorem Stage.updateActor_actors {s : Stage} (h : s.Distinct) (id : String) (patch : ActorPatch) :
    ((s.updateActor id patch).1.getD s).actors =
      s.actors.map fun a => if a.id = id then patch.apply a else a := by
  unfold updateActor
  split
  · rename_i hempty
    simp [ActorPatch.apply_of_isEmpty hempty]
  · split
    · rename_i hnone
      refine (List.map_id _).symm.trans (List.map_congr_left fun a ha => ?_)
      have : a.id ≠ id := fun hid => by simpa [hid] using List.find?_eq_none.mp hnone a ha
      rw [if_neg this]
      rfl
    · rename_i a ha
      obtain ⟨hmem, rfl⟩ := actor?_mem ha
      refine List.map_congr_left fun b hb => ?_
      split
      · rename_i hid
        rw [h.eq_of_id hb hmem hid]
      · rfl

namespace Session

variable {s s' : Session}

/-- An intent that neither starts nor stops a run leaves the stage that it was applied
to, or as it was. -/
theorem dispatch_stage {i : Intent} {new : Option Stage} (h : dispatch i s = (s', .ok new))
    (htouch : touchesActors i = true)
    (hkeeps : ∀ after, (s.stage.reduce s.rules i).1 = some after → after.running = s.stage.running) :
    s'.stage = (s.stage.reduce s.rules i).1.getD s.stage := by
  obtain ⟨j, ⟨hnone, rfl⟩ | ⟨after, hafter, h⟩⟩ := dispatch_ok h
  · rw [hnone]
    rfl
  · rw [hafter, Option.getD_some]
    split at h
    · rw [follow_actors htouch (hkeeps after hafter), Prod.mk.injEq] at h
      rw [← h.1]
    · rw [h]

theorem dispatch_updateActor {id : String} {patch : ActorPatch} {new : Option Stage} (hs : s.Tidy)
    (h : dispatch (.updateActor id patch) s = (s', .ok new)) :
    s'.stage.actors = s.stage.actors.map fun a => if a.id = id then patch.apply a else a := by
  rw [dispatch_stage h rfl fun _ hafter => (Stage.updateActor_keeps hs.distinct hafter).2]
  exact Stage.updateActor_actors hs.distinct id patch

/-- The changes of a round reach the actors that asked for them, and no others. -/
theorem applyDeltas_actors {deltas : Assoc Delta} {u : Unit} (hs : s.Tidy) (hnodup : deltas.keys.Nodup)
    (h : applyDeltas deltas s = (s', .ok u)) :
    ∃ g : Actor → Actor, s'.stage.actors = s.stage.actors.map g ∧
      ∀ a ∈ s.stage.actors, a.changedBy deltas = .ok (g a) := by
  induction deltas generalizing s with
  | nil =>
    obtain ⟨rfl, -⟩ := Act.pure_ok.mp h
    exact ⟨id, (List.map_id _).symm, fun a _ => rfl⟩
  | cons entry deltas ih =>
    obtain ⟨actor, d⟩ := entry
    simp only [Assoc.keys, List.map_cons, List.nodup_cons] at hnodup
    unfold applyDeltas at h
    obtain ⟨s₀, patch, hread, h⟩ := Act.bind_ok.mp h
    obtain ⟨rfl, hpatch⟩ := Act.ofChecked_ok hread
    obtain ⟨s₀, id, hread, h⟩ := Act.bind_ok.mp h
    obtain ⟨rfl, hid⟩ := Act.ofChecked_ok hread
    obtain rfl := Schema.nonEmptyText_ok hid
    obtain ⟨s₁, new, hdispatch, h⟩ := Act.bind_ok.mp h
    have hs₁ := hs.of_undisturbed (Calm.updateActor _ _ hs hdispatch)
    have hactors := dispatch_updateActor hs hdispatch
    obtain ⟨g, hg, hchanged⟩ := ih hs₁ hnodup.2 h
    refine ⟨fun a => g (if a.id = actor then patch.apply a else a), ?_, fun a ha => ?_⟩
    · rw [hg, hactors, List.map_map]
      rfl
    · have hlater := hchanged (if a.id = actor then patch.apply a else a)
        (hactors ▸ List.mem_map_of_mem ha)
      by_cases hactor : a.id = actor
      · -- no later change is for this actor
        have hnone : Assoc.get? deltas a.id = none := by
          rw [Assoc.get?_eq_none]
          intro e he hkey
          exact hnodup.1 (hactor ▸ hkey ▸ List.mem_map_of_mem he)
        have hkeep : (patch.apply a).changedBy deltas = .ok (patch.apply a) := by
          rw [Actor.changedBy, show (patch.apply a).id = a.id from rfl, hnone]
        simp only [if_pos hactor] at hlater ⊢
        rw [← hlater, hkeep, Actor.changedBy, Assoc.get?, if_pos hactor.symm]
        simp only [Actor.patched, hpatch]
        rfl
      · simp only [if_neg hactor] at hlater ⊢
        rw [← hlater]
        simp only [Actor.changedBy, Assoc.get?, if_neg (Ne.symm hactor)]

/-! ## A frame without collisions -/

theorem changeBy_some {i : Interpreter} {states : Executions} {a : Actor} {entry : String × Delta}
    (h : Round.changeBy i states a = some entry) : entry.1 = a.id := by
  obtain ⟨t, -, hd⟩ := Option.bind_eq_some_iff.mp h
  obtain ⟨d, -, rfl⟩ := Option.map_eq_some_iff.mp hd
  rfl

theorem keys_changes (i : Interpreter) (states : Executions) (actors : List Actor) :
    (Assoc.keys (actors.filterMap (Round.changeBy i states))).Sublist (actors.map (·.id)) := by
  induction actors with
  | nil => exact .slnil
  | cons a actors ih =>
    cases hc : Round.changeBy i states a with
    | none =>
      rw [List.filterMap_cons_none hc]
      exact ih.cons _
    | some entry =>
      rw [List.filterMap_cons_some hc, List.map_cons, ← changeBy_some hc]
      exact ih.cons_cons _

/-- The change that a round holds for an actor is the one that the actor asked for. -/
theorem get?_changes {i : Interpreter} {states : Executions} {actors : List Actor}
    (hnodup : (actors.map (·.id)).Nodup) {a : Actor} (ha : a ∈ actors) :
    Assoc.get? (actors.filterMap (Round.changeBy i states)) a.id =
      (Round.changeBy i states a).map (·.2) := by
  induction actors with
  | nil => cases ha
  | cons b actors ih =>
    rw [List.map_cons, List.nodup_cons] at hnodup
    -- the changes of the other actors hold none for `b`
    have hfresh : Assoc.get? (actors.filterMap (Round.changeBy i states)) b.id = none := by
      rw [Assoc.get?_eq_none]
      intro e he hkey
      exact hnodup.1 ((keys_changes i states actors).subset (hkey ▸ List.mem_map_of_mem he))
    rcases List.mem_cons.mp ha with rfl | hmem
    · cases hc : Round.changeBy i states a with
      | none => rw [List.filterMap_cons_none hc, hfresh]; rfl
      | some entry =>
        rw [List.filterMap_cons_some hc, Assoc.get?, if_pos (changeBy_some hc)]
        rfl
    · have hne : b.id ≠ a.id := fun hid => hnodup.1 (hid ▸ List.mem_map_of_mem hmem)
      cases hc : Round.changeBy i states b with
      | none => rw [List.filterMap_cons_none hc, ih hnodup.2 hmem]
      | some entry =>
        rw [List.filterMap_cons_some hc, Assoc.get?, if_neg (by rwa [changeBy_some hc]), ih hnodup.2 hmem]

theorem emit_ok {source : String} {record : Record} {u : Unit} (h : emit source record s = (s', .ok u)) :
    ∃ r, s' = { s with recorder := r } := by
  unfold emit at h
  split at h
  · exact ⟨_, (congrArg Prod.fst h).symm⟩
  · exact ⟨s.recorder, (congrArg Prod.fst h).symm⟩

/-- A session that does not look for collisions goes on without. -/
theorem monitor_none (h : s'.monitor.isSome = s.monitor.isSome) (hm : s.monitor = none) :
    s'.monitor = none := by
  rw [hm, Option.isSome_none] at h
  exact Option.isNone_iff_eq_none.mp (Option.isSome_eq_false_iff.mp h)

theorem watch_of_none (h : s.monitor = none) : watch s = (s, .ok []) := by
  unfold watch
  rw [Act.read_bind, h]
  rfl

theorem Ends.actors {completed : List String} (h : Ends completed s s') (hrun : s.stage.running = true)
    (hfollow : s.following = true) (hawait : s.awaited = none) : s'.stage.actors = s.stage.actors := by
  unfold Ends at h
  split at h
  · rw [requestFrame_ok h hawait]
  · obtain ⟨new, hstop⟩ := h
    rw [(stop_ok hrun hfollow hawait hstop).1]

/-- Each actor that takes part has run the first leaf that was left for it, and the
others are as they were. -/
def OneLeafEach (s s' : Session) : Prop :=
  ∃ g : Actor → Actor, s'.stage.actors = s.stage.actors.map g ∧ ∀ a ∈ s.stage.actors,
    ((g a).id = a.id ∧ (g a).script = a.script) ∧
    (a.script.Runnable → ∃ leaf rest, s.left a = leaf :: rest ∧ a.obey s.interpreter leaf = .ok (g a)) ∧
    (¬a.script.Runnable → g a = a)

/-- A round of a run without collisions runs the first leaf that is left for each
actor that takes part. -/
theorem tick_actors {u : Unit} (h : s.Underway) (hm : s.monitor = none) (ht : tick s = (s', .ok u)) :
    OneLeafEach s s' := by
  obtain ⟨r, j, s₃, s₄, s₅, events, -, hr, hdeltas, hwatch, hemit, hends⟩ := tick_parts h.running ht
  have htidy := h.tidy_round hr j
  have hext := h.extends_round hr
  have hkeys : (Assoc.keys r.deltas).Nodup := by
    rw [hext.deltas]
    exact h.tidy.distinct.actorIds.sublist (keys_changes _ _ _)
  obtain ⟨g, hg, hchanged⟩ := applyDeltas_actors htidy hkeys hdeltas
  have hu := Calm.applyDeltas _ htidy hdeltas
  -- nothing happens to the actors after the changes
  have hsame : s'.stage.actors = s₃.stage.actors := by
    rw [watch_of_none (monitor_none hu.watching hm), Prod.mk.injEq] at hwatch
    obtain ⟨rfl, -⟩ := hwatch
    obtain ⟨recorder, rfl⟩ := emit_ok hemit
    rw [hends.actors (hu.running.trans h.running) (hu.following.trans h.following) hu.awaited]
  refine ⟨g, hsame.trans hg, fun a ha => ?_⟩
  have hga := hchanged a ha
  have hget : Assoc.get? r.deltas a.id = (Round.changeBy s.interpreter s.executions a).map (·.2) := by
    rw [hext.deltas]
    exact get?_changes h.tidy.distinct.actorIds ha
  refine ⟨Actor.changedBy_keeps hga, fun hrun => ?_, fun hrun => ?_⟩
  · obtain ⟨e, leaf, rest, step, he, hleft, hplain, htaken, hruns⟩ := h.turn hr ha hrun
    refine ⟨leaf, rest, by simp only [left, he, hleft], ?_⟩
    have hdelta := Interpreter.executeSlot_delta h.behaviours hplain a e {}
    rw [Actor.obey_of_delta (hdelta.trans hruns.delta), ← hga, Actor.changedBy, hget,
      Round.changeBy, htaken]
    cases hc : Round.changeOf step <;> simp [hc]
  · rw [Actor.changedBy, hget, Round.changeBy, h.idle ha hrun] at hga
    exact (Except.ok.inj hga).symm

/-- A frame of a run without collisions runs the first leaf that is left for each
actor that takes part. -/
theorem frame_actors {caller : String} {b : Bool} (h : s.Underway) (hw : s.HostWaits)
    (hm : s.monitor = none) (hf : frame caller s = (s', .ok b)) : OneLeafEach s s' := by
  obtain ⟨host, n, hhost, hpending⟩ := hw
  obtain ⟨-, s₁, htick, rfl⟩ := frame_parts hhost hpending hf
  exact (tick_actors (h.withHost (.manual { host with pending := [] })) hm htick :)

/-! ## Runs without collisions -/

/-- Frames of a run without collisions that all ran: each actor that takes part has run as
many of its leaves. -/
theorem frames_actors {caller : String} {k : Nat} (h : s.Underway) (hw : s.HostWaits)
    (hm : s.monitor = none) (hf : frames caller k s = (s', .ok k)) :
    ∃ g : Actor → Actor, s'.stage.actors = s.stage.actors.map g ∧ ∀ a ∈ s.stage.actors,
      (a.script.Runnable → ((s.left a).take k).foldlM (Actor.obey s.interpreter) a = .ok (g a)) ∧
      (¬a.script.Runnable → g a = a) := by
  induction k generalizing s with
  | zero =>
    obtain ⟨rfl, -⟩ := Act.pure_ok.mp hf
    exact ⟨id, (List.map_id _).symm, fun a _ => ⟨fun _ => rfl, fun _ => rfl⟩⟩
  | succ k ih =>
    obtain ⟨s₁, b, hframe, hrest⟩ := frames_succ hf
    obtain ⟨rfl, hcases⟩ := frame_underway h hw hframe
    obtain ⟨m, hrest, hmk⟩ := hrest
    obtain rfl : m = k := by omega
    obtain ⟨g, hg, hstep⟩ := frame_actors h hw hm hframe
    rcases hcases with ⟨-, -, hidle⟩ | ⟨-, hon, hw₁⟩
    · -- the run has ended, so there was only this frame
      rw [frames_of_idle hidle, Prod.mk.injEq] at hrest
      obtain ⟨rfl, hzero⟩ := hrest
      obtain rfl : 0 = m := Except.ok.inj hzero
      refine ⟨g, hg, fun a ha => ⟨fun hrun => ?_, (hstep a ha).2.2⟩⟩
      obtain ⟨leaf, rest, hleft, hobey⟩ := (hstep a ha).2.1 hrun
      rw [hleft, List.take_succ_cons, List.foldlM_cons, hobey]
      rfl
    · obtain ⟨g₁, hg₁, hlater⟩ := ih hon.underway hw₁ (monitor_none hon.watching hm) hrest
      refine ⟨fun a => g₁ (g a), by rw [hg₁, hg, List.map_map]; rfl, fun a ha => ?_⟩
      obtain ⟨⟨hid, hscript⟩, hrunnable, hother⟩ := hstep a ha
      have hnext := hlater (g a) (hg ▸ List.mem_map_of_mem ha)
      rw [hscript] at hnext
      refine ⟨fun hrun => ?_, fun hrun => (hnext.2 hrun).trans (hother hrun)⟩
      obtain ⟨leaf, rest, hleft, hobey⟩ := hrunnable hrun
      -- what is left of the script is looked up by id, which has not changed
      have hrest : s₁.left (g a) = rest := by
        have : s₁.left (g a) = s₁.left a := by simp only [left, hid, hscript]
        rw [this, hon.left a ha hrun, hleft, List.tail_cons]
      have hfold := hnext.1 hrun
      rw [hrest, hon.interpreter] at hfold
      rw [hleft, List.take_succ_cons, List.foldlM_cons, hobey]
      exact hfold

theorem mapM_eq_map {f : Actor → Except Fault Actor} {g : Actor → Actor} {actors : List Actor}
    (h : ∀ a ∈ actors, f a = .ok (g a)) : actors.mapM f = .ok (actors.map g) := by
  induction actors with
  | nil => rfl
  | cons a actors ih =>
    rw [List.mapM_cons, h a List.mem_cons_self, ih fun b hb => h b (List.mem_cons_of_mem a hb)]
    rfl

/-- Only a host that the session drives itself runs frames. -/
theorem frames_of_outside {caller : String} {k m handle : Nat} {n : Int}
    (hhost : s.host = .outside n handle) (hf : frames caller k s = (s', .ok m)) : k = 0 := by
  cases k with
  | zero => rfl
  | succ k =>
    obtain ⟨s₁, b, hframe, -⟩ := frames_succ hf
    unfold frame at hframe
    rw [Act.read_bind, hhost] at hframe
    cases hframe

/-- A session without collisions over a stage at rest and a host where nothing waits, after the
start of a run and a number of frames that all ran: every actor is what the first so many leaves of
its own script make of it. What that is depends on the actor and the limits of its size only, so the
other actors and the order of the roster have no part in it. -/
theorem runs_separately (o : SessionOptions) (caller : String) (k : Nat) {s' : Session}
    (hcollisions : o.collisions = false) (hstopped : o.initial.running = false)
    (hdistinct : o.initial.Distinct) (hidle : ∀ h, o.host = .manual h → h.pending = [])
    (hrun : (start >>= fun _ => frames caller k) (create o) = (s', .ok k)) :
    o.initial.actors.mapM (Actor.afterLeaves
      { minScale := o.rules.settings.minScale, maxScale := o.rules.settings.maxScale } k) =
      .ok s'.stage.actors := by
  obtain ⟨s₁, b, hstart, hframes⟩ := Act.bind_ok.mp hrun
  obtain ⟨hway, hactors, hhost, hinterp, hmonitor, hleft⟩ := create_underway hstopped hdistinct hstart
  have hnone : s₁.monitor = none := by
    rw [hmonitor]
    simp only [prepared, hcollisions, Bool.false_eq_true, if_false]
  have hi : s₁.interpreter =
      { minScale := o.rules.settings.minScale, maxScale := o.rules.settings.maxScale } :=
    hinterp
  have hall : ∃ g : Actor → Actor, s'.stage.actors = s₁.stage.actors.map g ∧ ∀ a ∈ s₁.stage.actors,
      (a.script.Runnable → ((s₁.left a).take k).foldlM (Actor.obey s₁.interpreter) a = .ok (g a)) ∧
      (¬a.script.Runnable → g a = a) := by
    cases hh : o.host with
    | outside n handle =>
      -- such a host runs no frames
      rw [hh] at hhost
      obtain rfl := frames_of_outside hhost hframes
      obtain ⟨rfl, -⟩ := Act.pure_ok.mp hframes
      exact ⟨id, (List.map_id _).symm, fun a _ => ⟨fun _ => rfl, fun _ => rfl⟩⟩
    | manual host =>
      rw [hh] at hhost
      exact frames_actors hway (.of_request hhost (hidle host hh)) hnone hframes
  obtain ⟨g, hg, hplayed⟩ := hall
  rw [hactors] at hg hplayed
  rw [hg]
  refine mapM_eq_map fun a ha => ?_
  unfold Actor.afterLeaves
  split
  · rename_i hrunnable
    rw [← hi, ← hleft a ha hrunnable]
    exact (hplayed a ha).1 hrunnable
  · rename_i hrunnable
    rw [(hplayed a ha).2 hrunnable]

/-- Two nested loops, a loop that is over with the third frame, and an actor without a trigger. -/
def threeActors : SessionOptions :=
  let flag : Block := ⟨"f", BlockType.flagClicked, [], none⟩
  let say (id text : String) : Block := ⟨id, BlockType.say, [.str text], none⟩
  let loop (id : String) (n : Int) (body : List Block) : Block :=
    ⟨id, BlockType.repeatTimes, [.int n], some body⟩
  { initial :=
      { actors :=
          [{ id := "cat-1", script := [flag, loop "r" 2 [loop "q" 2 [say "a" "mew"], say "b" "purr"]] },
           { id := "dog-1", script := [flag, loop "r" 3 [say "a" "woof"]] },
           { id := "owl-1", script := [say "a" "hoot"] }] }
    collisions := false }

theorem runs_separately_threeActors :
    ∃ s', (start >>= fun _ => frames "tick" 3) (create threeActors) = (s', .ok 3) ∧
      threeActors.initial.actors.mapM (Actor.afterLeaves {} 3) = .ok s'.stage.actors ∧
      s'.stage.actors.map (·.message) = [some "purr", some "woof", none] := by
  have hthree : ((start >>= fun _ => frames "tick" 3) (create threeActors)).2.toOption = some 3 := by
    decide +kernel
  cases hr : (start >>= fun _ => frames "tick" 3) (create threeActors) with
  | mk s' outcome =>
    rw [hr] at hthree
    obtain rfl : outcome = .ok 3 := by
      cases outcome <;> simp_all [Except.toOption]
    have hactors := runs_separately threeActors "tick" 3 rfl rfl (by decide) (by rintro h ⟨⟩; rfl) hr
    refine ⟨s', rfl, hactors, ?_⟩
    have hplayed : (threeActors.initial.actors.mapM (Actor.afterLeaves {} 3)).toOption.map
        (·.map (·.message)) = some [some "purr", some "woof", none] := by decide +kernel
    rw [show threeActors.initial.actors.mapM (Actor.afterLeaves {} 3) = .ok s'.stage.actors from hactors]
      at hplayed
    exact Option.some.inj hplayed

end Session

end ScriptedStage
