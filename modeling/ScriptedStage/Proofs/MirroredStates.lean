import ScriptedStage.Proofs.EditedRuns

/-!
The states that the scheduler keeps are a second roster. They are replaced when a run starts,
written in the middle of a round, and fitted to the roster whenever the stage says that its actors
have changed, which a round brings about itself by its changes and its collisions. If one of these
came in the wrong order, or one fitting were left out, an actor could go on with the pointer of
another one that had its id before.

What is proved, over all histories of requests and frames, whether they fail or not:
  1. `keys_playFrom`: a round writes to the states that are there, and adds none;
  2. `lasting_mirrored`: the states stand in the order of the roster, one for each actor;
  3. `undergo_welcomes`: an actor that joins the roster starts with the state of its own script;
  4. `states_mirror_roster`: all of this for every history.
-/
namespace ScriptedStage

/-! ## Keys -/

/-- A table that is filled from a roster with distinct ids has them for keys. -/
theorem Executions.keys_foldl_set (f : Actor → Execution) {actors : List Actor} {t : Executions}
    (h : (t.keys ++ actors.map (·.id)).Nodup) :
    (actors.foldl (fun t a => t.set a.id (f a)) t).keys = t.keys ++ actors.map (·.id) := by
  induction actors generalizing t with
  | nil => simp
  | cons a actors ih =>
    have hfresh : a.id ∉ t.keys := by
      intro hmem
      rw [List.nodup_append] at h
      exact h.2.2 _ hmem _ List.mem_cons_self rfl
    have hset := Assoc.keys_set_of_not_mem hfresh (f a)
    rw [List.map_cons, List.append_cons] at h ⊢
    rw [List.foldl_cons, ih (by rwa [hset]), hset]

namespace Round

theorem keys_record {r : Round} {a : Actor} {e : Execution} (h : r.states.get? a.id = some e)
    (pointer : Int) (step : StepResult) : (r.record a pointer step).1.states.keys = r.states.keys := by
  rw [record_eq]
  exact Assoc.keys_set_of_some h _

/-- A round writes to the states that are there. -/
theorem keys_playFrom {i : Interpreter} {actors : List Actor} {r r' : Round}
    (h : (playFrom i r actors).2 = .ok r') : r'.states.keys = r.states.keys := by
  induction actors generalizing r with
  | nil => rw [← Except.ok.inj h]
  | cons a actors ih =>
    rw [playFrom] at h
    cases hnext : nextBlock? a r.states with
    | none =>
      rw [hnext] at h
      exact ih h
    | some p =>
      obtain ⟨e, b⟩ := p
      rw [hnext] at h
      cases hexec : i.execute a e b with
      | error fault => simp [hexec] at h
      | ok step =>
        simp only [hexec] at h
        exact (ih h).trans (keys_record (nextBlock?_eq_some.mp hnext).1 e.pointer step)

end Round

/-! ## Histories of requests and frames -/

/-- What happens to a session: it is asked for something, or its host comes with a frame. -/
inductive SessionEvent where
  | asked (op : SessionOp)
  | frame
  deriving Inhabited

/-- The events that run frames. -/
def SessionEvent.runsFrames : SessionEvent → Bool
  | .asked op => op.runsFrames
  | .frame => true

namespace Session

variable {s t : Session} {inv : Session → Prop} {event : SessionEvent}

/-- The session after an event, whether it failed or not. -/
def undergo (s : Session) : SessionEvent → Session
  | .asked op => (s.perform op).1
  | .frame => (tick s).1

/-- The session after events, one after another. -/
def through (s : Session) (events : List SessionEvent) : Session := events.foldl undergo s

theorem Lasting.undergo (h : Lasting inv) (hopen : event ≠ .asked .close) (hs : inv s) :
    inv (s.undergo event) := by
  cases event with
  | asked op =>
    refine perform_keeps h.blind h.intent h.frame (fun hclose => ?_) hs
    exact absurd (congrArg SessionEvent.asked hclose) hopen
  | frame => exact h.framed.tick.fst hs

theorem Lasting.through (h : Lasting inv) {events : List SessionEvent}
    (hopen : .asked .close ∉ events) (hs : inv s) :
    inv (s.through events) := by
  induction events generalizing s with
  | nil => exact hs
  | cons event events ih =>
    rw [List.mem_cons, not_or] at hopen
    exact ih hopen.2 (h.undergo (Ne.symm hopen.1) hs)

theorem Framed.undergo (h : Framed inv) (hframes : event.runsFrames = true) (hs : inv s) :
    inv (s.undergo event) := by
  cases event with
  | asked op => exact h.perform hframes hs
  | frame => exact h.tick.fst hs

theorem undergo_edits (s : Session) (hframes : event.runsFrames = false) (hopen : event ≠ .asked .close) :
    Edit s (s.undergo event) := by
  cases event with
  | asked op =>
    refine perform_edits s hframes fun hclose => ?_
    exact hopen (congrArg SessionEvent.asked hclose)
  | frame => cases hframes

theorem undergo_close (s : Session) : s.undergo (.asked .close) = s.closed :=
  congrArg Prod.fst (perform_close s)

/-- A session that is open after an event was open before. -/
theorem open_of_undergo (h : (s.undergo event).following = true) :
    s.following = true ∧ event ≠ .asked .close := by
  have hopen : event ≠ .asked .close := by
    intro hclose
    rw [hclose, undergo_close] at h
    cases h
  refine ⟨?_, hopen⟩
  by_contra hclosed
  have hstays := (lasting_following (b := false)).undergo hopen (Bool.not_eq_true _ ▸ hclosed)
  rw [h] at hstays
  cases hstays

/-! ## States and roster -/

/-- The states that the scheduler keeps are those of the roster, in its order, and know whether
the scripts can run. -/
structure Mirrors (s : Session) : Prop where
  ids : s.executions.keys = s.stage.ids
  eligible : ∀ a ∈ s.stage.actors, ∃ e, s.executions.get? a.id = some e ∧ e.eligible = a.script.isEligible

/-- Actors that have joined the roster start with the states of their scripts. -/
def Welcomes (s t : Session) : Prop :=
  ∀ a ∈ t.stage.actors, a.id ∉ s.stage.ids → t.executions.get? a.id = some (.initial a.script)

theorem keys_follows {i : Intent} (h : s.Orderly) (hkeys : s.executions.keys = s.stage.ids)
    (hf : Follows s i t) :
    t.executions.keys = t.stage.ids := by
  cases hf with
  | nothing => exact hkeys
  | alone hclosed hafter =>
    rw [h.following] at hclosed
    cases hclosed
  | edited hfollow hafter hrun =>
    cases htouch : touchesActors i with
    | true => exact Executions.keys_foldl_set _ (h.wellFormed.reduce hafter).actorIds
    | false =>
      have hsame := Stage.reduce_actors htouch hafter
      simp only [Bool.false_eq_true, if_false, Stage.ids, hsame]
      exact hkeys
  | started hfollow hrest => exact Executions.keys_foldl_set _ h.wellFormed.actorIds
  | stopped hfollow hrun => exact hkeys

theorem lasting_mirrored : Lasting fun s => s.Orderly ∧ s.executions.keys = s.stage.ids where
  blind s t ht hs := by
    have horderly := lasting_orderly.blind ht hs.1
    obtain ⟨j, r, f, handled, ticks, history, -, -, rfl⟩ := ht
    exact ⟨horderly, hs.2⟩
  hosted s host awaited hs := ⟨lasting_orderly.hosted host awaited hs.1, hs.2⟩
  intent s t i hf hs := ⟨hs.1.follows hf, keys_follows hs.1 hs.2 hf⟩
  look s m m' hm hrun hs := ⟨lasting_orderly.look m m' hm hrun hs.1, hs.2⟩
  played s r hs hrun hr := ⟨lasting_orderly.played hs.1 hrun hr, (Round.keys_playFrom hr).trans hs.2⟩

theorem create_mirrored {o : SessionOptions} (h : o.initial.WellFormed) :
    (create o).Orderly ∧ (create o).executions.keys = (create o).stage.ids := by
  refine ⟨create_orderly h, ?_⟩
  obtain ⟨j, -, heq⟩ := create_begins o
  rw [heq]
  cases hrun : o.initial.running with
  | false => exact Executions.keys_foldl_set _ h.actorIds
  | true => exact Executions.keys_foldl_set _ h.actorIds

/-! ## Newcomers -/

theorem Follows.welcomes {i : Intent} (h : s.Orderly) (hf : Follows s i t) : Welcomes s t := by
  intro a ha hnew
  cases hf with
  | nothing => exact absurd (List.mem_map_of_mem ha) hnew
  | alone hclosed hafter =>
    rw [h.following] at hclosed
    cases hclosed
  | edited hfollow hafter hrun =>
    cases htouch : touchesActors i with
    | true =>
      -- there is no state to go on with, as those of actors that have left are dropped with them
      have hnone : s.executions.get? a.id = none := h.states.others a.id hnew
      simp only [if_true]
      rw [Executions.reconcile, Executions.get?_foldl_set _ _ []
        (h.wellFormed.reduce hafter).actorIds ha, hnone]
    | false =>
      have hsame := Stage.reduce_actors htouch hafter
      exact absurd (List.mem_map_of_mem (hsame ▸ ha)) hnew
  | started hfollow hrest => exact absurd (List.mem_map_of_mem ha) hnew
  | stopped hfollow hrun => exact absurd (List.mem_map_of_mem ha) hnew

theorem Edit.welcomes (h : s.Orderly) (hedit : Edit s t) : Welcomes s t := by
  obtain ⟨s₁, i, t₁, hbefore, hfollows, hafter⟩ := hedit
  have hwelcomes := hfollows.welcomes (lasting_orderly.blind hbefore h)
  obtain ⟨_, _, _, _, _, _, -, -, rfl⟩ := hbefore
  obtain ⟨_, _, _, _, _, _, -, -, rfl⟩ := hafter
  exact hwelcomes

/-- Frames neither take actors off the roster nor put any on it. -/
theorem framed_ids (ids : List String) : Framed fun s => s.Orderly ∧ s.stage.ids = ids where
  blind s t ht hs := by
    have horderly := lasting_orderly.blind ht hs.1
    obtain ⟨j, r, f, handled, ticks, history, -, -, rfl⟩ := ht
    exact ⟨horderly, hs.2⟩
  hosted s host awaited hs := ⟨lasting_orderly.hosted host awaited hs.1, hs.2⟩
  intent s t i hi hf hs := ⟨hs.1.follows hf, (Stage.ids_eq_of_shapes (hf.shapes hs.1 hi)).trans hs.2⟩
  look s m m' hm hrun hs := ⟨lasting_orderly.look m m' hm hrun hs.1, hs.2⟩
  played s r hs hrun hr := ⟨lasting_orderly.played hs.1 hrun hr, hs.2⟩

/-- Whatever happens to a session, those who join the roster by it start with the
states of their scripts. -/
theorem undergo_welcomes (h : s.Orderly) (hopen : event ≠ .asked .close) :
    Welcomes s (s.undergo event) := by
  cases hframes : event.runsFrames with
  | true =>
    intro a ha hnew
    have hids := ((framed_ids s.stage.ids).undergo hframes ⟨h, rfl⟩).2
    exact absurd (hids ▸ List.mem_map_of_mem ha) hnew
  | false => exact (undergo_edits s hframes hopen).welcomes h

/-- **The states of the scheduler mirror the roster**: over a well-formed stage, after whatever
has happened to a session that is still open, there is a state for each actor and for no one else,
it knows whether the script of the actor can run, and those who join next start afresh, whoever
had their ids before. -/
theorem states_mirror_roster (o : SessionOptions) (hinitial : o.initial.WellFormed)
    {events : List SessionEvent} (hopen : .asked .close ∉ events) :
    ((create o).through events).Mirrors ∧
      ∀ event, event ≠ .asked .close →
        Welcomes ((create o).through events) (((create o).through events).undergo event) := by
  obtain ⟨horderly, hkeys⟩ := lasting_mirrored.through hopen (create_mirrored hinitial)
  refine ⟨⟨hkeys, horderly.states.mirrored⟩, ?_⟩
  intro event hevent
  exact undergo_welcomes horderly hevent

/-- A cat joins. -/
def arrival : SessionEvent := .asked (.addActor (.str "cat") (.float 0) (.float 0))

/-- A cat is removed in the middle of a loop. Its host comes with a frame of its own, so that two
frames wait when the next one is asked for. -/
def lostInLoop : List SessionEvent :=
  [arrival,
   .asked (.addBlock (.str "cat-1") (.record [("id", .str "f"), ("type", .str BlockType.flagClicked)])),
   .asked (.addBlock (.str "cat-1")
     (.record [("id", .str "r"), ("type", .str BlockType.repeatTimes), ("values", .list [.int 5])])),
   .asked (.addBlockTo (.str "cat-1") (.str "r") (sentMove "m")),
   .asked .start, .frame, .asked .step, .asked (.removeActor (.str "cat-1"))]

/-- The actor that was lost in a loop leaves nothing behind: the next one gets its id,
and starts afresh. -/
theorem states_mirror_roster_lostInLoop :
    (((create {}).through (lostInLoop.take 7)).executions.get? "cat-1").map (·.loops) =
      some [("r", ⟨2, 0⟩)] ∧
      ((create {}).through lostInLoop).Mirrors ∧
      ∃ a, (((create {}).through lostInLoop).undergo arrival).stage.actors = [a] ∧ a.id = "cat-1" ∧
        (((create {}).through lostInLoop).undergo arrival).executions.get? "cat-1" =
          some (.initial a.script) := by
  have hloop : (((create {}).through (lostInLoop.take 7)).executions.get? "cat-1").map (·.loops) =
      some [("r", ⟨2, 0⟩)] := by decide +kernel
  have hleft : ((create {}).through lostInLoop).stage.ids = [] := by decide +kernel
  have hjoined : (((create {}).through lostInLoop).undergo arrival).stage.ids = ["cat-1"] := by
    decide +kernel
  have hopen : .asked .close ∉ lostInLoop := by simp [lostInLoop, arrival]
  obtain ⟨hmirrors, hwelcomes⟩ := states_mirror_roster {} (by decide) hopen
  refine ⟨hloop, hmirrors, ?_⟩
  obtain ⟨a, hactors, hid⟩ := List.map_eq_singleton_iff.mp hjoined
  have ha : a ∈ (((create {}).through lostInLoop).undergo arrival).stage.actors := by simp [hactors]
  have hstate := hwelcomes arrival (by simp [arrival]) a ha (by simp [hleft])
  exact ⟨a, hactors, hid, hid ▸ hstate⟩

end Session

end ScriptedStage
