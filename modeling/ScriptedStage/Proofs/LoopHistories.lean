import ScriptedStage.Proofs.ActivePath
import ScriptedStage.Proofs.LateTriggers
import ScriptedStage.Proofs.MirroredStates

/-!
Loops over the history of a session. Entries of loops are written in frames only, but the scripts
that they are about are edited between the frames, and reversed in them. The one thing that takes an
entry off its path is a block that goes in the middle of a loop: the entry of a loop that is removed
stays until the script ends or a run starts.

A session that is closed has no scheduler behind it any more. A run that starts then does not clear
the entries, and an actor that joins then may find those of another one that had its id before.
Neither counts as a new start (`cutAfter`).

What is proved, over all histories of requests and frames, whether they fail or not:
  1. `Follows.takesOut`: only a request to remove a block takes one out of a script;
  2. `kept_framed`: frames keep the states on their paths, in closed sessions too;
  3. `Followed.undergo`: what an event does to a path;
  4. `progress_is_active_path`: where no block has gone since the script last started, or none in
     the middle of a loop, the entries are those of the path;
  5. `entry_outlives_actor`: an actor that joins a closed session can have entries
     without having blocks.
-/
namespace ScriptedStage

namespace Session

variable {s t : Session} {id : String} {cut : Bool} {i : Intent} {a : Actor} {event : SessionEvent}

/-! ## What stays -/

/-- Frames do not start a run. -/
theorem framed_rest : Framed fun s => s.stage.running = false where
  blind s t ht hs := by
    obtain ⟨j, r, f, handled, ticks, history, -, -, rfl⟩ := ht
    exact hs
  hosted s _ _ hs := hs
  intent s t i hi hf hs := by
    cases hf with
    | nothing => exact hs
    | alone hclosed hafter =>
      rcases Stage.reduce_running hafter with ⟨rfl, -⟩ | ⟨rfl, -, rfl⟩ | hsame
      · cases hi
      · rfl
      · exact hsame.trans hs
    | edited hfollow hafter hrun => exact hrun.trans hs
    | started => cases hi
    | stopped => rfl
  look s _ _ _ _ hs := hs
  played s r hs _ _ := hs

theorem lasting_wellFormed : Lasting fun s => s.stage.WellFormed where
  blind s t ht hs := by
    obtain ⟨j, r, f, handled, ticks, history, -, -, rfl⟩ := ht
    exact hs
  hosted s _ _ hs := hs
  intent s t i hf hs := hf.wellFormed hs
  look s _ _ _ _ hs := hs
  played s r hs _ _ := hs

theorem lasting_behaviours : Lasting fun s => s.interpreter.behaviours = builtInBehaviours where
  blind s t ht hs := by
    obtain ⟨j, r, f, handled, ticks, history, -, -, rfl⟩ := ht
    exact hs
  hosted s _ _ hs := hs
  intent s t i hf hs := by cases hf <;> exact hs
  look s _ _ _ _ hs := hs
  played s r hs _ _ := hs

/-! ## What an intent does to a path -/

/-- An actor has a state, which is on the path of its script. -/
def OnPath (s : Session) (a : Actor) : Prop := ∃ e, s.executions.get? a.id = some e ∧ e.OnPath a.script

/-- Whether a block of the script of an actor is gone in a later state of the session. -/
def takesOut (s t : Session) (id : String) : Bool :=
  match s.stage.actor? id, t.stage.actor? id with
  | some a, some a' => a.script.ids.any fun block => decide (block ∉ a'.script.ids)
  | _, _ => false

/-- Whether a loop of an actor is under way. -/
def midLoop (s : Session) (id : String) : Bool := (s.executions.get? id).any fun e => !e.loops.isEmpty

/-- Whether the script of an actor loses a block while a loop of it is under way. -/
def cuts (s t : Session) (id : String) : Bool := s.midLoop id && s.takesOut t id

theorem takesOut_iff (hs : s.stage.ids.Nodup) (ht : t.stage.ids.Nodup) {a' : Actor}
    (ha : a ∈ s.stage.actors) (ha' : a' ∈ t.stage.actors) (hid : a.id = a'.id) :
    s.takesOut t a'.id = true ↔ ∃ block ∈ a.script.ids, block ∉ a'.script.ids := by
  have hold : s.stage.actor? a'.id = some a := hid ▸ Stage.actor?_of_mem hs ha
  rw [takesOut, hold, Stage.actor?_of_mem ht ha']
  simp

/-- What becomes of the actors by an intent. -/
theorem Follows.reworked (h : s.stage.WellFormed) (hf : Follows s i t) {a' : Actor}
    (ha' : a' ∈ t.stage.actors) :
    (a'.id ∉ s.stage.ids ∧ inFrames i = false) ∨ ∃ a ∈ s.stage.actors, a.Reworked i a' := by
  cases hf with
  | nothing => exact .inr ⟨a', ha', Actor.reworked_self i a'⟩
  | alone hclosed hafter => exact Stage.reduce_scripts h hafter ha'
  | edited hfollow hafter hrun => exact Stage.reduce_scripts h hafter ha'
  | started | stopped => exact .inr ⟨a', ha', Actor.reworked_self _ a'⟩

/-- Only a request to remove a block takes one out of a script. -/
theorem Follows.takesOut (h : s.stage.WellFormed) (hf : Follows s i t) (hout : s.takesOut t id = true) :
    ∃ block, i = .removeBlock id block := by
  unfold Session.takesOut at hout
  split at hout
  · rename_i a a' ha ha'
    obtain ⟨hmem, rfl⟩ := Stage.actor?_mem ha
    obtain ⟨hmem', hid⟩ := Stage.actor?_mem ha'
    rcases hf.reworked h hmem' with ⟨hnew, -⟩ | ⟨b, hb, hbid, hgrows | ⟨hrequest, -⟩⟩
    · exact absurd (hid ▸ List.mem_map_of_mem hmem) hnew
    · -- a script that has grown has all its blocks
      obtain rfl : b = a := List.inj_on_of_nodup_map h.actorIds hb hmem (hbid.trans hid)
      obtain ⟨block, hblock, hgone⟩ := List.any_eq_true.mp hout
      exact absurd (hgrows.ids_subset hblock) (of_decide_eq_true hgone)
    · rw [← hid, ← hbid]
      exact hrequest
  · cases hout

/-- An intent leaves the entries of those who were there before, unless it starts a run. -/
theorem Follows.entries (hf : Follows s i t) (ht : t.stage.ids.Nodup) {a' : Actor}
    (ha' : a' ∈ t.stage.actors) {e : Execution} (he : s.executions.get? a'.id = some e) :
    ∃ e', t.executions.get? a'.id = some e' ∧
      (e' = .initial a'.script ∨ e'.pointer = e.pointer ∧ e'.loops = e.loops) := by
  cases hf with
  | nothing => exact ⟨e, he, .inr ⟨rfl, rfl⟩⟩
  | alone hclosed hafter => exact ⟨e, he, .inr ⟨rfl, rfl⟩⟩
  | edited hfollow hafter hrun =>
    cases htouch : touchesActors i with
    | false => exact ⟨e, he, .inr ⟨rfl, rfl⟩⟩
    | true =>
      refine ⟨_, Executions.get?_foldl_set _ _ [] ht ha', .inr ?_⟩
      rw [he]
      exact ⟨rfl, rfl⟩
  | started hfollow hrest => exact ⟨_, Executions.get?_foldl_set _ _ [] ht ha', .inl rfl⟩
  | stopped hfollow hrun => exact ⟨e, he, .inr ⟨rfl, rfl⟩⟩

/-- An intent leaves a state on the path, unless it takes a block out in the middle of a loop. -/
theorem Follows.onPath (h : s.stage.WellFormed) (hf : Follows s i t) {a' : Actor}
    (ha' : a' ∈ t.stage.actors) (ha : a ∈ s.stage.actors) (hreworked : a.Reworked i a')
    (hkept : s.cuts t a'.id = false) (hpath : s.OnPath a) : t.OnPath a' := by
  have ht := hf.wellFormed h
  obtain ⟨hid, hscript⟩ := hreworked
  obtain ⟨e, he, hon⟩ := hpath
  rw [hid] at he
  obtain ⟨e', he', hstate⟩ := hf.entries ht.actorIds ha' he
  refine ⟨e', he', ?_⟩
  rcases hstate with rfl | ⟨hpointer, hloops⟩
  · exact .initial a'.script
  · rcases hscript with hgrows | ⟨-, hlost⟩
    · exact (hon.grown hgrows).congr hpointer hloops
    · -- a block has gone, so there was no entry that could have lost its block
      have hnil : e.loops = [] := by
        rw [cuts, (takesOut_iff h.actorIds ht.actorIds ha ha' hid).mpr hlost, midLoop, he] at hkept
        simpa using hkept
      exact .of_nil (hpointer ▸ hon.pointer) (hloops.trans hnil)

/-- When a run starts, all states are on their paths. -/
theorem Follows.onPath_started (h : s.stage.WellFormed) (hf : Follows s i t) (hfollow : s.following = true)
    (hrest : s.stage.running = false) (hrun : t.stage.running = true) (ha : a ∈ t.stage.actors) :
    t.OnPath a := by
  cases hf with
  | nothing => exact absurd (hrest.symm.trans hrun) Bool.false_ne_true
  | alone hclosed => exact absurd (hclosed.symm.trans hfollow) Bool.false_ne_true
  | edited _ _ hsame => exact absurd ((hsame.trans hrest).symm.trans hrun) Bool.false_ne_true
  | started => exact ⟨_, Executions.get?_foldl_set _ _ [] h.actorIds ha, .initial a.script⟩
  | stopped => cases hrun

/-! ## What frames do to a path -/

/-- The state of an actor is on its path, if the actor is there. -/
structure Kept (id : String) (s : Session) : Prop where
  wellFormed : s.stage.WellFormed
  behaviours : s.interpreter.behaviours = builtInBehaviours
  path : ∀ a ∈ s.stage.actors, a.id = id → s.OnPath a

theorem Kept.follows (h : Kept id s) (hi : inFrames i = true) (hf : Follows s i t) : Kept id t := by
  refine ⟨hf.wellFormed h.wellFormed, lasting_behaviours.intent hf h.behaviours, fun a' ha' hid => ?_⟩
  rcases hf.reworked h.wellFormed ha' with ⟨-, hno⟩ | ⟨a, ha, hreworked⟩
  · rw [hi] at hno
    cases hno
  · -- no frame asks for a block to be removed
    have hkept : s.cuts t a'.id = false := by
      rw [← Bool.not_eq_true]
      intro hcuts
      obtain ⟨block, rfl⟩ := hf.takesOut h.wellFormed (Bool.and_eq_true_iff.mp hcuts).2
      cases hi
    exact hf.onPath h.wellFormed ha' ha hreworked hkept (h.path a ha (hreworked.1.trans hid))

theorem Kept.played (h : Kept id s) {r : Round}
    (hr : (Round.play s.interpreter s.stage.actors s.executions).2 = .ok r) :
    Kept id { s with executions := r.states } := by
  refine ⟨h.wellFormed, h.behaviours, fun a ha hid => ?_⟩
  have hextends := Round.play_ok h.wellFormed.actorIds hr
  obtain ⟨e, he, hon⟩ := h.path a ha hid
  have hget := hextends.states a ha
  cases hnext : Round.nextBlock? a s.executions with
  | none =>
    rw [Round.taken_of_none hnext] at hget
    exact ⟨e, hget.trans he, hon⟩
  | some p =>
    obtain ⟨e', b⟩ := p
    obtain rfl : e = e' := Option.some.inj (he.symm.trans (Round.nextBlock?_eq_some.mp hnext).1)
    obtain ⟨step, hstep⟩ := hextends.steps a ha e b hnext
    rw [Round.taken_of_some hnext hstep] at hget
    exact ⟨_, hget, hon.turn h.behaviours (h.wellFormed.blockIds a ha) hnext hstep⟩

theorem kept_framed (id : String) : Framed (Kept id) where
  blind s t ht hs := by
    obtain ⟨j, r, f, handled, ticks, history, -, -, rfl⟩ := ht
    exact ⟨hs.wellFormed, hs.behaviours, hs.path⟩
  hosted s _ _ hs := ⟨hs.wellFormed, hs.behaviours, hs.path⟩
  intent s t i hi hf hs := hs.follows hi hf
  look s _ _ _ _ hs := ⟨hs.wellFormed, hs.behaviours, hs.path⟩
  played s r hs _ hr := hs.played hr

/-! ## What an event does to a path -/

/-- Whether a script has lost a block in the middle of a loop, counted from where it last started. A
session that is closed starts no script: what joins it counts as cut. -/
def cutAfter (s : Session) (id : String) (cut : Bool) (event : SessionEvent) : Bool :=
  if s.following then !s.startsAnew (s.undergo event) id && (cut || s.cuts (s.undergo event) id)
  else cut || !decide (id ∈ s.stage.ids) || s.cuts (s.undergo event) id

/-- The same after a history; `cut` says it of the beginning. -/
def cutIn (s : Session) (id : String) (cut : Bool) : List SessionEvent → Bool
  | [] => cut
  | event :: events => (s.undergo event).cutIn id (s.cutAfter id cut event) events

theorem Edit.onPath (h : s.stage.WellFormed) (hedit : Edit s t) (ha : a ∈ t.stage.actors)
    (hid : a.id ∈ s.stage.ids) (hkept : s.cuts t a.id = false)
    (hpath : ∀ b ∈ s.stage.actors, b.id = a.id → s.OnPath b) : t.OnPath a := by
  obtain ⟨s₁, i, t₁, hbefore, hfollows, hafter⟩ := hedit
  obtain ⟨hstage, hexecutions, -⟩ := hbefore.same
  obtain ⟨hstage', hexecutions', -⟩ := hafter.same
  rw [hstage'] at ha
  rcases hfollows.reworked (hstage ▸ h) ha with ⟨hnew, -⟩ | ⟨b, hb, hreworked⟩
  · exact absurd (hstage ▸ hid) hnew
  · have hold : s₁.OnPath b := by
      rw [OnPath, hexecutions]
      exact hpath b (hstage ▸ hb) hreworked.1
    have hkept₁ : s₁.cuts t₁ a.id = false := by
      rw [cuts, midLoop, takesOut, hstage, hexecutions, ← hstage']
      exact hkept
    have hnew := hfollows.onPath (hstage ▸ h) ha hb hreworked hkept₁ hold
    rw [OnPath, ← hexecutions'] at hnew
    exact hnew

theorem Edit.onPath_started (h : s.stage.WellFormed) (hedit : Edit s t) (hfollow : s.following = true)
    (hrest : s.stage.running = false) (hrun : t.stage.running = true) (ha : a ∈ t.stage.actors) :
    t.OnPath a := by
  obtain ⟨s₁, i, t₁, hbefore, hfollows, hafter⟩ := hedit
  obtain ⟨hstage, -, hopen⟩ := hbefore.same
  obtain ⟨hstage', hexecutions', -⟩ := hafter.same
  rw [hstage'] at ha hrun
  have hnew := hfollows.onPath_started (hstage ▸ h) (hopen.trans hfollow) (hstage ▸ hrest) hrun ha
  rw [OnPath, ← hexecutions'] at hnew
  exact hnew

/-- A session whose history is known: the state of an actor is on its path if its
script has not been cut. -/
structure Followed (id : String) (cut : Bool) (s : Session) : Prop where
  wellFormed : s.stage.WellFormed
  behaviours : s.interpreter.behaviours = builtInBehaviours
  orderly : s.following = true → s.Orderly
  path : cut = false → ∀ a ∈ s.stage.actors, a.id = id → s.OnPath a

namespace Followed

theorem path_frames (h : Followed id cut s) (hframes : event.runsFrames = true)
    (hcut : s.cutAfter id cut event = false) : ∀ a ∈ (s.undergo event).stage.actors, a.id = id →
    (s.undergo event).OnPath a := by
  have hkept : Kept id s := by
    refine ⟨h.wellFormed, h.behaviours, fun a ha hid => h.path ?_ a ha hid⟩
    have hmem : id ∈ s.stage.ids := hid ▸ List.mem_map_of_mem ha
    have hanew : s.startsAnew (s.undergo event) id = false := by
      cases hrun : s.stage.running with
      | true => simp [startsAnew, hrun, hmem]
      | false => simp [startsAnew, hmem, framed_rest.undergo hframes hrun]
    unfold cutAfter at hcut
    split at hcut
    · rw [hanew] at hcut
      exact (Bool.or_eq_false_iff.mp hcut).1
    · exact (Bool.or_eq_false_iff.mp (Bool.or_eq_false_iff.mp hcut).1).1
  exact ((kept_framed id).undergo hframes hkept).path

theorem path_edit (h : Followed id cut s) (hedit : Edit s (s.undergo event))
    (hcut : s.cutAfter id cut event = false) : ∀ a ∈ (s.undergo event).stage.actors, a.id = id →
    (s.undergo event).OnPath a := by
  intro a ha hid
  subst hid
  unfold cutAfter at hcut
  split at hcut
  · rename_i hfollow
    by_cases hmem : a.id ∈ s.stage.ids
    · cases hanew : s.startsAnew (s.undergo event) a.id with
      | true =>
        simp only [startsAnew, hmem, decide_true, Bool.not_true, Bool.or_false, Bool.and_eq_true,
          Bool.not_eq_true'] at hanew
        exact hedit.onPath_started h.wellFormed hfollow hanew.1 hanew.2 ha
      | false =>
        rw [hanew] at hcut
        obtain ⟨hwhole, hkept⟩ := Bool.or_eq_false_iff.mp hcut
        exact hedit.onPath h.wellFormed ha hmem hkept (h.path hwhole)
    · exact ⟨_, hedit.welcomes (h.orderly hfollow) a ha hmem, .initial a.script⟩
  · obtain ⟨hrest, hkept⟩ := Bool.or_eq_false_iff.mp hcut
    obtain ⟨hwhole, hmem⟩ := Bool.or_eq_false_iff.mp hrest
    exact hedit.onPath h.wellFormed ha (by simpa using hmem) hkept (h.path hwhole)

theorem path_close (h : Followed id cut s) (hcut : s.cutAfter id cut (.asked .close) = false) :
    ∀ a ∈ s.closed.stage.actors, a.id = id → s.closed.OnPath a := by
  intro a ha hid
  have hmem : id ∈ s.stage.ids := hid ▸ List.mem_map_of_mem ha
  have hanew : s.startsAnew s.closed id = false := by
    show (!s.stage.running && s.stage.running || !decide (id ∈ s.stage.ids)) = false
    simp [hmem]
  refine h.path ?_ a ha hid
  rw [cutAfter, undergo_close, hanew] at hcut
  cases cut with
  | false => rfl
  | true => simp at hcut

theorem undergo (h : Followed id cut s) (event : SessionEvent) :
    Followed id (s.cutAfter id cut event) (s.undergo event) := by
  by_cases hclose : event = .asked .close
  · subst hclose
    rw [undergo_close]
    exact ⟨h.wellFormed, h.behaviours, (fun hopen => by cases hopen), h.path_close⟩
  · refine ⟨lasting_wellFormed.undergo hclose h.wellFormed, lasting_behaviours.undergo hclose h.behaviours,
      fun hopen => ?_, fun hcut => ?_⟩
    · exact lasting_orderly.undergo hclose (h.orderly (open_of_undergo hopen).1)
    · cases hframes : event.runsFrames with
      | true => exact h.path_frames hframes hcut
      | false => exact h.path_edit (undergo_edits s hframes hclose) hcut

theorem through (h : Followed id cut s) (events : List SessionEvent) :
    Followed id (s.cutIn id cut events) (s.through events) := by
  induction events generalizing s cut with
  | nil => exact h
  | cons event events ih => exact ih (h.undergo event)

end Followed

theorem create_followed {o : SessionOptions} (h : o.initial.WellFormed) (id : String) :
    Followed id false (create o) := by
  have horderly := create_orderly h
  refine ⟨horderly.wellFormed, horderly.behaviours, fun _ => horderly, fun _ a ha _ => ?_⟩
  rw [(create_prepared o).1] at ha
  exact ⟨_, create_executions h ha, .initial a.script⟩

open Block (activePathNth UnderWay)

/-- **The entries of loops are the active path**: over a well-formed stage, after whatever has
happened to a session, an actor whose script has lost no block in the middle of a loop since it last
started has entries for the repeat blocks on the path from its pointer and for nothing else, and
each of them is within the passes and the children of its block. -/
theorem progress_is_active_path (o : SessionOptions) (hinitial : o.initial.WellFormed)
    (events : List SessionEvent) {a : Actor} (ha : a ∈ ((create o).through events).stage.actors)
    (hcut : (create o).cutIn a.id false events = false) :
    ∃ e, ((create o).through events).executions.get? a.id = some e ∧ 0 ≤ e.pointer ∧
      (∀ id, id ∈ e.loops.keys ↔ id ∈ (activePathNth e.loops a.script e.pointer.toNat).map (·.id)) ∧
      ∀ b ∈ activePathNth e.loops a.script e.pointer.toNat, UnderWay e.loops b := by
  have hfollowed := (create_followed hinitial a.id).through events
  obtain ⟨e, he, hon⟩ := hfollowed.path hcut a ha rfl
  exact ⟨e, he, hon.pointer, hon.keys_iff, hon.underWay⟩

/-- The trigger of a script arrives. -/
def triggerArrives : SessionEvent :=
  .asked (.addBlock (.str "cat-1") (.record [("id", .str "f"), ("type", .str BlockType.flagClicked)]))

/-- A loop as a document gives it. -/
def sentLoop (id : String) (times : Int) (children : List Value) : Value :=
  .record [("id", .str id), ("type", .str BlockType.repeatTimes), ("values", .list [.int times]),
    ("children", .list children)]

/-- A loop is removed while it is under way in another one, and put back before the next run. That
run is edited too, and the session is closed in the middle of it. -/
def mendedLoops : List SessionEvent :=
  [arrival, triggerArrives, .asked (.addBlock (.str "cat-1")
    (sentLoop "r" 3 [sentLoop "q" 2 [sentMove "m"]])),
   .asked .start, .asked .step, .asked (.removeBlock (.str "cat-1") (.str "q")), .asked .halt,
   .asked (.addBlockTo (.str "cat-1") (.str "r") (sentLoop "q" 2 [sentMove "m"])),
   .asked .start, .asked .step, .frame, .asked (.addBlockTo (.str "cat-1") (.str "q") (sentMove "n")),
   .frame, .asked .close]

/-- The script has lost a block in the first run and none in the second, where the path goes to the
block that was added last. -/
theorem progress_is_active_path_mendedLoops :
    (create {}).cutIn "cat-1" false (mendedLoops.take 6) = true ∧
      (create {}).cutIn "cat-1" false mendedLoops = false ∧
      ∃ a e, ((create {}).through mendedLoops).stage.actors = [a] ∧
        ((create {}).through mendedLoops).executions.get? a.id = some e ∧
        e = ⟨1, [("r", ⟨2, 0⟩), ("q", ⟨2, 1⟩)], true⟩ ∧
        (∀ id, id ∈ ["r", "q"] ↔ id ∈ (activePathNth e.loops a.script 1).map (·.id)) ∧
        ∀ b ∈ activePathNth e.loops a.script 1, UnderWay e.loops b := by
  have hlost : (create {}).cutIn "cat-1" false (mendedLoops.take 6) = true := by decide +kernel
  have hcut : (create {}).cutIn "cat-1" false mendedLoops = false := by decide +kernel
  have hids : ((create {}).through mendedLoops).stage.ids = ["cat-1"] := by decide +kernel
  have hstate : ((create {}).through mendedLoops).executions.get? "cat-1" =
      some ⟨1, [("r", ⟨2, 0⟩), ("q", ⟨2, 1⟩)], true⟩ := by decide +kernel
  obtain ⟨a, hactors, hid⟩ := List.map_eq_singleton_iff.mp hids
  have ha : a ∈ ((create {}).through mendedLoops).stage.actors := by simp [hactors]
  obtain ⟨e, he, -, hkeys, hunder⟩ := progress_is_active_path {} (by decide) mendedLoops ha (hid ▸ hcut)
  obtain rfl := Option.some.inj (hstate.symm.trans (hid ▸ he))
  exact ⟨hlost, hcut, a, _, hactors, he, rfl, hkeys, hunder⟩

/-- A session is closed in the middle of a loop. The actor leaves, and another one
joins with its id. -/
def succession : List SessionEvent :=
  [arrival, triggerArrives, .asked (.addBlock (.str "cat-1") (sentLoop "r" 2 [sentMove "m"])),
   .asked .start, .asked .step, .asked .close, .asked (.removeActor (.str "cat-1")), arrival]

/-- No block is removed here, but the actor has the entry of a loop, and nothing is on its path. -/
theorem entry_outlives_actor :
    ((create {}).through succession).executions.get? "cat-1" = some ⟨1, [("r", ⟨1, 0⟩)], true⟩ ∧
      ((create {}).through succession).stage.actors.map
        (fun a => (a.id, (activePathNth [("r", ⟨1, 0⟩)] a.script 1).map (·.id))) = [("cat-1", [])] := by
  decide +kernel

end Session

end ScriptedStage
