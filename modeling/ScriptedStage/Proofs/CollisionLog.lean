import ScriptedStage.Proofs.CollidingRounds

/-!
Scripts and collisions. While a session is only started, stopped and run frame by frame, the
collisions that it has published say all about its scripts: in the script of each actor the first
move has been reversed as often as the actor is named among them, and nothing else is different
from the beginning. The log may be longer than what the bus remembers of it, and it goes on over
all runs of the session.

What is proved, over all histories of this kind in which no frame fails:
  1. `Logged.perform`: what an operation adds to the log, it adds to the scripts, the
     counter and the bus;
  2. `scripts_follow_log`: the scripts, the counter of the reaction and the bus are
     what the log says.
-/
namespace ScriptedStage

namespace Session

variable {s t : Session} {o : SessionOptions}

/-- The collisions that a history publishes. -/
def collisionLog (s : Session) : List SessionOp → List CollisionEvent
  | [] => []
  | op :: ops => s.published op ++ (s.perform op).1.collisionLog ops

/-- The session is what a log of collisions makes of its beginning. -/
structure Logged (o : SessionOptions) (s : Session) (log : List CollisionEvent) : Prop where
  scripts : s.stage.actors.map (fun a => (a.id, a.script)) =
    o.initial.actors.map fun a => (a.id, a.script.reversed (log.countP (·.names a.id)))
  handled : s.handled = log.length
  history : s.bus.history = s.bus.recent (log.map Event.collision)

theorem create_logged (o : SessionOptions) : Logged o (create o) [] := by
  obtain ⟨j, -, heq⟩ := create_begins o
  have hbus : (prepared o).bus.history = (prepared o).bus.recent [] := by
    unfold prepared
    cases o.collisions <;> rfl
  have hscripts : o.initial.actors.map (fun a => (a.id, a.script)) =
      o.initial.actors.map fun a =>
        (a.id, a.script.reversed (([] : List CollisionEvent).countP (·.names a.id))) := rfl
  rw [heq]
  split
  · exact ⟨hscripts, rfl, hbus⟩
  · exact ⟨hscripts, rfl, hbus⟩

/-- A start or a stop touches neither the actors nor the bus. -/
theorem Follows.quiet {i : Intent} (h : Follows s i t) (htouch : touchesActors i = false) :
    t.stage.actors = s.stage.actors ∧ t.handled = s.handled ∧ t.bus = s.bus := by
  cases h with
  | nothing => exact ⟨rfl, rfl, rfl⟩
  | alone _ hafter => exact ⟨Stage.reduce_actors htouch hafter, rfl, rfl⟩
  | edited _ hafter _ => exact ⟨Stage.reduce_actors htouch hafter, rfl, rfl⟩
  | started _ _ => exact ⟨rfl, rfl, rfl⟩
  | stopped _ _ => exact ⟨rfl, rfl, rfl⟩

/-- A round adds what it publishes to the log. -/
theorem Logged.played {log events : List CollisionEvent} {r : Round} {g : Actor → Actor}
    {m : Option CollisionMonitor} (h : Logged o s log) (hplayed : Played s t r g m events) :
    Logged o t (log ++ events) := by
  refine ⟨?_, ?_, ?_⟩
  · -- the scripts ask for no change of a script, so only the answers change them
    have hstep : t.stage.actors.map (fun a => (a.id, a.script)) =
        (s.stage.actors.map fun a => (a.id, a.script)).map
          fun p => (p.1, p.2.reversed (events.countP (·.names p.1))) := by
      rw [hplayed.actors, List.map_map, List.map_map]
      refine List.map_congr_left fun a ha => ?_
      obtain ⟨hid, hscript⟩ := Actor.changedBy_keeps (hplayed.patched a ha)
      simp only [Function.comp_apply, Actor.reversed, hid, hscript]
    rw [hstep, h.scripts, List.map_map]
    refine List.map_congr_left fun a _ => ?_
    simp only [Function.comp_apply, Script.reversed_reversed, List.countP_append]
  · rw [hplayed.handled, h.handled, List.length_append]
  · obtain ⟨history, hbus, hlog⟩ := hplayed.bus
    rw [hbus, List.map_append]
    exact hlog _ h.history

/-- A start or a stop adds nothing to the log. -/
theorem Logged.follows {log : List CollisionEvent} {i : Intent} (h : Logged o s log)
    (hfollows : Follows s i t) (htouch : touchesActors i = false) (j : Journal) :
    Logged o { t with journal := j } log := by
  obtain ⟨hactors, hhandled, hbus⟩ := hfollows.quiet htouch
  exact ⟨hactors ▸ h.scripts, hhandled.trans h.handled, hbus ▸ h.history⟩

theorem Logged.perform {log : List CollisionEvent} {op : SessionOp} (h : Logged o s log) (hs : Driven o s)
    (hop : op.drives = true) (hok : op.runsFrames = true → (s.perform op).2 = none) :
    Logged o (s.perform op).1 (log ++ s.published op) := by
  cases op with
  | start =>
    obtain ⟨t, j, hfollows, heq⟩ := attempt_follows s .startRun (·.isSome)
    rw [show (s.perform .start).1 = _ from heq, show s.published .start = [] from rfl, List.append_nil]
    exact h.follows hfollows rfl j
  | halt =>
    obtain ⟨t, j, hfollows, heq⟩ := attempt_follows s .stopRun (·.isSome)
    rw [show (s.perform .halt).1 = _ from heq, show s.published .halt = [] from rfl, List.append_nil]
    exact h.follows hfollows rfl j
  | step =>
    have hframe := step_played hs.tracked.scheduled hs.orderly hs.wired.reacts (hok rfl)
    split at hframe
    · obtain ⟨-, r, g, m, hplayed⟩ := hframe
      exact h.played hplayed
    · obtain ⟨hsame, hnone⟩ := hframe
      rw [hsame, hnone, List.append_nil]
      exact h
  | _ => cases hop

theorem Logged.after {log : List CollisionEvent} {ops : List SessionOp} (h : Logged o s log)
    (hs : Driven o s) (hops : ∀ op ∈ ops, op.drives = true) (hframes : s.unfailing ops = true) :
    Logged o (s.after ops) (log ++ s.collisionLog ops) := by
  induction ops generalizing s log with
  | nil =>
    rw [collisionLog, List.append_nil]
    exact h
  | cons op ops ih =>
    obtain ⟨hop, hrest⟩ := List.forall_mem_cons.mp hops
    obtain ⟨hok, hlater⟩ := unfailing_cons.mp hframes
    rw [collisionLog, ← List.append_assoc]
    exact ih (h.perform hs hop hok) (hs.perform hop hok) hrest hlater

/-- A session over a well-formed stage after any history of starts, stops and frames in which no
frame fails. Every script is as it was in the beginning, except that its first move in pre-order, if
it has one, has been reversed as often as its actor is named in the log; the reaction has counted
all collisions of the log; and the bus remembers the last of them. -/
theorem scripts_follow_log (o : SessionOptions) {h : FrameHost FrameRequest} (hhost : o.host = .manual h)
    (hpending : h.pending = []) (hinitial : o.initial.WellFormed) {ops : List SessionOp}
    (hops : ∀ op ∈ ops, op.drives = true) (hframes : (create o).unfailing ops = true) :
    ((create o).after ops).stage.actors.map (fun a => (a.id, a.script)) =
        o.initial.actors.map (fun a =>
          (a.id, a.script.reversed (((create o).collisionLog ops).countP (·.names a.id)))) ∧
      ((create o).after ops).handled = ((create o).collisionLog ops).length ∧
      ((create o).after ops).bus.history =
        ((create o).after ops).bus.recent (((create o).collisionLog ops).map Event.collision) := by
  have hlogged := (create_logged o).after (create_driven hhost hpending hinitial) hops hframes
  rw [List.nil_append] at hlogged
  exact ⟨hlogged.scripts, hlogged.handled, hlogged.history⟩

/-- A cat that jumps away from a dog and back, with its move, by a number that is given as a text,
in a loop; the dog, whose move has no number; and an owl that is near the dog. -/
def crowdedStage : SessionOptions :=
  let flag : Block := ⟨"f", BlockType.flagClicked, [], none⟩
  let say (id : String) : Block := ⟨id, BlockType.say, [.str "hi"], none⟩
  let jump (id : String) (x : Int) : Block := ⟨id, BlockType.goTo, [.int x, .int 0], none⟩
  let move (values : List Value) : Block := ⟨"m", BlockType.moveSteps, values, none⟩
  { initial :=
      { actors :=
          [{ id := "cat-1", script := [flag, jump "a" 0, jump "b" 400, jump "c" 35,
              ⟨"r", BlockType.repeatTimes, [.int 5], some [say "d", move [.str "12.5"]]⟩] },
           { id := "dog-1", x := .float 30, script := [flag, say "a", say "b", say "c", say "d", move []] },
           { id := "owl-1", x := .float 70, script := [flag, say "a", say "b", say "c", say "d"] }] } }

/-- A run that is stopped, and the beginning of another. -/
def twoRuns : List SessionOp := [.start, .step, .step, .step, .halt, .start, .step]

/-- The cat is in four of six collisions and the dog in five, so the move of the cat is as it was,
but for its kind, and that of the dog is reversed. -/
theorem scripts_follow_log_crowdedStage :
    ((create crowdedStage).collisionLog twoRuns).map (fun e => (e.first, e.second, e.tick)) =
        [("cat-1", "dog-1", 1), ("dog-1", "owl-1", 1), ("cat-1", "dog-1", 3), ("cat-1", "owl-1", 3),
          ("cat-1", "dog-1", 4), ("dog-1", "owl-1", 4)] ∧
      ((create crowdedStage).after twoRuns).stage.actors.map (fun a => (a.id, a.script)) =
        crowdedStage.initial.actors.map (fun a =>
          (a.id, a.script.reversed (((create crowdedStage).collisionLog twoRuns).countP (·.names a.id)))) ∧
      ((create crowdedStage).after twoRuns).handled = 6 := by
  have hlog : ((create crowdedStage).collisionLog twoRuns).map (fun e => (e.first, e.second, e.tick)) =
      [("cat-1", "dog-1", 1), ("dog-1", "owl-1", 1), ("cat-1", "dog-1", 3), ("cat-1", "owl-1", 3),
        ("cat-1", "dog-1", 4), ("dog-1", "owl-1", 4)] := by decide +kernel
  obtain ⟨hscripts, hhandled, -⟩ :=
    scripts_follow_log crowdedStage rfl rfl (by decide) (by decide : ∀ op ∈ twoRuns, op.drives = true)
      (by decide +kernel)
  refine ⟨hlog, hscripts, hhandled.trans ?_⟩
  have hlength := congrArg List.length hlog
  rwa [List.length_map] at hlength

end Session

end ScriptedStage
