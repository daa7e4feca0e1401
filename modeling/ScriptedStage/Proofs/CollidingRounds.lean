import ScriptedStage.Proofs.EditedRuns
import ScriptedStage.Proofs.MoveReversal
import ScriptedStage.Proofs.Restarts
import ScriptedStage.Proofs.SeparateRuns

/-!
Rounds with collisions. After the actors have been changed by their scripts the monitor looks at
them, and every collision that it tells of is published and answered before the next one. So the
changes of a round are those that the scripts asked for, and after them one reversal for each
collision that names the actor.

What is proved, for a round that does not fail:
  1. `announce_ok`: what announcing collisions does to the stage, the bus and the
     counter of the reaction;
  2. `Orderly.tick_played`: all that a round does to an orderly session, from what each actor does
     and what the monitor tells;
  3. `step_played`: a frame is such a round, or there is none to run;
  4. `Driven.perform`: what holds between starts, stops and frames that do not fail.
-/
namespace ScriptedStage

/-- Starts, stops and frames. -/
def SessionOp.drives : SessionOp → Bool
  | .start | .halt | .step => true
  | _ => false

theorem Act.attempt_ok {α : Type} {m : Act α} {s : Session} (h : (m.attempt s).2 = none) :
    ∃ a, m s = ((m.attempt s).1, .ok a) := by
  unfold attempt at h ⊢
  split at h
  · rename_i hr
    rw [hr]
    exact ⟨_, rfl⟩
  · cases h

namespace Session

open Act

variable {s s' t : Session}

/-! ## Answers to collisions -/

/-- The session answered collisions: each actor was reversed once for each of them that names it,
the reaction has counted them, and they are the last events on the bus. -/
structure Answered (events : List CollisionEvent) (s s' : Session) : Prop where
  actors : s'.stage.actors = s.stage.actors.map fun a => a.reversed (events.countP (·.names a.id))
  handled : s'.handled = s.handled + events.length
  monitor : s'.monitor = s.monitor
  bus : ∃ history, s'.bus = { s.bus with history := history } ∧ ∀ log, s.bus.history = s.bus.recent log →
    history = s.bus.recent (log ++ events.map Event.collision)

/-- What is printed and recorded is no answer. -/
theorem Answered.unmoved (j : Journal) (r : Option Recorder) :
    Answered [] s { s with journal := j, recorder := r } where
  actors := (List.map_id _).symm
  handled := rfl
  monitor := rfl
  bus := ⟨s.bus.history, rfl, fun log hlog => by rw [List.map_nil, List.append_nil, hlog]⟩

theorem Answered.trans {es fs : List CollisionEvent} (h : Answered es s t) (h' : Answered fs t s') :
    Answered (es ++ fs) s s' := by
  refine ⟨?_, ?_, h'.monitor.trans h.monitor, ?_⟩
  · rw [h'.actors, h.actors, List.map_map]
    refine List.map_congr_left fun a _ => ?_
    rw [Function.comp_apply, Actor.reversed_reversed, List.countP_append]
    rfl
  · rw [h'.handled, h.handled, List.length_append, Nat.add_assoc]
  · obtain ⟨x, hx, hlog⟩ := h.bus
    obtain ⟨y, hy, hlog'⟩ := h'.bus
    refine ⟨y, by rw [hy, hx], fun log hs => ?_⟩
    rw [hx] at hlog'
    rw [List.map_append, ← List.append_assoc]
    exact hlog' _ (hlog log hs)

/-- The reaction to a collision of two actors that are there. -/
theorem react_ok {e : CollisionEvent} {u : Unit} (hs : s.Tidy)
    (hids : e.first ∈ s.stage.ids ∧ e.second ∈ s.stage.ids) (h : react e s = (s', .ok u)) :
    s'.stage.actors = s.stage.actors.map (fun a => a.reversed ([e].countP (·.names a.id))) ∧
      s'.handled = s.handled + 1 ∧ s'.monitor = s.monitor ∧ s'.bus = s.bus := by
  unfold react at h
  obtain ⟨s₁, _, hnote, h⟩ := Act.bind_ok.mp h
  obtain ⟨⟨j, rfl⟩, -⟩ := Act.report_ok hnote
  obtain ⟨s₂, intent, hintent, h⟩ := Act.bind_ok.mp h
  obtain ⟨rfl, hboth⟩ := Act.ofChecked_ok hintent
  obtain ⟨first, second, hfirst, hsecond, rfl⟩ := Checked.both_ok hboth
  obtain rfl := Schema.nonEmptyText_ok hfirst
  obtain rfl := Schema.nonEmptyText_ok hsecond
  obtain ⟨s₃, new, hdispatch, h⟩ := Act.bind_ok.mp h
  obtain rfl := Act.change_ok.mp h
  have hstage := dispatch_stage hdispatch rfl fun after hafter =>
    (Stage.handleCollision_keeps hs.distinct hafter).2
  obtain ⟨t, k, hfollows, -, heq⟩ :=
    dispatch_follows (.handleCollision e.first e.second) { s with journal := j }
  rw [hdispatch] at heq
  refine ⟨?_, ?_⟩
  · show s₃.stage.actors = _
    rw [hstage]
    exact Stage.handleCollision_actors hs.distinct hids.1 hids.2
  · obtain rfl : s₃ = _ := heq
    cases hfollows <;> exact ⟨rfl, rfl, rfl⟩

/-- A collision is published once, and the one reaction answers it. -/
theorem publish_ok {e : CollisionEvent} {u : Unit} (hs : s.Tidy)
    (hhandlers : s.bus.handlersOf .collision = [.reverseMoves])
    (hids : e.first ∈ s.stage.ids ∧ e.second ∈ s.stage.ids) (h : publish e s = (s', .ok u)) :
    Answered [e] s s' := by
  unfold publish at h
  rw [Act.read_bind] at h
  have hcalled : (s.bus.publish (.collision e)).2 = [.reverseMoves] := hhandlers
  simp only [hcalled] at h
  rw [Act.change_bind] at h
  obtain ⟨s₁, _, hemit, h⟩ := Act.bind_ok.mp h
  obtain ⟨r, rfl⟩ := emit_ok hemit
  obtain ⟨s₂, _, hreport, h⟩ := Act.bind_ok.mp h
  obtain ⟨⟨j, rfl⟩, -⟩ := Act.report_ok hreport
  unfold callReactions callReactions at h
  obtain ⟨s₃, _, hreact, h⟩ := Act.bind_ok.mp h
  obtain ⟨rfl, -⟩ := Act.pure_ok.mp h
  have hs₂ : Tidy { s with bus := (s.bus.publish (.collision e)).1, recorder := r, journal := j } :=
    ⟨hs.distinct, hs.mirrored⟩
  obtain ⟨hactors, hhandled, hmonitor, hbus⟩ := react_ok hs₂ hids hreact
  refine ⟨hactors, hhandled, hmonitor, _, hbus, fun log hlog => ?_⟩
  rw [hlog, EventBus.recent_append, List.map_singleton]

/-- Collisions of actors that are there are answered one after another. -/
theorem announce_ok {events : List CollisionEvent} {u : Unit} (hs : s.Tidy)
    (hhandlers : s.bus.handlersOf .collision = [.reverseMoves])
    (hids : ∀ e ∈ events, e.first ∈ s.stage.ids ∧ e.second ∈ s.stage.ids)
    (h : announce events s = (s', .ok u)) : Answered events s s' := by
  induction events generalizing s with
  | nil =>
    obtain ⟨rfl, -⟩ := Act.pure_ok.mp h
    exact .unmoved s.journal s.recorder
  | cons e events ih =>
    unfold announce at h
    obtain ⟨s₁, _, hnote, h⟩ := Act.bind_ok.mp h
    obtain ⟨⟨j, rfl⟩, -⟩ := Act.report_ok hnote
    obtain ⟨s₂, _, hpublish, h⟩ := Act.bind_ok.mp h
    have hs₁ : Tidy { s with journal := j } := ⟨hs.distinct, hs.mirrored⟩
    have hfirst := publish_ok hs₁ hhandlers (hids e List.mem_cons_self) hpublish
    have hu := Calm.publish e hs₁ hpublish
    have hhandlers₂ : s₂.bus.handlersOf .collision = [.reverseMoves] := by
      obtain ⟨history, hbus, -⟩ := hfirst.bus
      rw [hbus]
      exact hhandlers
    have hrest := ih (hs₁.of_undisturbed hu) hhandlers₂
      (fun f hf => Stage.ids_eq_of_shapes hu.shapes ▸ hids f (List.mem_cons_of_mem e hf)) h
    exact (Answered.unmoved j s.recorder).trans (hfirst.trans hrest)

end Session

/-! ## The look of the monitor -/

namespace CollisionMonitor

/-- A check that does not fail comes to what is told of a roster whose boxes can be computed. -/
theorem told_of_check {m m' : CollisionMonitor} {actors : List Actor} {tick : Int}
    {events : List CollisionEvent} (h : (m.check actors (.ok tick)).2 = .ok (m', events)) :
    Told m actors tick m' events := by
  have hmeasurable : Measurable actors := by
    rw [check_eq] at h
    cases hboxes : (boxed actors).2 with
    | error fault => rw [hboxes] at h; cases h
    | ok boxes => exact (boxed_ok hboxes).1
  obtain ⟨m₁, events₁, hcheck, htold⟩ := check_told m hmeasurable tick
  rw [hcheck] at h
  cases h
  exact htold

/-- A monitor tells of actors that are there. -/
theorem Told.present {m m' : CollisionMonitor} {actors : List Actor} {tick : Int}
    {events : List CollisionEvent} (h : Told m actors tick m' events) {e : CollisionEvent}
    (he : e ∈ events) :
    e.first ∈ actors.map (·.id) ∧ e.second ∈ actors.map (·.id) := by
  obtain ⟨-, ⟨a, ha, b, hb, hfirst, hsecond, -⟩, -⟩ := h.mem_events.mp (List.mem_map_of_mem he)
  exact ⟨List.mem_map.mpr ⟨a, ha, hfirst⟩, List.mem_map.mpr ⟨b, hb, hsecond⟩⟩

end CollisionMonitor

namespace Session

open Act

variable {s s' t : Session}

/-- What a look for collisions comes to, with a monitor and without. -/
def Looks (m : Option CollisionMonitor) (actors : List Actor) (tick : Int) (m' : Option CollisionMonitor)
    (events : List CollisionEvent) : Prop :=
  match m, m' with
  | none, none => events = []
  | some m, some m' => (m.check actors (.ok tick)).2 = .ok (m', events)
  | _, _ => False

/-- The reaction answers the collisions of a session that looks for them. -/
def Reacts (s : Session) : Prop := s.monitor.isSome = true → s.bus.handlersOf .collision = [.reverseMoves]

theorem watch_ok {events : List CollisionEvent} (hs : s.Tidy) (hrun : s.stage.running = true)
    (hreacts : s.Reacts) (h : watch s = (s', .ok events)) :
    ∃ m, Looks s.monitor s.stage.actors s.ticks m events ∧ Answered events { s with monitor := m } s' := by
  cases hm : s.monitor with
  | none =>
    rw [watch_of_none hm] at h
    cases h
    refine ⟨none, rfl, ?_⟩
    have hsame : ({ s with monitor := none } : Session) = s := by rw [← hm]
    rw [hsame]
    exact .unmoved s.journal s.recorder
  | some m =>
    unfold watch at h
    rw [Act.read_bind, hm] at h
    simp only at h
    rw [Act.read_bind] at h
    simp only [if_pos hrun] at h
    rw [Act.read_bind, Act.read_bind] at h
    obtain ⟨s₁, found, hreport, h⟩ := Act.bind_ok.mp h
    obtain ⟨⟨j, rfl⟩, hcheck⟩ := Act.report_ok hreport
    rw [Act.change_bind] at h
    obtain ⟨s₂, _, hannounce, h⟩ := Act.bind_ok.mp h
    obtain ⟨rfl, rfl⟩ := Act.pure_ok.mp h
    have hpresent := fun e he => (CollisionMonitor.told_of_check hcheck).present (e := e) he
    have hhandlers := hreacts (by rw [hm]; rfl)
    have hanswered :=
      announce_ok (s := { s with journal := j, monitor := some found.1 }) ⟨hs.distinct, hs.mirrored⟩
      hhandlers hpresent hannounce
    have hunmoved := Answered.unmoved (s := { s with monitor := some found.1 }) j s.recorder
    exact ⟨some found.1, hcheck, hunmoved.trans hanswered⟩

/-! ## A round -/

/-- Only the stage, the states of the actors and what is printed differ. -/
def Restaged (s t : Session) : Prop :=
  ∃ (stage : Stage) (x : Executions) (j : Journal),
  t = { s with stage := stage, executions := x, journal := j }

/-- The changes of a round are changes of the stage. -/
theorem applyDeltas_restages (s : Session) :
    ∀ deltas : List (String × Delta), Keeps (Restaged s) (applyDeltas deltas)
  | [] => .pure ()
  | (_, _) :: rest => by
    have hpatch : ∀ id p, Keeps (Restaged s) (dispatch (.updateActor id p)) := by
      refine fun id p => .of_fst fun t ht => ?_
      obtain ⟨stage, x, j, rfl⟩ := ht
      obtain ⟨t, k, hfollows, -, heq⟩ :=
        dispatch_follows (.updateActor id p) { s with stage := stage, executions := x, journal := j }
      rw [heq]
      cases hfollows <;> exact ⟨_, _, k, rfl⟩
    unfold applyDeltas
    exact .bind (.ofChecked _) fun p => .bind (.ofChecked _) fun id =>
      .bind (hpatch id p) fun _ => applyDeltas_restages s rest

/-- The end of a round: the run is over if a script is complete, and then the monitor
forgets what it saw. -/
theorem Ends.eq {completed : List String} (h : Ends completed s s') (hrun : s.stage.running = true)
    (hfollow : s.following = true) :
    ∃ (host : SessionHost) (awaited : Option Nat) (j : Journal),
      s' = { s with
        stage := { s.stage with running := completed.isEmpty }
        monitor := if completed.isEmpty then s.monitor else s.monitor.map (·.reset)
        host := host, awaited := awaited, journal := j } := by
  unfold Ends at h
  cases hc : completed.isEmpty with
  | true =>
    rw [hc, if_pos rfl, if_pos hrun, requestFrame_eq] at h
    have hstage : { s.stage with running := true } = s.stage := by rw [← hrun]
    obtain rfl := congrArg Prod.fst h
    rw [hstage]
    exact ⟨s.asking.host, s.asking.awaited, s.journal, rfl⟩
  | false =>
    rw [hc, if_neg Bool.false_ne_true] at h
    obtain ⟨new, hstop⟩ := h
    obtain ⟨t, j, hfollows, -, heq⟩ := dispatch_follows .stopRun s
    have hrests := stop_rests hstop
    rw [hstop] at heq
    obtain rfl : s' = _ := heq
    cases hfollows with
    | nothing => exact absurd (hrun.symm.trans hrests) (by decide)
    | alone hclosed _ => exact absurd (hfollow.symm.trans hclosed) (by decide)
    | edited _ _ hsame => exact absurd ((hsame.trans hrun).symm.trans hrests) (by decide)
    | stopped _ _ => exact ⟨s.withdrawn.host, none, j, rfl⟩

/-- A round that came to its end: `g` is what the scripts made of the actors, and `events` are the
collisions that the monitor told of when it saw them so. -/
structure Played (s s' : Session) (r : Round) (g : Actor → Actor) (m : Option CollisionMonitor)
    (events : List CollisionEvent) : Prop where
  round : (Round.play s.interpreter s.stage.actors s.executions).2 = .ok r
  patched : ∀ a ∈ s.stage.actors, a.changedBy r.deltas = .ok (g a)
  looks : Looks s.monitor (s.stage.actors.map g) (s.ticks + 1 : Nat) m events
  actors : s'.stage.actors = s.stage.actors.map fun a => (g a).reversed (events.countP (·.names a.id))
  states : ∀ id ∈ s.stage.ids, s'.executions.get? id = r.states.get? id
  running : s'.stage.running = r.completed.isEmpty
  monitor : s'.monitor = if r.completed.isEmpty then m else m.map (·.reset)
  handled : s'.handled = s.handled + events.length
  bus : ∃ history, s'.bus = { s.bus with history := history } ∧ ∀ log, s.bus.history = s.bus.recent log →
    history = s.bus.recent (log ++ events.map Event.collision)

/-- All that a round of an orderly session does, if it does not fail. -/
theorem Orderly.tick_played (h : s.Orderly) (hrun : s.stage.running = true) (hreacts : s.Reacts) {u : Unit}
    (ht : tick s = (s', .ok u)) :
    ∃ r g m events, (openRound s).2 = .ok events ∧ Played s s' r g m events := by
  obtain ⟨r, j, s₃, s₄, s₅, events, hopen, hr, hdeltas, hwatch, hemit, hends⟩ := Session.tick_parts hrun ht
  have hfit := h.states.round h.behaviours h.wellFormed.actorIds h.wellFormed.blockIds hr
  have htidy : (s.afterRound r j).Tidy := ⟨h.tidy.distinct, hfit.mirrored⟩
  have hextends := Round.play_ok h.wellFormed.actorIds hr
  have hkeys : (Assoc.keys r.deltas).Nodup := by
    rw [hextends.deltas]
    exact h.wellFormed.actorIds.sublist (keys_changes _ _ _)
  -- the scripts change the actors, and nothing but the stage, before the monitor looks
  obtain ⟨g, hg, hchanged⟩ := applyDeltas_actors htidy hkeys hdeltas
  have hu₃ := Calm.applyDeltas _ htidy hdeltas
  have hrestaged := (applyDeltas_restages (s.afterRound r j) r.deltas ⟨_, _, _, rfl⟩).1 _ _ hdeltas
  have htidy₃ := htidy.of_undisturbed hu₃
  have hreacts₃ : s₃.Reacts := by
    obtain ⟨stage, x, k, rfl⟩ := hrestaged
    exact hreacts
  obtain ⟨m, hlooks, hanswered⟩ := watch_ok htidy₃ (hu₃.running.trans hrun) hreacts₃ hwatch
  have hu₄ := hu₃.trans (Calm.watch htidy₃ hwatch)
  obtain ⟨recorder, rfl⟩ := emit_ok hemit
  obtain ⟨host, awaited, k, rfl⟩ := hends.eq (hu₄.running.trans hrun) (hu₄.following.trans h.following)
  have hmonitor₄ : s₄.monitor = m := hanswered.monitor
  refine ⟨r, g, m, events, by rw [hopen], hr, hchanged, ?_, ?_, hu₄.executions, rfl, ?_, ?_, ?_⟩
  · obtain ⟨stage, x, k, rfl⟩ := hrestaged
    exact hg ▸ hlooks
  · show s₄.stage.actors = _
    rw [hanswered.actors]
    show s₃.stage.actors.map _ = _
    rw [hg, List.map_map]
    refine List.map_congr_left fun a ha => ?_
    rw [Function.comp_apply, (Actor.changedBy_keeps (hchanged a ha)).1]
  · show (if r.completed.isEmpty then s₄.monitor else s₄.monitor.map (·.reset)) = _
    rw [hmonitor₄]
  · obtain ⟨stage, x, k, rfl⟩ := hrestaged
    exact hanswered.handled
  · obtain ⟨stage, x, k, rfl⟩ := hrestaged
    exact hanswered.bus

/-! ## A frame -/

/-- The collisions that an operation publishes: those of the round that a frame runs. -/
def published (s : Session) : SessionOp → List CollisionEvent
  | .step =>
    match s.host with
    | .manual h =>
      if h.pending.isEmpty then [] else
        (openRound { s with host := .manual h.takeBatch.1 }).2.toOption.getD []
    | .outside .. => []
  | _ => []

/-- A frame that does not fail is a round of the run that waits for it; if none waits,
nothing happens. -/
theorem step_played (hs : Scheduled s) (h : s.Orderly) (hreacts : s.Reacts)
    (hok : (s.perform .step).2 = none) :
    if s.awaited.isSome then
      s.stage.running = true ∧ ∃ r g m, Played s (s.perform .step).1 r g m (s.published .step)
    else (s.perform .step).1 = s ∧ s.published .step = [] := by
  obtain ⟨b, hframe⟩ := Act.attempt_ok (m := Session.step) hok
  cases hsome : s.awaited.isSome with
  | false =>
    have hidle := HostIdle.of_scheduled hs (by simpa using hsome)
    have hnothing : Session.step s = (s, .ok false) := frame_of_idle hidle "tick"
    obtain ⟨host, hhost, hpending⟩ := hidle
    refine ⟨?_, by simp [published, hhost, hpending]⟩
    show (Session.step.attempt s).1 = s
    unfold Act.attempt
    rw [hnothing]
  | true =>
    have hrun := (hs.running hsome).1
    obtain ⟨host, n, hhost, hpending⟩ := HostWaits.of_scheduled hs hsome
    obtain ⟨-, s₁, htick, heq⟩ := frame_parts hhost hpending hframe
    have h₀ : Orderly { s with host := .manual { host with pending := [] } } :=
      lasting_orderly.hosted (s := s) _ s.awaited h
    obtain ⟨r, g, m, events, hopen, hplayed⟩ := h₀.tick_played hrun hreacts htick
    have hpublished : s.published .step = events := by
      simp only [published, hhost, hpending, List.isEmpty_cons, Bool.false_eq_true, if_false,
        FrameHost.takeBatch, hopen, Except.toOption, Option.getD_some]
    refine ⟨hrun, r, g, m, ?_⟩
    rw [hpublished, show (s.perform .step).1 = _ from heq]
    exact { hplayed with }

/-! ## Starts, stops and frames -/

/-- No frame of a history fails. -/
def unfailing (s : Session) : List SessionOp → Bool
  | [] => true
  | op :: ops => !(op.runsFrames && (s.perform op).2.isSome) && (s.perform op).1.unfailing ops

theorem unfailing_cons {op : SessionOp} {ops : List SessionOp} :
    s.unfailing (op :: ops) = true ↔
      (op.runsFrames = true → (s.perform op).2 = none) ∧ (s.perform op).1.unfailing ops = true := by
  rw [unfailing, Bool.and_eq_true]
  refine and_congr_left fun _ => ?_
  cases op.runsFrames <;> simp

/-- An intent that is all of an operation, apart from what is printed. -/
theorem attempt_follows {α : Type} (s : Session) (i : Intent) (f : Option Stage → α) :
    ∃ t j, Follows s i t ∧
      ((dispatch i >>= fun new => pure (f new) : Act α).attempt s).1 = { t with journal := j } := by
  obtain ⟨t, j, hfollows, -, heq⟩ := dispatch_follows i s
  refine ⟨t, j, hfollows, ?_⟩
  rw [← heq]
  simp only [Act.attempt, bind]
  rcases dispatch i s with ⟨s', e | new⟩ <;> rfl

variable {o : SessionOptions}

/-- A session that was only started, stopped and run, with no frame that failed. -/
structure Driven (o : SessionOptions) (s : Session) : Prop where
  tracked : Tracked s false
  orderly : s.Orderly
  wired : Wired o s

theorem create_driven {h : FrameHost FrameRequest} (hhost : o.host = .manual h) (hpending : h.pending = [])
    (hinitial : o.initial.WellFormed) : Driven o (create o) :=
  ⟨.of_attended (create_attended hhost hpending), create_orderly hinitial, (create_wired o).1⟩

theorem Driven.perform {op : SessionOp} (h : Driven o s) (hop : op.drives = true)
    (hok : op.runsFrames = true → (s.perform op).2 = none) : Driven o (s.perform op).1 := by
  have hopen : .close ∉ [op] := by
    rw [List.mem_singleton]
    rintro rfl
    cases hop
  have horderly : (s.after [op]).Orderly := lasting_orderly.after hopen h.orderly
  have hwired : Wired o (s.after [op]) := (lasting_wired o).after hopen h.wired
  refine ⟨?_, horderly, hwired⟩
  have htracked := h.tracked.perform op
  have hquiet : (op.runsFrames && (s.perform op).2.isSome) = false := by
    cases hframes : op.runsFrames with
    | false => rfl
    | true => rw [hok hframes]; rfl
  rwa [hquiet, Bool.or_self, Bool.and_false] at htracked

/-- The reaction that a session was made with answers its collisions. -/
theorem Wired.reacts (h : Wired o s) : s.Reacts := by
  intro hsome
  have hwatching : (prepared o).monitor.isSome = true := by
    rw [← h.watching, Option.isSome_map, hsome]
  rw [EventBus.handlersOf, h.handlers]
  cases hc : o.collisions with
  | true => simp [prepared, hc, EventBus.subscribe]
  | false => simp [prepared, hc] at hwatching

end Session

end ScriptedStage
