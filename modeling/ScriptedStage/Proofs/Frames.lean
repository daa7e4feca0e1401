import ScriptedStage.Proofs.Rounds
import ScriptedStage.Proofs.SessionEffects

/-!
Frames of a run. Between two frames of a run every actor that takes part is ready for the leaves
that are left of its script (`Session.Underway`). A frame runs the first of these leaves for each of
them. It ends the run when one of them had no other leaf left, and otherwise leaves the run under
way with one leaf less for each, whatever collisions did to the scripts in the meantime.

What is proved:
  1. `tick_parts`: a round of a running stage is the round of the scripts, the changes of
     the actors, the look for collisions, the record, and the end of the run or the
     request of the next frame;
  2. `frame_underway`: what a frame does to the run, as above;
  3. `start_underway`: a run that starts is under way, with all the leaves of every script left.
-/
namespace ScriptedStage

open Block

namespace Session

variable {s s' : Session}

/-! ## The parts of a round -/

/-- How a round ends: with the run if a script is complete, else with the request of
the next frame. -/
def Ends (completed : List String) (s s' : Session) : Prop :=
  if completed.isEmpty then
    if s.stage.running then requestFrame s = (s', .ok ()) else s' = s
  else ∃ new, dispatch .stopRun s = (s', .ok new)

/-- A session once the scripts have played a round. -/
def afterRound (s : Session) (r : Round) (j : Journal) : Session :=
  { s with awaited := none, ticks := s.ticks + 1, journal := j, executions := r.states }

/-- A round up to the look for collisions; gives those that it has published. -/
def openRound : Act (List CollisionEvent) := do
  .change fun s => { s with awaited := none }
  if ← Act.read (·.stage.running) then
    .change fun s => { s with ticks := s.ticks + 1 }
    let round ← fun s => Act.report (Round.play s.interpreter s.stage.actors s.executions) s
    .change fun s => { s with executions := round.states }
    applyDeltas round.deltas
    watch
  else return []

theorem tick_parts {u : Unit} (hrun : s.stage.running = true) (h : tick s = (s', .ok u)) :
    ∃ (r : Round) (j : Journal) (s₃ s₄ s₅ : Session) (events : List CollisionEvent),
      openRound s = (s₄, .ok events) ∧
      (Round.play s.interpreter s.stage.actors s.executions).2 = .ok r ∧
      applyDeltas r.deltas (s.afterRound r j) = (s₃, .ok ()) ∧
      watch s₃ = (s₄, .ok events) ∧
      emit "scheduler" (roundRecord s₄.ticks r events) s₄ = (s₅, .ok ()) ∧
      Ends r.completed s₅ s' := by
  unfold tick at h
  rw [Act.change_bind, Act.read_bind] at h
  simp only [if_pos hrun] at h
  rw [Act.change_bind] at h
  obtain ⟨s₂, r, hplay, h⟩ := Act.bind_ok.mp h
  obtain ⟨⟨j, rfl⟩, hr⟩ := Act.report_ok hplay
  rw [Act.change_bind] at h
  obtain ⟨s₃, _, hdeltas, h⟩ := Act.bind_ok.mp h
  obtain ⟨s₄, events, hwatch, h⟩ := Act.bind_ok.mp h
  rw [Act.read_bind] at h
  obtain ⟨s₅, _, hemit, h⟩ := Act.bind_ok.mp h
  have hopen : openRound s = (s₄, .ok events) := by
    unfold openRound
    rw [Act.change_bind, Act.read_bind]
    simp only [if_pos hrun]
    rw [Act.change_bind]
    refine (Act.bind_of_ok hplay).trans ?_
    rw [Act.change_bind]
    exact (Act.bind_of_ok hdeltas).trans hwatch
  refine ⟨r, j, s₃, _, s₅, events, hopen, hr, hdeltas, hwatch, hemit, ?_⟩
  unfold Ends
  cases hc : r.completed.isEmpty with
  | false =>
    simp only [hc] at h
    obtain ⟨s₆, new, hstop, h⟩ := Act.bind_ok.mp h
    obtain ⟨rfl, -⟩ := Act.pure_ok.mp h
    exact ⟨new, hstop⟩
  | true =>
    simp only [hc, Bool.not_true, Bool.false_eq_true, if_false] at h
    rw [Act.read_bind] at h
    split at h
    · rename_i hr
      simp only [hr, if_true]
      exact h
    · rename_i hr
      simp only [hr, if_true]
      exact (Act.pure_ok.mp h).1.symm

theorem cancelFrame_of_none (h : s.awaited = none) : cancelFrame s = (s, .ok ()) := by
  simp only [cancelFrame, Act.change, h]

theorem cancelFrame_ok {u : Unit} (hc : cancelFrame s = (s', .ok u)) (h : s.awaited = none) : s' = s := by
  rw [cancelFrame_of_none h, Prod.mk.injEq] at hc
  exact hc.1.symm

theorem follow_start {before after : Stage} (hb : before.running = false) (ha : after.running = true)
    (s : Session) : follow .startRun before after s = beginRun s := by
  unfold follow
  rw [hb, ha]
  rfl

theorem follow_stop {before after : Stage} (hb : before.running = true) (ha : after.running = false)
    (s : Session) : follow .stopRun before after s = endRun s := by
  unfold follow
  rw [hb, ha]
  rfl

/-- The end of a run while no frame is awaited. -/
theorem stop_ok {new : Option Stage} (hrun : s.stage.running = true) (hfollow : s.following = true)
    (hawait : s.awaited = none) (h : dispatch .stopRun s = (s', .ok new)) :
    s'.stage = { s.stage with running := false } ∧ s'.host = s.host := by
  obtain ⟨j, ⟨hnone, -⟩ | ⟨after, hafter, h⟩⟩ := dispatch_ok h
  · simp [Stage.reduce, Stage.stopRun, hrun] at hnone
  · obtain rfl : { s.stage with running := false } = after := by
      simpa [Stage.reduce, Stage.stopRun, hrun] using hafter
    rw [if_pos hfollow, follow_stop hrun rfl] at h
    unfold endRun at h
    obtain ⟨s₁, _, hcancel, h⟩ := Act.bind_ok.mp h
    obtain rfl := cancelFrame_ok hcancel hawait
    rw [Act.change_bind, Act.read_bind] at h
    obtain ⟨⟨j', rfl⟩, -⟩ := Act.report_ok h
    exact ⟨rfl, rfl⟩

/-- The request of the next frame while no frame is awaited. -/
theorem requestFrame_of_none (h : s.awaited = none) :
    requestFrame s = ({ s with host := s.host.request.1, awaited := some s.host.request.2 }, .ok ()) := by
  unfold requestFrame
  rw [Act.bind_of_ok (cancelFrame_of_none h)]
  rfl

theorem requestFrame_ok {u : Unit} (hr : requestFrame s = (s', .ok u)) (h : s.awaited = none) :
    s' = { s with host := s.host.request.1, awaited := some s.host.request.2 } := by
  rw [requestFrame_of_none h, Prod.mk.injEq] at hr
  exact hr.1.symm

/-! ## A run under way -/

/-- The leaves that are left of the script of an actor. -/
def left (s : Session) (a : Actor) : List (Option Block) :=
  match s.executions.get? a.id with
  | none => []
  | some e => e.left a.script

/-- A run between two frames: every actor that takes part is ready for the leaves that are
left of its script. -/
structure Underway (s : Session) : Prop where
  tidy : s.Tidy
  running : s.stage.running = true
  following : s.following = true
  behaviours : s.interpreter.behaviours = builtInBehaviours
  ready : ∀ a ∈ s.stage.actors, a.script.Runnable → ∀ e, s.executions.get? a.id = some e →
    e.ReadyFor a.script

namespace Underway

variable {r : Round} {a : Actor}

theorem extends_round (h : s.Underway)
    (hr : (Round.play s.interpreter s.stage.actors s.executions).2 = .ok r) :
    Round.Extends s.interpreter s.stage.actors { states := s.executions } r :=
  Round.play_ok h.tidy.distinct.actorIds hr

/-- An actor that takes part runs the first of the leaves that are left of its script. -/
theorem turn (h : s.Underway) (hr : (Round.play s.interpreter s.stage.actors s.executions).2 = .ok r)
    (ha : a ∈ s.stage.actors) (hrun : a.script.Runnable) :
    ∃ e leaf rest step, s.executions.get? a.id = some e ∧ e.left a.script = leaf :: rest ∧
      (∀ l ∈ leaf, ¬l.Repeats) ∧ Round.taken s.interpreter s.executions a = some (e, step) ∧
      Round.Runs s.interpreter a e leaf rest step := by
  obtain ⟨e, he, helig⟩ := h.tidy.mirrored a ha
  obtain ⟨b, leaf, rest, hnext, hleft, hplain, hruns⟩ :=
    Round.turn h.behaviours he (helig.trans hrun.1) hrun.2
    (h.tidy.distinct.blockIds a ha) (h.ready a ha hrun e he)
  obtain ⟨step, hstep⟩ := (h.extends_round hr).steps a ha e b hnext
  exact ⟨e, leaf, rest, step, he, hleft, hplain, Round.taken_of_some hnext hstep, hruns step hstep⟩

/-- An actor that takes part has a leaf left. -/
theorem left_pos (h : s.Underway) (ha : a ∈ s.stage.actors) (hrun : a.script.Runnable) :
    0 < (s.left a).length := by
  obtain ⟨e, he, helig⟩ := h.tidy.mirrored a ha
  obtain ⟨b, leaf, rest, -, hleft, -⟩ := Round.turn h.behaviours he (helig.trans hrun.1) hrun.2
    (h.tidy.distinct.blockIds a ha) (h.ready a ha hrun e he)
  simp only [left, he, hleft, List.length_cons]
  omega

/-- An actor that does not take part does nothing. -/
theorem idle (h : s.Underway) (ha : a ∈ s.stage.actors) (hrun : ¬a.script.Runnable) :
    Round.taken s.interpreter s.executions a = none := by
  obtain ⟨e, he, helig⟩ := h.tidy.mirrored a ha
  refine Round.taken_of_none ?_
  have hout : e.eligible = false ∨ a.script.length ≤ 1 := by
    rw [helig]
    by_cases hl : a.script.length ≤ 1
    · exact .inr hl
    · exact .inl (Bool.eq_false_iff.mpr fun ht => hrun ⟨ht, by omega⟩)
  rcases hout with hout | hout <;> simp [Round.nextBlock?, he, hout]

/-- The states after a round still know which scripts can run. -/
theorem tidy_round (h : s.Underway) (hr : (Round.play s.interpreter s.stage.actors s.executions).2 = .ok r)
    (j : Journal) : (s.afterRound r j).Tidy := by
  refine ⟨h.tidy.distinct, fun a ha => ?_⟩
  obtain ⟨e, he, helig⟩ := h.tidy.mirrored a ha
  show ∃ e, r.states.get? a.id = some e ∧ _
  rw [(h.extends_round hr).states a ha]
  by_cases hrun : a.script.Runnable
  · obtain ⟨e', leaf, rest, step, he', -, -, htaken, hruns⟩ := h.turn hr ha hrun
    obtain rfl : e' = e := Option.some.inj (he'.symm.trans he)
    exact ⟨_, by rw [htaken]; rfl, hruns.eligible.trans helig⟩
  · exact ⟨e, by rw [h.idle ha hrun]; exact he, helig⟩

/-- A round completes a script exactly when an actor that takes part had one leaf left. -/
theorem completed_iff (h : s.Underway)
    (hr : (Round.play s.interpreter s.stage.actors s.executions).2 = .ok r) :
    r.completed ≠ [] ↔ ∃ a ∈ s.stage.actors, a.script.Runnable ∧ (s.left a).length = 1 := by
  rw [(h.extends_round hr).completed]
  simp only [List.nil_append, ne_eq, List.map_eq_nil_iff, List.filter_eq_nil_iff, not_forall,
    Classical.not_not, exists_prop]
  refine exists_congr fun a => and_congr_right fun ha => ?_
  by_cases hrun : a.script.Runnable
  · obtain ⟨e, leaf, rest, step, he, hleft, -, htaken, hruns⟩ := h.turn hr ha hrun
    simp [Round.endsBy, htaken, hruns.ends, left, he, hleft, hrun]
  · simp [Round.endsBy, h.idle ha hrun, hrun]

/-- When no script is complete, an actor that takes part is ready for what is left
after its first leaf. -/
theorem ready_round (h : s.Underway) (hr : (Round.play s.interpreter s.stage.actors s.executions).2 = .ok r)
    (hmore : r.completed = []) (ha : a ∈ s.stage.actors) (hrun : a.script.Runnable) :
    ∃ e, r.states.get? a.id = some e ∧ e.ReadyFor a.script ∧ e.left a.script = (s.left a).tail := by
  obtain ⟨e, leaf, rest, step, he, hleft, -, htaken, hruns⟩ := h.turn hr ha hrun
  have hrest : rest ≠ [] := by
    rintro rfl
    refine (h.completed_iff hr).mpr ⟨a, ha, hrun, ?_⟩ hmore
    simp [left, he, hleft]
  obtain ⟨hready, hnext⟩ := hruns.more hrest
  refine ⟨_, ?_, hready, ?_⟩
  · rw [(h.extends_round hr).states a ha, htaken]
    rfl
  · rw [hnext, left, he]
    simp only [hleft, List.tail_cons]

/-- A run that is not disturbed after a round without a complete script is under way. -/
theorem of_undisturbed (h : s.Underway)
    (hr : (Round.play s.interpreter s.stage.actors s.executions).2 = .ok r)
    (hmore : r.completed = []) {j : Journal} (hu : Undisturbed (s.afterRound r j) s') :
    s'.Underway where
  tidy := (h.tidy_round hr j).of_undisturbed hu
  running := hu.running.trans h.running
  following := hu.following.trans h.following
  behaviours := (congrArg _ hu.interpreter).trans h.behaviours
  ready a' ha' hrun' e' he' := by
    obtain ⟨a, ha, hid, hskel⟩ := Stage.exists_of_shapes hu.shapes ha'
    have hrun : a.script.Runnable := (Script.runnable_congr hskel).mpr hrun'
    obtain ⟨e, he, hready, -⟩ := h.ready_round hr hmore ha hrun
    obtain rfl : e = e' := by
      rw [← hid, hu.executions a.id (List.mem_map_of_mem ha)] at he'
      exact Option.some.inj (he.symm.trans he')
    exact ⟨hready.pointer, (readyNth_congr_shape hskel _).mp hready.loops⟩

end Underway

/-! ## Frames -/

/-- An actor that takes part has one leaf left. -/
def AtEnd (s : Session) : Prop := ∃ a ∈ s.stage.actors, a.script.Runnable ∧ (s.left a).length = 1

/-- A run that goes on: the first of the leaves that were left is gone from each script. -/
structure GoesOn (s s' : Session) : Prop where
  underway : s'.Underway
  shapes : s'.stage.shapes = s.stage.shapes
  interpreter : s'.interpreter = s.interpreter
  watching : s'.monitor.isSome = s.monitor.isSome
  left : ∀ a ∈ s.stage.actors, a.script.Runnable → s'.left a = (s.left a).tail

/-- The round of a run under way ends the run if an actor is at its end; else the run goes on. -/
theorem tick_underway {u : Unit} (h : s.Underway) (ht : tick s = (s', .ok u)) :
    (s.AtEnd ∧ s'.stage.running = false ∧ s'.host = s.host) ∨
      (¬s.AtEnd ∧ GoesOn s s' ∧ s'.host = s.host.request.1) := by
  obtain ⟨r, j, s₃, s₄, s₅, events, -, hr, hdeltas, hwatch, hemit, hends⟩ := tick_parts h.running ht
  -- everything between the round and its end leaves the run undisturbed
  have htidy := h.tidy_round hr j
  have hu₃ := Calm.applyDeltas _ htidy hdeltas
  have hu₄ := hu₃.trans (Calm.watch (htidy.of_undisturbed hu₃) hwatch)
  have hu := hu₄.trans (Calm.emit _ _ (htidy.of_undisturbed hu₄) hemit)
  have hrunning : s₅.stage.running = true := hu.running.trans h.running
  unfold Ends at hends
  by_cases hc : r.completed = []
  · right
    have hway := h.of_undisturbed hr hc hu
    simp only [hc, List.isEmpty_nil, if_true, hrunning] at hends
    obtain rfl := requestFrame_ok hends hu.awaited
    refine ⟨fun hend => (h.completed_iff hr).mpr hend hc, ⟨⟨⟨hway.tidy.distinct, hway.tidy.mirrored⟩,
      hway.running, hway.following, hway.behaviours, hway.ready⟩, hu.shapes, hu.interpreter, hu.watching,
      fun a ha hrun => ?_⟩, congrArg (·.request.1) hu.host⟩
    obtain ⟨e, he, -, hleft⟩ := h.ready_round hr hc ha hrun
    have hsame : s₅.executions.get? a.id = some e := (hu.executions a.id (List.mem_map_of_mem ha)).trans he
    rw [← hleft]
    simp only [left, hsame]
  · left
    rw [if_neg (by simpa using hc)] at hends
    obtain ⟨new, hstop⟩ := hends
    obtain ⟨hstage, hhost⟩ := stop_ok hrunning (hu.following.trans h.following) hu.awaited hstop
    exact ⟨(h.completed_iff hr).mp hc, congrArg (·.running) hstage, hhost.trans hu.host⟩

/-- The frame host waits for the next round of the run, and for nothing else. -/
def HostWaits (s : Session) : Prop := ∃ h n, s.host = .manual h ∧ h.pending = [(n, .tick)]

/-- No request waits at the frame host. -/
def HostIdle (s : Session) : Prop := ∃ h, s.host = .manual h ∧ h.pending = []

/-- One request at a host where none waits. -/
theorem HostWaits.of_request {h : FrameHost FrameRequest}
    (hhost : s.host = (SessionHost.manual h).request.1) (hpending : h.pending = []) : s.HostWaits := by
  refine ⟨(h.request .tick).1, h.nextHandle, hhost, ?_⟩
  simp only [FrameHost.request, hpending, List.nil_append]

theorem frame_of_idle (h : s.HostIdle) (caller : String) : frame caller s = (s, .ok false) := by
  obtain ⟨h, hhost, hpending⟩ := h
  unfold frame
  rw [Act.read_bind, hhost]
  simp only [hpending, List.isEmpty_nil, if_true]
  rfl

/-- A frame for which one round waits is that round. -/
theorem frame_parts {caller : String} {b : Bool} {h : FrameHost FrameRequest} {n : Nat}
    (hhost : s.host = .manual h) (hpending : h.pending = [(n, .tick)]) (hf : frame caller s = (s', .ok b)) :
    b = true ∧ ∃ s₁, tick { s with host := .manual { h with pending := [] } } = (s₁, .ok ()) ∧
      s' = { s₁ with host := match s₁.host with
        | .manual h => .manual h.finishFrame
        | host => host } := by
  unfold frame at hf
  rw [Act.read_bind, hhost] at hf
  simp only [hpending, List.isEmpty_cons, FrameHost.takeBatch, List.map_cons, List.map_nil,
    Bool.false_eq_true, if_false] at hf
  rw [Act.change_bind] at hf
  obtain ⟨s₁, _, hanswer, hf⟩ := Act.bind_ok.mp hf
  unfold answerRequests answerRequests at hanswer
  obtain ⟨s₂, _, htick, hpure⟩ := Act.bind_ok.mp hanswer
  obtain ⟨rfl, -⟩ := Act.pure_ok.mp hpure
  rw [Act.change_bind] at hf
  obtain ⟨rfl, rfl⟩ := Act.pure_ok.mp hf
  exact ⟨rfl, s₂, htick, rfl⟩

theorem Underway.withHost (h : s.Underway) (host : SessionHost) : Underway { s with host := host } :=
  ⟨⟨h.tidy.distinct, h.tidy.mirrored⟩, h.running, h.following, h.behaviours, h.ready⟩

/-- A frame of a run under way ends the run if an actor is at its end; else the run goes on and
waits for the next frame. -/
theorem frame_underway {caller : String} {b : Bool} (h : s.Underway) (hw : s.HostWaits)
    (hf : frame caller s = (s', .ok b)) :
    b = true ∧ ((s.AtEnd ∧ s'.stage.running = false ∧ s'.HostIdle) ∨
      (¬s.AtEnd ∧ GoesOn s s' ∧ s'.HostWaits)) := by
  obtain ⟨host, n, hhost, hpending⟩ := hw
  obtain ⟨rfl, s₁, htick, rfl⟩ := frame_parts hhost hpending hf
  refine ⟨rfl, ?_⟩
  rcases tick_underway (h.withHost _) htick with ⟨hend, hrun, hhost₁⟩ | ⟨hend, hon, hhost₁⟩
  · exact .inl ⟨hend, hrun, _, by rw [hhost₁], rfl⟩
  · refine .inr ⟨hend, ⟨hon.underway.withHost _, hon.shapes, hon.interpreter, hon.watching, hon.left⟩, _, _,
      by rw [hhost₁]; rfl, rfl⟩

theorem frames_of_idle (h : s.HostIdle) (caller : String) (n : Nat) : frames caller n s = (s, .ok 0) := by
  cases n with
  | zero => rfl
  | succ n =>
    unfold frames
    rw [Act.bind_of_ok (frame_of_idle h caller)]
    rfl

/-- Some frames: the first one, and the others if it ran. -/
theorem frames_succ {caller : String} {n m : Nat} (h : frames caller (n + 1) s = (s', .ok m)) :
    ∃ s₁ b, frame caller s = (s₁, .ok b) ∧
      if b then ∃ k, frames caller n s₁ = (s', .ok k) ∧ m = k + 1 else s' = s₁ ∧ m = 0 := by
  unfold frames at h
  obtain ⟨s₁, b, hframe, h⟩ := Act.bind_ok.mp h
  refine ⟨s₁, b, hframe, ?_⟩
  cases b with
  | false =>
    obtain ⟨rfl, rfl⟩ := Act.pure_ok.mp h
    exact ⟨rfl, rfl⟩
  | true =>
    obtain ⟨s₂, k, hframes, h⟩ := Act.bind_ok.mp h
    obtain ⟨rfl, rfl⟩ := Act.pure_ok.mp h
    exact ⟨k, hframes, rfl⟩

/-! ## The start of a run -/

/-- A new session over a stage at rest is as prepared, except for the recording and its note. -/
theorem create_eq {o : SessionOptions} (hstopped : o.initial.running = false) :
    ∃ j recording, create o = { prepared o with journal := j, recording := recording } := by
  have hread : Act.read (·.stage.running) (prepared o) = (prepared o, .ok false) := by
    rw [← hstopped]; rfl
  unfold create setUp
  rw [Act.bind_of_ok hread]
  obtain ⟨rules, initial, host, collisions, _ | recording, journal⟩ := o
  · exact ⟨_, false, rfl⟩
  · exact ⟨_, true, rfl⟩

/-- A run that starts is under way, with all the leaves behind the trigger left of every script. -/
theorem start_underway {b : Bool} (hstopped : s.stage.running = false) (hfollow : s.following = true)
    (hawait : s.awaited = none) (hbehaviours : s.interpreter.behaviours = builtInBehaviours)
    (hdistinct : s.stage.Distinct) (h : start s = (s', .ok b)) :
    s'.Underway ∧ s'.stage.actors = s.stage.actors ∧ s'.host = s.host.request.1 ∧
      s'.interpreter = s.interpreter ∧ s'.monitor = s.monitor ∧
      ∀ a ∈ s.stage.actors, a.script.Runnable → s'.left a = unrollAll (a.script.drop 1) := by
  unfold start at h
  obtain ⟨s₁, new, hdispatch, h⟩ := Act.bind_ok.mp h
  obtain ⟨rfl, -⟩ := Act.pure_ok.mp h
  obtain ⟨j, ⟨hnone, -⟩ | ⟨after, hafter, h⟩⟩ := dispatch_ok hdispatch
  · simp [Stage.reduce, Stage.startRun, hstopped] at hnone
  · obtain rfl : { s.stage with running := true } = after := by
      simpa [Stage.reduce, Stage.startRun, hstopped] using hafter
    rw [if_pos hfollow, follow_start hstopped rfl] at h
    unfold beginRun at h
    rw [Act.change_bind, Act.read_bind] at h
    obtain ⟨s₄, _, hnote, h⟩ := Act.bind_ok.mp h
    obtain ⟨⟨j', rfl⟩, -⟩ := Act.report_ok hnote
    obtain rfl := requestFrame_ok h hawait
    have hget : ∀ a ∈ s.stage.actors,
        (Executions.rewind s.stage.actors).get? a.id = some (.initial a.script) :=
      fun a ha => Executions.get?_foldl_set _ _ [] hdistinct.actorIds ha
    refine ⟨⟨⟨⟨hdistinct.actorIds, hdistinct.blockIds⟩, fun a ha => ⟨_, hget a ha, rfl⟩⟩, rfl, hfollow,
      hbehaviours, fun a ha hrun e he => ?_⟩, rfl, rfl, rfl, rfl, fun a ha hrun => ?_⟩
    · obtain rfl := Option.some.inj ((hget a ha).symm.trans he)
      exact (Execution.initial_ready hrun).1
    · simp only [left, hget a ha]
      exact (Execution.initial_ready hrun).2

/-- The first run of a new session over a stage at rest. -/
theorem create_underway {o : SessionOptions} {b : Bool} (hstopped : o.initial.running = false)
    (hdistinct : o.initial.Distinct) (h : start (create o) = (s', .ok b)) :
    s'.Underway ∧ s'.stage.actors = o.initial.actors ∧ s'.host = o.host.request.1 ∧
      s'.interpreter = (prepared o).interpreter ∧ s'.monitor = (prepared o).monitor ∧
      ∀ a ∈ o.initial.actors, a.script.Runnable → s'.left a = unrollAll (a.script.drop 1) := by
  obtain ⟨j, recording, hcreate⟩ := create_eq hstopped
  rw [hcreate] at h
  exact start_underway hstopped rfl rfl rfl hdistinct h

end Session

end ScriptedStage
