import ScriptedStage.Proofs.Histories

/-!
Frames that wait. A session asks its host for one frame at a time: between operations at most one
request waits, it is the one that the scheduler remembers, and it waits only while the stage runs.

The converse, that a run always has its next frame waiting, holds only while no frame fails. A
round that fails has already used up its request and does not come to ask for the next one, so the
run stays on with nothing that could bring it forward or to its end. Patches that the session
accepts are enough for that.

What is proved, over all histories:
  1. `Scheduled.after`, `one_frame_waits`: at most one frame waits, and none while the
     stage is at rest;
  2. `frame_waits_iff`: a run has its next frame waiting exactly if none of its frames has failed;
  3. `failed_frame_strands_run`: a run that is left with nothing waiting.
-/
namespace ScriptedStage.Session

open Act

variable {s t : Session}

/-! ## At most one frame waits -/

/-- The host has the frame that the scheduler waits for, and no other; there is one only during a
run that the scheduler follows. -/
structure Scheduled (s : Session) : Prop where
  pending : ∃ h : FrameHost FrameRequest,
    s.host = .manual h ∧ h.pending = s.awaited.toList.map fun n => (n, FrameRequest.tick)
  running : s.awaited.isSome = true → s.stage.running = true ∧ s.following = true

/-- No frame waits, and the scheduler knows. -/
structure Unasked (s : Session) : Prop where
  idle : s.HostIdle
  awaited : s.awaited = none
  following : s.following = true

theorem Unasked.scheduled (h : Unasked s) : Scheduled s := by
  obtain ⟨host, hhost, hpending⟩ := h.idle
  refine ⟨⟨host, hhost, by rw [hpending, h.awaited]; rfl⟩, fun hsome => ?_⟩
  rw [h.awaited] at hsome
  cases hsome

theorem Unasked.blind : Blind Unasked := by
  intro s t ht hs
  obtain ⟨j, r, f, handled, ticks, history, -, -, rfl⟩ := ht
  exact ⟨hs.idle, hs.awaited, hs.following⟩

theorem Scheduled.blind : Blind Scheduled := by
  intro s t ht hs
  obtain ⟨j, r, f, handled, ticks, history, -, -, rfl⟩ := ht
  exact ⟨hs.pending, hs.running⟩

/-- A request that is withdrawn leaves nothing waiting. -/
theorem Scheduled.withdrawn_idle (h : Scheduled s) : s.withdrawn.HostIdle := by
  obtain ⟨host, hhost, hpending⟩ := h.pending
  unfold withdrawn
  cases ha : s.awaited with
  | none => exact ⟨host, hhost, by rw [hpending, ha]; rfl⟩
  | some n =>
    refine ⟨host.cancel n, by simp only [hhost, SessionHost.cancel], ?_⟩
    simp [FrameHost.cancel, hpending, ha]

/-- A request where none waits is the only one, and the scheduler remembers it. -/
theorem Scheduled.of_asking (hidle : s.withdrawn.HostIdle) (hrun : s.stage.running = true)
    (hfollow : s.following = true) : Scheduled s.asking := by
  obtain ⟨host, hhost, hpending⟩ := hidle
  refine ⟨⟨(host.request .tick).1, ?_, ?_⟩, fun _ => ⟨hrun, hfollow⟩⟩
  · show s.withdrawn.host.request.1 = _
    rw [hhost]
    rfl
  · show (host.pending ++ [(host.nextHandle, .tick)] : List _) =
      (some s.withdrawn.host.request.2).toList.map fun n => (n, FrameRequest.tick)
    rw [hpending, hhost]
    rfl

/-- Every intent keeps the frames in order. -/
theorem Scheduled.follows {i : Intent} (hf : Follows s i t) (h : Scheduled s) : Scheduled t := by
  cases hf with
  | nothing => exact h
  | alone hclosed hafter =>
    -- a scheduler that does not follow waits for no frame
    refine ⟨h.pending, fun hsome => ?_⟩
    have := (h.running hsome).2
    rw [hclosed] at this
    cases this
  | edited hfollow hafter hrun => exact ⟨h.pending, fun hsome => ⟨hrun.trans (h.running hsome).1, hfollow⟩⟩
  | started hfollow hrun =>
    exact .of_asking (s := { s with stage := _, executions := _ }) h.withdrawn_idle rfl hfollow
  | stopped hfollow hrun =>
    obtain ⟨host, hhost, hpending⟩ := h.withdrawn_idle
    exact ⟨⟨host, hhost, hpending⟩, fun hsome => by cases hsome⟩

/-- Only the start of a run asks for a frame. -/
theorem Unasked.follows {i : Intent} (hi : i ≠ .startRun) (hf : Follows s i t) (h : Unasked s) :
    Unasked t := by
  cases hf with
  | nothing => exact h
  | alone hclosed hafter => exact ⟨h.idle, h.awaited, h.following⟩
  | edited hfollow hafter hrun => exact ⟨h.idle, h.awaited, h.following⟩
  | started hfollow hrun => exact absurd rfl hi
  | stopped hfollow hrun => exact ⟨h.scheduled.withdrawn_idle, rfl, h.following⟩

theorem Unasked.dispatch {i : Intent} (hi : i ≠ .startRun) : Keeps Unasked (dispatch i) :=
  Unasked.blind.dispatch fun _ _ hf hs => hs.follows hi hf

theorem Unasked.steady : Steady Unasked where
  blind := Unasked.blind
  patch _ _ := Unasked.dispatch (by simp)
  collide _ _ := Unasked.dispatch (by simp)
  look _ _ _ _ _ h := ⟨h.idle, h.awaited, h.following⟩

/-- The frame of a run is waiting, unless the session is closed. -/
structure Attended (s : Session) : Prop where
  scheduled : Scheduled s
  waits : s.following = true → s.stage.running = true → s.awaited.isSome = true

theorem Attended.of_rest (h : Scheduled s) (hrun : s.stage.running = false) : Attended s :=
  ⟨h, fun _ hr => by rw [hrun] at hr; cases hr⟩

/-- After a stop that does not fail the stage is at rest. -/
theorem stop_rests {new : Option Stage} (h : dispatch .stopRun s = (t, .ok new)) :
    t.stage.running = false := by
  obtain ⟨j, ⟨hnone, rfl⟩ | ⟨after, hafter, h⟩⟩ := dispatch_ok h
  · cases hrun : s.stage.running with
    | false => rfl
    | true => simp [Stage.reduce, Stage.stopRun, hrun] at hnone
  · cases hrun : s.stage.running with
    | false => simp [Stage.reduce, Stage.stopRun, hrun] at hafter
    | true =>
      obtain rfl : { s.stage with running := false } = after := by
        simpa [Stage.reduce, Stage.stopRun, hrun] using hafter
      split at h
      · obtain ⟨j', -, hend⟩ :=
          endRun_journal { s with journal := j, stage := { s.stage with running := false } }
        rw [follow_stop hrun rfl, hend] at h
        obtain rfl := congrArg Prod.fst h
        rfl
      · rw [h]

/-- A round that is called when nothing waits asks for the next frame if the run goes on; if it
fails, nothing waits. -/
theorem tick_attends :
    Leads (fun s => s.HostIdle ∧ s.following = true) tick (fun _ => Attended) Unasked := by
  have hcleared : ∀ s : Session, s.HostIdle ∧ s.following = true → Unasked { s with awaited := none } :=
    fun s hs => ⟨hs.1, rfl, hs.2⟩
  have hover : Leads Unasked (dispatch .stopRun) (fun _ => Attended) Unasked := by
    intro s hs
    obtain ⟨hok, herror⟩ := Unasked.dispatch (i := .stopRun) (by simp) hs
    exact ⟨fun s' new hr => .of_rest (hok s' new hr).scheduled (stop_rests hr), herror⟩
  refine Unasked.steady.tick (fun s hs hrun => ?_) (fun s j _ hs _ => ?_) (fun s r j _ hs _ _ => ?_)
    (fun s hs => hs) hover (fun s hs hrun => ?_) fun s hs hrun => ?_
  · exact .of_rest (hcleared s hs).scheduled hrun
  · exact ⟨hs.1, rfl, hs.2⟩
  · exact ⟨hs.1, rfl, hs.2⟩
  · exact ⟨.of_asking hs.scheduled.withdrawn_idle hrun hs.following, fun _ _ => rfl⟩
  · exact .of_rest hs.scheduled hrun

theorem HostIdle.of_scheduled (h : Scheduled s) (ha : s.awaited = none) : s.HostIdle := by
  obtain ⟨host, hhost, hpending⟩ := h.pending
  exact ⟨host, hhost, by rw [hpending, ha]; rfl⟩

theorem HostWaits.of_scheduled (h : Scheduled s) (ha : s.awaited.isSome = true) : s.HostWaits := by
  obtain ⟨host, hhost, hpending⟩ := h.pending
  obtain ⟨n, hn⟩ := Option.isSome_iff_exists.mp ha
  exact ⟨host, n, hhost, by rw [hpending, hn]; rfl⟩

/-- The host counts the frame that has run. -/
def frameDone (s : Session) : Session :=
  { s with host := match s.host with
      | .manual h => .manual h.finishFrame
      | host => host }

/-- A frame for which one round waits is that round, with nothing else waiting while it runs. -/
theorem frame_eq (caller : String) {h : FrameHost FrameRequest} {n : Nat} (hhost : s.host = .manual h)
    (hpending : h.pending = [(n, .tick)]) :
    frame caller s =
      (tick >>= fun _ => Act.change frameDone >>= fun _ => pure true : Act Bool)
        { s with host := .manual { h with pending := [] } } := by
  have hone : ∀ {α : Type} (f : Unit → Act α) (t : Session),
      (answerRequests [.tick] >>= f) t = (tick >>= f) t := by
    intro α f t
    simp only [answerRequests, bind]
    rcases tick t with ⟨t', e | u⟩ <;> rfl
  unfold frame
  rw [Act.read_bind, hhost]
  simp only [hpending, List.isEmpty_cons, FrameHost.takeBatch, List.map_cons, List.map_nil,
    Bool.false_eq_true, if_false]
  rw [Act.change_bind, hone]
  rfl

/-- A frame leaves the next one waiting if its run goes on; if it fails, nothing waits. -/
theorem frame_attends (caller : String) : Leads Attended (frame caller) (fun _ => Attended) Unasked := by
  intro s hs
  cases ha : s.awaited with
  | none =>
    rw [frame_of_idle (.of_scheduled hs.scheduled ha)]
    exact Leads.pure false (fun _ h => h) hs
  | some n =>
    have hsome : s.awaited.isSome = true := by rw [ha]; rfl
    obtain ⟨host, m, hhost, hpending⟩ := HostWaits.of_scheduled hs.scheduled hsome
    have hdone : Leads Attended (Act.change frameDone) (fun _ => Attended) Unasked := by
      refine .change fun s h => ⟨⟨?_, h.scheduled.running⟩, h.waits⟩
      obtain ⟨host, hhost, hpending⟩ := h.scheduled.pending
      exact ⟨host.finishFrame, by simp only [frameDone, hhost], hpending⟩
    rw [frame_eq caller hhost hpending]
    refine Leads.bind tick_attends (fun _ => Leads.bind hdone fun _ => .pure true fun _ h => h) ?_
    exact ⟨⟨_, rfl, rfl⟩, (hs.scheduled.running hsome).2⟩

/-- A frame keeps the frames in order, however it ends. -/
theorem Scheduled.frame (caller : String) : Keeps Scheduled (frame caller) := by
  intro s hs
  cases ha : s.awaited with
  | none =>
    rw [frame_of_idle (.of_scheduled hs ha)]
    exact Leads.pure false (fun _ h => h) hs
  | some n =>
    have hattended : Attended s := ⟨hs, fun _ _ => by rw [ha]; rfl⟩
    obtain ⟨hok, herror⟩ := frame_attends caller hattended
    exact ⟨fun s' b hr => (hok s' b hr).scheduled, fun s' e hr => (herror s' e hr).scheduled⟩

theorem Scheduled.closed (h : Scheduled s) : Scheduled s.closed := by
  obtain ⟨host, hhost, hpending⟩ := h.withdrawn_idle
  exact ⟨⟨host, hhost, hpending⟩, fun hsome => by cases hsome⟩

theorem Scheduled.perform (op : SessionOp) (h : Scheduled s) : Scheduled (s.perform op).1 :=
  perform_keeps Scheduled.blind (fun _ _ _ hf hs => hs.follows hf) Scheduled.frame
  (fun _ _ hs => hs.closed) h

theorem Scheduled.after (ops : List SessionOp) (h : Scheduled s) : Scheduled (s.after ops) :=
  after_keeps (fun op _ _ hs => hs.perform op) h

/-- A new session over a host where nothing waits has the first frame of its run waiting. -/
theorem create_attended {o : SessionOptions} {h : FrameHost FrameRequest} (hhost : o.host = .manual h)
    (hpending : h.pending = []) : Attended (create o) := by
  obtain ⟨j, -, heq⟩ := create_begins o
  rw [heq]
  cases hrun : o.initial.running with
  | false => exact .of_rest ⟨⟨h, hhost, hpending⟩, fun hsome => by cases hsome⟩ hrun
  | true =>
    have hidle : (prepared o).withdrawn.HostIdle := ⟨h, hhost, hpending⟩
    have hasking : Scheduled { prepared o with executions := .rewind o.initial.actors }.asking :=
      .of_asking hidle hrun rfl
    exact ⟨⟨hasking.pending, hasking.running⟩, fun _ _ => rfl⟩

/-- Between the operations of a history, failed ones included, nothing waits at the host of a
session, or one round does: the one that the scheduler remembers, of a run that is on. -/
theorem one_frame_waits (o : SessionOptions) {h : FrameHost FrameRequest} (hhost : o.host = .manual h)
    (hpending : h.pending = []) (ops : List SessionOp) :
    ∃ h' : FrameHost FrameRequest, ((create o).after ops).host = .manual h' ∧
      ((h'.pending = [] ∧ ((create o).after ops).awaited = none) ∨
        ∃ n, h'.pending = [(n, .tick)] ∧ ((create o).after ops).awaited = some n ∧
          ((create o).after ops).stage.running = true) := by
  have hs := (create_attended hhost hpending).scheduled.after ops
  obtain ⟨h', hhost', hpending'⟩ := hs.pending
  refine ⟨h', hhost', ?_⟩
  cases ha : ((create o).after ops).awaited with
  | none => exact .inl ⟨by rw [hpending', ha]; rfl, rfl⟩
  | some n => exact .inr ⟨n, by rw [hpending', ha]; rfl, rfl, (hs.running (by rw [ha]; rfl)).1⟩

/-- An actor that gets a place that is no number, and a run. -/
def misplacedActor : List SessionOp :=
  [.addActor (.str "cat") (.float 0) (.float 0),
   .raw (.str "UPDATE_ACTOR_STATE") (.record [("actor_id", .str "cat-1"),
     ("updates", .record [("x", .null)])]),
   .start, .step]

/-- After a frame that failed and a new start, the one round that waits is that of the new run. -/
theorem one_frame_waits_misplacedActor :
    ∃ h : FrameHost FrameRequest, ((create {}).after (misplacedActor ++ [.halt, .start])).host = .manual h ∧
      h.pending = [(2, .tick)] := by
  have hsecond : ((create {}).after (misplacedActor ++ [.halt, .start])).awaited = some 2 := by
    decide +kernel
  obtain ⟨h, hhost, ⟨-, hnone⟩ | ⟨n, hone, hsome, -⟩⟩ :=
    one_frame_waits {} rfl rfl (misplacedActor ++ [.halt, .start])
  · rw [hsecond] at hnone
    cases hnone
  · obtain rfl : 2 = n := Option.some.inj (hsecond.symm.trans hsome)
    exact ⟨h, hhost, hone⟩

/-! ## A run without its next frame -/

/-- Whether a frame of the run that is on after a history has failed; `failed` says it
of the beginning. -/
def failedIn (s : Session) (failed : Bool) : List SessionOp → Bool
  | [] => failed
  | op :: ops =>
    (s.perform op).1.failedIn
      ((s.perform op).1.stage.running && (failed || op.runsFrames && (s.perform op).2.isSome)) ops

/-- While the session is open, a run has its next frame waiting exactly if none of its
frames has failed. -/
structure Tracked (s : Session) (failed : Bool) : Prop where
  scheduled : Scheduled s
  running : failed = true → s.stage.running = true
  waits : s.following = true → s.stage.running = true → s.awaited.isSome = !failed

theorem Tracked.of_attended (h : Attended s) : Tracked s false :=
  ⟨h.scheduled, fun hfalse => (by cases hfalse), h.waits⟩

/-- Whether the scheduler waits for a frame is known. -/
theorem Tracked.isSome_awaited {failed : Bool} (h : Tracked s failed) :
    s.awaited.isSome = (s.following && s.stage.running && !failed) := by
  cases hsome : s.awaited.isSome with
  | true =>
    obtain ⟨hrun, hfollow⟩ := h.scheduled.running hsome
    rw [hfollow, hrun, ← h.waits hfollow hrun, hsome]
    rfl
  | false =>
    cases hfollow : s.following with
    | false => rfl
    | true =>
      cases hrun : s.stage.running with
      | false => rfl
      | true => rw [← h.waits hfollow hrun, hsome]; rfl

theorem Tracked.blind (failed : Bool) : Blind (Tracked · failed) := by
  intro s t ht hs
  have hscheduled := Scheduled.blind ht hs.scheduled
  obtain ⟨j, r, f, handled, ticks, history, -, -, rfl⟩ := ht
  exact ⟨hscheduled, hs.running, hs.waits⟩

theorem Tracked.follows {failed : Bool} {i : Intent} (hf : Follows s i t) (h : Tracked s failed) :
    Tracked t (t.stage.running && failed) := by
  have hscheduled := h.scheduled.follows hf
  have hrunning : (t.stage.running && failed) = true → t.stage.running = true := fun hand =>
    (Bool.and_eq_true_iff.mp hand).1
  refine ⟨hscheduled, hrunning, fun hfollow hrun => ?_⟩
  rw [hrun, Bool.true_and]
  cases hf with
  | nothing => exact h.waits hfollow hrun
  | alone hclosed hafter => exact absurd (hclosed.symm.trans hfollow) Bool.false_ne_true
  | edited _ hafter hsame => exact h.waits hfollow (hsame ▸ hrun)
  | started _ hrest =>
    -- a run that starts has no frame behind it that could have failed
    cases failed with
    | false => rfl
    | true => exact absurd (hrest.symm.trans (h.running rfl)) Bool.false_ne_true
  | stopped _ _ => cases hrun

theorem Tracked.edit {failed : Bool} (h : Tracked s failed) (he : Edit s t) :
    Tracked t (t.stage.running && failed) := by
  obtain ⟨s₁, i, t₁, hbefore, hf, hafter⟩ := he
  have ht₁ := (Tracked.blind failed hbefore h).follows hf
  have hsame : t.stage.running = t₁.stage.running := by
    obtain ⟨j, r, f, handled, ticks, history, -, -, rfl⟩ := hafter
    rfl
  rw [hsame]
  exact Tracked.blind _ hafter ht₁

/-- A failed frame leaves nothing waiting. -/
theorem Tracked.of_unasked (h : Unasked s) : Tracked s s.stage.running := by
  refine ⟨h.scheduled, fun hrun => hrun, fun _ hrun => ?_⟩
  rw [h.awaited, hrun]
  rfl

/-- Frames run only while none has failed, and then they leave the next one waiting. -/
theorem Tracked.frame (failed : Bool) (caller : String) :
    Leads (Tracked · failed) (frame caller) (fun _ => (Tracked · failed)) Unasked := by
  intro s hs
  cases failed with
  | false =>
    obtain ⟨hok, herror⟩ := frame_attends caller ⟨hs.scheduled, hs.waits⟩
    exact ⟨fun s' b hr => .of_attended (hok s' b hr), herror⟩
  | true =>
    have hnone : s.awaited = none := by
      rw [← Option.not_isSome_iff_eq_none, hs.isSome_awaited]
      simp
    rw [frame_of_idle (.of_scheduled hs.scheduled hnone)]
    exact Leads.pure false (fun _ h => h) hs

theorem Tracked.frames (failed : Bool) (caller : String) (n : Nat) :
    Leads (Tracked · failed) (frames caller n) (fun _ => (Tracked · failed)) Unasked := by
  induction n with
  | zero => exact .pure 0 fun _ h => h
  | succ n ih =>
    unfold Session.frames
    refine Leads.bind (Tracked.frame failed caller) fun ran => ?_
    split
    · exact .bind ih fun _ => .pure _ fun _ h => h
    · exact .pure 0 fun _ h => h

theorem Tracked.and_eq {failed : Bool} (h : Tracked s failed) : (s.stage.running && failed) = failed := by
  cases failed with
  | false => exact Bool.and_false _
  | true => rw [h.running rfl, Bool.and_self]

/-- What running frames leads to, seen from outside. -/
theorem Tracked.attempt {α : Type} {m : Act α} {failed : Bool}
    (hm : Leads (Tracked · failed) m (fun _ => (Tracked · failed)) Unasked) (h : Tracked s failed) :
    Tracked (m.attempt s).1 ((m.attempt s).1.stage.running && (failed || (m.attempt s).2.isSome)) := by
  obtain ⟨hok, herror⟩ := hm h
  unfold Act.attempt
  split
  · rename_i hr
    have ht := hok _ _ hr
    rw [Option.isSome_none, Bool.or_false, ht.and_eq]
    exact ht
  · rename_i hr
    rw [Option.isSome_some, Bool.or_true, Bool.and_true]
    exact .of_unasked (herror _ _ hr)

theorem Tracked.perform {failed : Bool} (h : Tracked s failed) (op : SessionOp) :
    Tracked (s.perform op).1
      ((s.perform op).1.stage.running && (failed || op.runsFrames && (s.perform op).2.isSome)) := by
  cases hop : op.runsFrames with
  | true =>
    rw [Bool.true_and]
    cases op with
    | step => exact .attempt (Tracked.frame failed "tick") h
    | run most =>
      refine .attempt (run_leads (Tracked.blind failed) (fun s n handle hs hhost => ?_)
        (Tracked.frames failed "run" _)) h
      obtain ⟨host, hmanual, -⟩ := hs.scheduled.pending
      rw [hmanual] at hhost
      cases hhost
    | _ => cases hop
  | false =>
    rw [Bool.false_and, Bool.or_false]
    by_cases hclose : op = .close
    · subst hclose
      rw [perform_close]
      refine ⟨h.scheduled.closed, fun hand => (Bool.and_eq_true_iff.mp hand).1, fun hfollow => ?_⟩
      cases hfollow
    · exact h.edit (perform_edits s hop hclose)

theorem Tracked.after {failed : Bool} (ops : List SessionOp) (h : Tracked s failed) :
    Tracked (s.after ops) (s.failedIn failed ops) := by
  induction ops generalizing s failed with
  | nil => exact h
  | cons op ops ih => exact ih (h.perform op)

/-- While a session is open, its run has the next frame waiting exactly if no frame of
this run has failed. -/
theorem frame_waits_iff (o : SessionOptions) {h : FrameHost FrameRequest} (hhost : o.host = .manual h)
    (hpending : h.pending = []) {ops : List SessionOp} (hopen : .close ∉ ops)
    (hrun : ((create o).after ops).stage.running = true) :
    ((create o).after ops).HostWaits ↔ (create o).failedIn false ops = false := by
  have hattended := create_attended hhost hpending
  have htracked := (Tracked.of_attended hattended).after ops
  have hfollow : ((create o).after ops).following = true := by
    refine lasting_following.after hopen ?_
    obtain ⟨j, -, heq⟩ := create_begins o
    rw [heq]
    cases o.initial.running <;> rfl
  have hwaits := htracked.waits hfollow hrun
  constructor
  · intro hw
    cases hfailed : (create o).failedIn false ops with
    | false => rfl
    | true =>
      rw [hfailed] at hwaits
      obtain ⟨host, n, hhost', hone⟩ := hw
      obtain ⟨host', hhost'', hnone⟩ := htracked.scheduled.pending
      have hawaited : ((create o).after ops).awaited = none :=
        Option.not_isSome_iff_eq_none.mp (by rw [hwaits]; decide)
      rw [hhost'] at hhost''
      cases hhost''
      rw [hone, hawaited] at hnone
      cases hnone
  · intro hfailed
    rw [hfailed] at hwaits
    exact .of_scheduled htracked.scheduled hwaits

/-- A run of a session that is open need not have a frame waiting: the first frame of this one fails
where the collisions are looked for, and the run can neither go on nor come to its end. -/
theorem failed_frame_strands_run :
    .close ∉ misplacedActor ∧ ((create {}).after misplacedActor).stage.running = true ∧
      ((create {}).after misplacedActor).host.pending = 0 ∧
      ((create {}).after misplacedActor).awaited = none := by
  refine ⟨by simp [misplacedActor], ?_⟩
  decide +kernel

/-- A run that is left without a frame, and the next one, which has its frame. -/
theorem frame_waits_iff_misplacedActor :
    ¬((create {}).after misplacedActor).HostWaits ∧
      ((create {}).after (misplacedActor ++ [.halt, .start])).HostWaits := by
  constructor
  · rw [frame_waits_iff {} rfl rfl (by simp [misplacedActor]) (by decide +kernel)]
    decide +kernel
  · refine (frame_waits_iff {} rfl rfl (by simp [misplacedActor]) ?_).mpr ?_
    · decide +kernel
    · decide +kernel

end ScriptedStage.Session
