import ScriptedStage.Proofs.CollidingRounds
import ScriptedStage.Proofs.MirroredStates
import ScriptedStage.Proofs.RecordedLines

/-!
Recordings of sessions. Three parts of a session have to do with its recording: the bus gives a
record of each collision that is published, the scheduler gives one of each round, and the end of
the session writes the summary. The file is opened with the first record, so that a session
without a round has none.

The rounds of a history are found by following it: a frame that finds the stage at rest plays none,
and a frame for which several requests wait plays one for each until the run is over. What is
recorded of them is their number in the order of time, which goes on over all runs of the session,
and the collisions that the monitor told of in each.

What is proved:
  1. `Recorder.Holds.take` and `Recorder.Holds.close`: what a recorder writes for the
     records that it takes;
  2. `Recorded.tick`: a round adds its collisions and then itself;
  3. `Recorded.undergo`: all else adds nothing;
  4. `recordsFrom_told` and `counts_perm`: what the lines of rounds and the counts say
     when they are read;
  5. `recording_tells_rounds`: the file of a session, after every history in which no frame fails.
-/
namespace ScriptedStage

/-! ## What a recorder holds -/

namespace Recorder

variable {r : Recorder} {records : List (String × Record)}

/-- Lines are those of records with their sources. -/
def Writes (records : List (String × Record)) (lines : List String) : Prop :=
  List.Forall₂ (fun p l => line p.1 p.2 = .ok l) records lines

/-- The lines of records say what the records say, with their sources. -/
theorem Writes.read {lines : List String} (h : Writes records lines)
    (hplain : ∀ p ∈ records, Recording.Plain (tagged p.1 p.2).toValue) :
    lines.map Recording.read = records.map fun p => some (tagged p.1 p.2).toValue := by
  induction h with
  | nil => rfl
  | @cons p l records lines hline hlines ih =>
    rw [List.forall_mem_cons] at hplain
    rw [List.map_cons, List.map_cons, hplain.1.read hline, ih hplain.2]

/-- How many records a source gave. A source that gave none is not counted. -/
def counted (n : Nat) : Option Nat := if n = 0 then none else some n

theorem counted_getD (n : Nat) : (counted n).getD 0 = n := by
  unfold counted
  split
  · next h => rw [h]; rfl
  · rfl

/-- An open recorder that has taken records. -/
structure Holds (r : Recorder) (records : List (String × Record)) : Prop where
  notClosed : r.closed = false
  lines : ∃ lines, Writes records lines ∧
    r.written = if records.isEmpty then none else some (lines.reverse ++ [opening])
  counts : ∀ source, r.counts.get? source = counted (records.countP (·.1 = source))
  sources : r.counts.keys.Nodup

/-- A record that can be written is written after the others, and counted. -/
theorem Holds.take (h : r.Holds records) {source : String} {record : Record}
    (hok : (r.take source record).2 = .ok ()) :
    (r.take source record).1.Holds (records ++ [(source, record)]) := by
  obtain ⟨lines, hlines, hwritten⟩ := h.lines
  cases hline : line source record with
  | error fault => simp [Recorder.take, h.notClosed, hline] at hok
  | ok l =>
    have htake : (r.take source record).1 =
        { r with
          written := some (l :: r.written.getD [opening])
          counts := r.counts.set source ((r.counts.get? source).getD 0 + 1) } := by
      simp [Recorder.take, h.notClosed, hline]
    rw [htake]
    refine ⟨h.notClosed, ⟨lines ++ [l], List.rel_append hlines (.cons hline .nil), ?_⟩, ?_, ?_⟩
    · -- the first record opens the file
      cases records with
      | nil =>
        obtain rfl := List.forall₂_nil_left_iff.mp hlines
        simp [hwritten]
      | cons first rest => simp [hwritten]
    · intro other
      by_cases hother : other = source
      · subst hother
        rw [Assoc.get?_set_self, h.counts, List.countP_append, counted_getD]
        simp [counted]
      · rw [Assoc.get?_set_ne _ _ hother, h.counts, List.countP_append]
        simp [Ne.symm hother]
    · exact Assoc.nodup_keys_set h.sources source _

/-- The file of a recorder that is closed. -/
theorem Holds.close (h : r.Holds records) :
    r.close.closed = true ∧ r.close.counts = r.counts ∧
      ∃ lines, Writes records lines ∧
        r.close.lines = if records.isEmpty then none
          else some (opening :: lines ++ [summary r.counts, ""]) := by
  obtain ⟨lines, hlines, hwritten⟩ := h.lines
  have hclose : r.close =
      { r with closed := true, written := r.written.map fun ls => summary r.counts :: ls } := by
    simp [Recorder.close, h.notClosed]
  refine ⟨by rw [hclose], by rw [hclose], lines, hlines, ?_⟩
  rw [hclose, Recorder.lines, hwritten]
  split
  · rfl
  · simp

end Recorder

namespace Session

open Act

variable {s s' t : Session}

/-! ## What leaves the recording alone -/

/-- The recording, the count of the rounds and the bus are as they were. -/
structure Unrecorded (s t : Session) : Prop where
  recording : t.recording = s.recording
  recorder : t.recorder = s.recorder
  ticks : t.ticks = s.ticks
  bus : t.bus = s.bus

theorem Unrecorded.trans (h : Unrecorded s t) (h' : Unrecorded t s') : Unrecorded s s' :=
  ⟨h'.recording.trans h.recording, h'.recorder.trans h.recorder, h'.ticks.trans h.ticks,
   h'.bus.trans h.bus⟩

theorem Follows.unrecorded {i : Intent} (h : Follows s i t) : Unrecorded s t := by
  cases h <;> exact ⟨rfl, rfl, rfl, rfl⟩

theorem Revised.unrecorded (h : Revised s t) : Unrecorded s t := by
  obtain ⟨s₁, i, t₁, j, ⟨k, f, -, rfl⟩, hfollows, -, rfl⟩ := h
  obtain ⟨hrecording, hrecorder, hticks, hbus⟩ := hfollows.unrecorded
  exact ⟨hrecording, hrecorder, hticks, hbus⟩

theorem dispatch_unrecorded (i : Intent) : Keeps (Unrecorded s) (dispatch i) := by
  refine .of_fst fun t ht => ?_
  obtain ⟨t₁, j, hfollows, -, heq⟩ := dispatch_follows i t
  obtain ⟨hrecording, hrecorder, hticks, hbus⟩ := ht.trans hfollows.unrecorded
  rw [heq]
  exact ⟨hrecording, hrecorder, hticks, hbus⟩

theorem report_unrecorded {α : Type} (reported : List Note × Except Fault α) :
    Keeps (Unrecorded s) (Act.report reported) :=
  .of_fst fun _ ht => ⟨ht.recording, ht.recorder, ht.ticks, ht.bus⟩

theorem callReactions_unrecorded (e : CollisionEvent) :
    ∀ reactions, Keeps (Unrecorded s) (callReactions e reactions)
  | [] => .pure ()
  | .reverseMoves :: rest => by
    unfold callReactions react
    have hcount : Keeps (Unrecorded s) (Act.change fun s => { s with handled := s.handled + 1 }) :=
      .change fun t ht => ⟨ht.recording, ht.recorder, ht.ticks, ht.bus⟩
    exact .bind (.bind (report_unrecorded _) fun _ => .bind (.ofChecked _) fun i =>
      .bind (dispatch_unrecorded i) fun _ => hcount) fun _ => callReactions_unrecorded e rest

theorem Restaged.unrecorded (h : Restaged s t) : Unrecorded s t := by
  obtain ⟨stage, x, j, rfl⟩ := h
  exact ⟨rfl, rfl, rfl, rfl⟩

theorem Ends.unrecorded {completed : List String} (h : Ends completed s s') : Unrecorded s s' := by
  unfold Ends at h
  split at h
  · split at h
    · rw [requestFrame_eq] at h
      obtain rfl := congrArg Prod.fst h
      exact ⟨rfl, rfl, rfl, rfl⟩
    · obtain rfl := h
      exact ⟨rfl, rfl, rfl, rfl⟩
  · obtain ⟨new, hstop⟩ := h
    exact (dispatch_unrecorded (s := s) .stopRun ⟨rfl, rfl, rfl, rfl⟩).1 _ _ hstop

/-! ## What is recorded in a round -/

variable {records : List (String × Record)} {log events : List CollisionEvent} {n : Nat} {u : Unit}

/-- A session that has recorded records and published collisions, in so many rounds. -/
structure Traces (s : Session) (records : List (String × Record)) (log : List CollisionEvent)
    (ticks : Nat) : Prop where
  recording : s.recording = true
  recorder : ∃ r, s.recorder = some r ∧ r.Holds records
  history : s.bus.history = s.bus.recent (log.map Event.collision)
  ticks : s.ticks = ticks

theorem Traces.unrecorded (h : Traces s records log n) (hsame : Unrecorded s t) :
    Traces t records log n := by
  refine ⟨hsame.recording.trans h.recording, ?_, ?_, hsame.ticks.trans h.ticks⟩
  · rw [hsame.recorder]
    exact h.recorder
  · rw [hsame.bus]
    exact h.history

theorem Traces.emit {source : String} {record : Record} (h : Traces s records log n)
    (hemit : emit source record s = (s', .ok u)) :
    Traces s' (records ++ [(source, record)]) log n := by
  obtain ⟨r, hr, hholds⟩ := h.recorder
  have htaken : Session.emit source record s =
      ({ s with recorder := some (r.take source record).1 }, (r.take source record).2) := by
    simp only [Session.emit, h.recording, hr]
  rw [htaken] at hemit
  obtain ⟨rfl, hok⟩ := Prod.mk.inj hemit
  exact ⟨h.recording, ⟨_, rfl, hholds.take hok⟩, h.history, h.ticks⟩

/-- A collision is recorded when it is published, before the reaction answers. -/
theorem Traces.publish {e : CollisionEvent} (h : Traces s records log n)
    (hpublish : publish e s = (s', .ok u)) :
    Traces s' (records ++ [("bus", e.record)]) (log ++ [e]) n := by
  unfold Session.publish at hpublish
  rw [Act.read_bind] at hpublish
  simp only at hpublish
  rw [Act.change_bind] at hpublish
  obtain ⟨s₁, _, hemit, hpublish⟩ := Act.bind_ok.mp hpublish
  obtain ⟨s₂, _, hreport, hcalls⟩ := Act.bind_ok.mp hpublish
  have hnoted : Traces { s with bus := (s.bus.publish (.collision e)).1 } records
      (log ++ [e]) n := by
    refine ⟨h.recording, h.recorder, ?_, h.ticks⟩
    show s.bus.recent (s.bus.history ++ [.collision e]) = s.bus.recent _
    rw [h.history, EventBus.recent_append, List.map_append, List.map_singleton]
  have hreported : Unrecorded s₁ s₂ := (report_unrecorded _ ⟨rfl, rfl, rfl, rfl⟩).1 _ _ hreport
  have hanswered : Unrecorded s₂ s' :=
    (callReactions_unrecorded e _ ⟨rfl, rfl, rfl, rfl⟩).1 _ _ hcalls
  exact (hnoted.emit hemit).unrecorded (hreported.trans hanswered)

theorem Traces.announce (h : Traces s records log n) (hannounce : announce events s = (s', .ok u)) :
    Traces s' (records ++ events.map fun e => ("bus", e.record)) (log ++ events) n := by
  induction events generalizing s records log with
  | nil =>
    obtain ⟨rfl, -⟩ := Act.pure_ok.mp hannounce
    simpa using h
  | cons e events ih =>
    unfold Session.announce at hannounce
    obtain ⟨s₁, _, hnote, hannounce⟩ := Act.bind_ok.mp hannounce
    obtain ⟨s₂, _, hpublish, hrest⟩ := Act.bind_ok.mp hannounce
    have hnoted : Unrecorded s s₁ := (report_unrecorded _ ⟨rfl, rfl, rfl, rfl⟩).1 _ _ hnote
    have hfirst := (h.unrecorded hnoted).publish hpublish
    simpa using ih hfirst hrest

/-- The monitor tells of collisions at the tick of the round. -/
theorem Traces.watch (h : Traces s records log n) (hwatch : watch s = (s', .ok events)) :
    Traces s' (records ++ events.map fun e => ("bus", e.record)) (log ++ events) n ∧
      ∀ e ∈ events, e.tick = n := by
  have hnone : (s, (.ok [] : Except Fault (List CollisionEvent))) = (s', .ok events) →
      Traces s' (records ++ events.map fun e => ("bus", e.record)) (log ++ events) n ∧
        ∀ e ∈ events, e.tick = n := by
    intro hsame
    cases hsame
    exact ⟨by simpa using h, by simp⟩
  cases hm : s.monitor with
  | none =>
    rw [watch_of_none hm] at hwatch
    exact hnone hwatch
  | some m =>
    unfold Session.watch at hwatch
    rw [Act.read_bind, hm] at hwatch
    simp only at hwatch
    rw [Act.read_bind] at hwatch
    split at hwatch
    · rw [Act.read_bind, Act.read_bind] at hwatch
      obtain ⟨s₁, found, hreport, hwatch⟩ := Act.bind_ok.mp hwatch
      obtain ⟨⟨j, rfl⟩, hcheck⟩ := Act.report_ok hreport
      rw [Act.change_bind] at hwatch
      obtain ⟨s₂, _, hannounce, hwatch⟩ := Act.bind_ok.mp hwatch
      obtain ⟨rfl, rfl⟩ := Act.pure_ok.mp hwatch
      have hlook : Unrecorded s { s with journal := j, monitor := some found.1 } :=
        ⟨rfl, rfl, rfl, rfl⟩
      refine ⟨(h.unrecorded hlook).announce hannounce, ?_⟩
      intro e he
      rw [← h.ticks]
      exact ((CollisionMonitor.told_of_check hcheck).ordered e he).2
    · exact hnone hwatch

/-! ## The rounds of a history -/

/-- A round, and the collisions that the monitor told of in it. -/
structure RoundTrace where
  round : Round
  collisions : List CollisionEvent

/-- The records of a round: one for each of its collisions, and then its own. -/
def RoundTrace.recordsAt (tick : Nat) (t : RoundTrace) : List (String × Record) :=
  t.collisions.map (fun e => ("bus", e.record)) ++
    [("scheduler", roundRecord tick t.round t.collisions)]

/-- The records of rounds, one after another, of which the first is at a tick. -/
def recordsFrom (tick : Nat) : List RoundTrace → List (String × Record)
  | [] => []
  | t :: rest => t.recordsAt tick ++ recordsFrom (tick + 1) rest

theorem recordsFrom_append (tick : Nat) (a b : List RoundTrace) :
    recordsFrom tick (a ++ b) = recordsFrom tick a ++ recordsFrom (tick + a.length) b := by
  induction a generalizing tick with
  | nil => rfl
  | cons t rest ih =>
    have hnext : tick + (t :: rest).length = tick + 1 + rest.length := by
      simp only [List.length_cons]; omega
    rw [List.cons_append, recordsFrom, recordsFrom, ih, List.append_assoc, hnext]

/-- What the sources give: the scheduler one record for each round, and the bus one
for each collision. -/
theorem countP_recordsFrom (tick : Nat) (rounds : List RoundTrace) (source : String) :
    (recordsFrom tick rounds).countP (·.1 = source) =
      if source = "scheduler" then rounds.length
      else if source = "bus" then (rounds.flatMap (·.collisions)).length else 0 := by
  induction rounds generalizing tick with
  | nil => simp [recordsFrom]
  | cons t rest ih =>
    rw [recordsFrom, List.countP_append, ih, RoundTrace.recordsAt, List.countP_append,
      List.countP_map]
    by_cases hscheduler : source = "scheduler"
    · subst hscheduler
      simp [Function.comp_def]
      omega
    · by_cases hbus : source = "bus"
      · subst hbus
        simp [Function.comp_def]
      · simp [Function.comp_def, hscheduler, hbus, Ne.symm hscheduler, Ne.symm hbus]

/-- The round that is played at a tick; none if the stage does not run. -/
def roundIn (s : Session) : List RoundTrace :=
  match s.stage.running, (Round.play s.interpreter s.stage.actors s.executions).2,
    (openRound s).2 with
  | true, .ok r, .ok events => [⟨r, events⟩]
  | _, _, _ => []

/-- The rounds that are played for requests, one after another. -/
def roundsAnswering (s : Session) : List FrameRequest → List RoundTrace
  | [] => []
  | .tick :: rest => s.roundIn ++ (tick s).1.roundsAnswering rest

/-- The rounds of the next frame. -/
def roundsOfFrame (s : Session) : List RoundTrace :=
  match s.host with
  | .manual h => { s with host := .manual h.takeBatch.1 }.roundsAnswering h.takeBatch.2
  | .outside .. => []

/-- The rounds of the next frames, at most so many. -/
def roundsOfFrames (s : Session) : Nat → List RoundTrace
  | 0 => []
  | n + 1 =>
    s.roundsOfFrame ++
      match frame "run" s with
      | (s', .ok true) => s'.roundsOfFrames n
      | _ => []

/-- The rounds of an event. -/
def roundsOf (s : Session) : SessionEvent → List RoundTrace
  | .frame => s.roundIn
  | .asked .step => s.roundsOfFrame
  | .asked (.run most) => s.roundsOfFrames most.toNat
  | .asked _ => []

/-- The rounds of a history. -/
def rounds (s : Session) : List SessionEvent → List RoundTrace
  | [] => []
  | event :: events => s.roundsOf event ++ (s.undergo event).rounds events

/-- Whether a frame of an event fails. A session cannot run the frames of a host that is not its
own: asking for them fails, but it is no frame that does. -/
def framesFail (s : Session) : SessionEvent → Bool
  | .frame => (tick.attempt s).2.isSome
  | .asked op =>
    match s.host with
    | .manual _ => op.runsFrames && (s.perform op).2.isSome
    | .outside .. => false

/-- No frame of a history fails. -/
def framesHold (s : Session) : List SessionEvent → Bool
  | [] => true
  | event :: events => !s.framesFail event && (s.undergo event).framesHold events

/-! ## What is recorded in a history -/

variable {past : List RoundTrace}

/-- A session that has recorded rounds. -/
structure Recorded (s : Session) (past : List RoundTrace) : Prop where
  traces : Traces s (recordsFrom 1 past) (past.flatMap (·.collisions)) past.length
  dated : ∀ (i : Nat) t, past[i]? = some t → ∀ e ∈ t.collisions, e.tick = (i + 1 : Nat)

theorem Recorded.unrecorded (h : Recorded s past) (hsame : Unrecorded s t) : Recorded t past :=
  ⟨h.traces.unrecorded hsame, h.dated⟩

/-- A round that does not fail is recorded, with its collisions before it. -/
theorem Recorded.tick (h : Recorded s past) (ht : tick s = (s', .ok u)) :
    Recorded s' (past ++ s.roundIn) := by
  cases hrun : s.stage.running with
  | false =>
    have hidle : roundIn s = [] := by simp [roundIn, hrun]
    unfold Session.tick at ht
    rw [Act.change_bind, Act.read_bind] at ht
    simp only [hrun, Bool.false_eq_true, if_false] at ht
    obtain ⟨rfl, -⟩ := Act.pure_ok.mp ht
    rw [hidle, List.append_nil]
    exact h.unrecorded ⟨rfl, rfl, rfl, rfl⟩
  | true =>
    obtain ⟨r, j, s₃, s₄, s₅, events, hopen, hr, hdeltas, hwatch, hemit, hends⟩ :=
      Session.tick_parts hrun ht
    have hround : roundIn s = [⟨r, events⟩] := by simp only [roundIn, hrun, hr, hopen]
    -- the round is counted first, so that its collisions have its own number
    have hcounted : Traces (s.afterRound r j) (recordsFrom 1 past) (past.flatMap (·.collisions))
        (past.length + 1) :=
      ⟨h.traces.recording, h.traces.recorder, h.traces.history, congrArg (· + 1) h.traces.ticks⟩
    have hrestaged :=
      (applyDeltas_restages (s.afterRound r j) r.deltas ⟨_, _, _, rfl⟩).1 _ _ hdeltas
    obtain ⟨hwatched, htick⟩ := (hcounted.unrecorded hrestaged.unrecorded).watch hwatch
    have hemitted := (hwatched.emit hemit).unrecorded hends.unrecorded
    rw [hround]
    refine ⟨?_, ?_⟩
    · have hrecords : recordsFrom 1 (past ++ [⟨r, events⟩]) =
          recordsFrom 1 past ++ events.map (fun e => ("bus", e.record)) ++
            [("scheduler", roundRecord s₄.ticks r events)] := by
        rw [recordsFrom_append, hwatched.ticks, List.append_assoc, Nat.add_comm past.length 1]
        simp [recordsFrom, RoundTrace.recordsAt]
      rw [hrecords, List.flatMap_append, List.length_append]
      simpa using hemitted
    · intro i t hi e he
      rw [List.getElem?_append] at hi
      split at hi
      · exact h.dated i t hi e he
      · next hge =>
        obtain ⟨hzero, rfl⟩ : i - past.length = 0 ∧ (⟨r, events⟩ : RoundTrace) = t := by
          simpa [List.getElem?_singleton] using hi
        have hlast : i = past.length := by omega
        rw [hlast]
        exact htick e he

theorem Recorded.answerRequests (h : Recorded s past) {requests : List FrameRequest}
    (hanswer : answerRequests requests s = (s', .ok u)) :
    Recorded s' (past ++ s.roundsAnswering requests) := by
  induction requests generalizing s past with
  | nil =>
    obtain ⟨rfl, -⟩ := Act.pure_ok.mp hanswer
    simpa [roundsAnswering] using h
  | cons request rest ih =>
    cases request with
    | tick =>
      unfold Session.answerRequests at hanswer
      obtain ⟨s₁, _, htick, hrest⟩ := Act.bind_ok.mp hanswer
      rw [roundsAnswering, htick, ← List.append_assoc]
      exact ih (h.tick htick) hrest

theorem Recorded.frame {caller : String} {b : Bool} (h : Recorded s past)
    (hframe : frame caller s = (s', .ok b)) :
    Recorded s' (past ++ s.roundsOfFrame) := by
  unfold Session.frame at hframe
  rw [Act.read_bind] at hframe
  cases hhost : s.host with
  | outside n handle =>
    rw [hhost] at hframe
    cases hframe
  | manual host =>
    rw [hhost] at hframe
    simp only at hframe
    split at hframe
    · next hempty =>
      obtain ⟨rfl, -⟩ := Act.pure_ok.mp hframe
      have hnone : s.roundsOfFrame = [] := by
        simp [roundsOfFrame, hhost, FrameHost.takeBatch, List.isEmpty_iff.mp hempty,
          roundsAnswering]
      rw [hnone, List.append_nil]
      exact h
    · rw [Act.change_bind] at hframe
      obtain ⟨s₁, _, hanswer, hframe⟩ := Act.bind_ok.mp hframe
      rw [Act.change_bind] at hframe
      obtain ⟨rfl, -⟩ := Act.pure_ok.mp hframe
      have htaken : Recorded { s with host := .manual host.takeBatch.1 } past :=
        h.unrecorded ⟨rfl, rfl, rfl, rfl⟩
      rw [roundsOfFrame, hhost]
      exact (htaken.answerRequests hanswer).unrecorded ⟨rfl, rfl, rfl, rfl⟩

theorem Recorded.frames {n count : Nat} (h : Recorded s past)
    (hframes : frames "run" n s = (s', .ok count)) :
    Recorded s' (past ++ s.roundsOfFrames n) := by
  induction n generalizing s past count with
  | zero =>
    obtain ⟨rfl, -⟩ := Act.pure_ok.mp hframes
    simpa [roundsOfFrames] using h
  | succ n ih =>
    obtain ⟨s₁, b, hframe, hrest⟩ := frames_succ hframes
    have hfirst := h.frame hframe
    rw [roundsOfFrames, hframe, ← List.append_assoc]
    cases b with
    | false =>
      obtain ⟨rfl, -⟩ := hrest
      simpa using hfirst
    | true =>
      obtain ⟨k, hlater, -⟩ := hrest
      exact ih hfirst hlater

theorem Recorded.run {most : Int} {count : Nat} (h : Recorded s past)
    (hrun : run most s = (s', .ok count)) :
    Recorded s' (past ++ s.roundsOfFrames most.toNat) := by
  unfold Session.run at hrun
  rw [Act.read_bind] at hrun
  cases hhost : s.host with
  | outside n handle =>
    rw [hhost] at hrun
    cases hrun
  | manual host =>
    rw [hhost] at hrun
    obtain ⟨s₁, k, hframes, hrun⟩ := Act.bind_ok.mp hrun
    rw [Act.read_bind] at hrun
    have hplayed := h.frames hframes
    split at hrun
    · obtain ⟨s₂, _, hnote, hrun⟩ := Act.bind_ok.mp hrun
      obtain ⟨rfl, -⟩ := Act.pure_ok.mp hrun
      exact hplayed.unrecorded ((report_unrecorded _ ⟨rfl, rfl, rfl, rfl⟩).1 _ _ hnote)
    · obtain ⟨rfl, -⟩ := Act.pure_ok.mp hrun
      exact hplayed

/-- A session with a host that is not its own runs no frames. -/
theorem foreign_frames {op : SessionOp} {n : Int} {handle : Nat}
    (hhost : s.host = .outside n handle) (hop : op.runsFrames = true) :
    (s.perform op).1 = s ∧ s.roundsOf (.asked op) = [] := by
  have hframe : ∀ caller, Session.frame caller s = (s, .error (.foreignHost caller)) := by
    intro caller
    unfold Session.frame
    rw [Act.read_bind, hhost]
    rfl
  have hnone : s.roundsOfFrame = [] := by simp only [roundsOfFrame, hhost]
  cases op with
  | step =>
    refine ⟨?_, hnone⟩
    show (Act.attempt (Session.frame "tick") s).1 = s
    simp only [Act.attempt, hframe]
  | run most =>
    refine ⟨?_, ?_⟩
    · show (Act.attempt (Session.run most) s).1 = s
      unfold Act.attempt Session.run
      rw [Act.read_bind, hhost]
      rfl
    · show s.roundsOfFrames most.toNat = []
      cases most.toNat with
      | zero => rfl
      | succ k => simp only [roundsOfFrames, hnone, hframe, List.append_nil]
  | _ => cases hop

/-- Whatever happens to a session that is still open, its rounds are recorded, and
nothing else is. -/
theorem Recorded.undergo {event : SessionEvent} (h : Recorded s past)
    (hopen : event ≠ .asked .close) (hholds : s.framesFail event = false) :
    Recorded (s.undergo event) (past ++ s.roundsOf event) := by
  cases event with
  | frame =>
    obtain ⟨u, htick⟩ :=
      Act.attempt_ok (m := Session.tick) (s := s) (by simpa [framesFail] using hholds)
    have hplayed := h.tick htick
    have hsame : s.undergo .frame = (Session.tick.attempt s).1 := by rw [Session.undergo, htick]
    rw [hsame]
    exact hplayed
  | asked op =>
    cases hop : op.runsFrames with
    | false =>
      have hclose : op ≠ .close := fun hop => hopen (congrArg _ hop)
      have hnone : s.roundsOf (.asked op) = [] := by
        cases op with
        | step => cases hop
        | run most => cases hop
        | _ => rfl
      rw [hnone, List.append_nil]
      exact h.unrecorded (perform_revises s hop hclose).unrecorded
    | true =>
      cases hhost : s.host with
      | outside n handle =>
        obtain ⟨hsame, hnone⟩ := foreign_frames hhost hop
        rw [hnone, List.append_nil]
        show Recorded (s.perform op).1 past
        rw [hsame]
        exact h
      | manual host =>
        have hok : (s.perform op).2 = none := by simpa [framesFail, hhost, hop] using hholds
        cases op with
        | step =>
          obtain ⟨b, hframe⟩ := Act.attempt_ok (m := Session.step) hok
          exact h.frame hframe
        | run most =>
          obtain ⟨count, hrun⟩ := Act.attempt_ok (m := Session.run most) hok
          exact h.run hrun
        | _ => cases hop

theorem Recorded.through {events : List SessionEvent} (h : Recorded s past)
    (hopen : .asked .close ∉ events) (hholds : s.framesHold events = true) :
    Recorded (s.through events) (past ++ s.rounds events) := by
  induction events generalizing s past with
  | nil =>
    rw [rounds, List.append_nil]
    exact h
  | cons event events ih =>
    rw [List.mem_cons, not_or] at hopen
    rw [framesHold, Bool.and_eq_true, Bool.not_eq_true'] at hholds
    rw [rounds, ← List.append_assoc]
    exact ih (h.undergo (Ne.symm hopen.1) hholds.1) hopen.2 hholds.2

/-- A session that is set up to record has recorded nothing in the beginning. -/
theorem create_recorded {o : SessionOptions} (hrecording : o.recording.isSome = true) :
    Recorded (create o) [] := by
  obtain ⟨r, hr⟩ := Option.isSome_iff_exists.mp hrecording
  have hfresh : (Recorder.inDirectory r.1 r.2).Holds [] :=
    ⟨rfl, ⟨[], .nil, rfl⟩, fun _ => rfl, List.nodup_nil⟩
  have hrecorder : (prepared o).recorder = some (Recorder.inDirectory r.1 r.2) := by
    simp [prepared, hr]
  have hbus : (prepared o).bus.history = (prepared o).bus.recent [] := by
    unfold prepared
    cases o.collisions <;> rfl
  obtain ⟨j, -, heq⟩ := create_begins o
  refine ⟨?_, by simp⟩
  rw [heq]
  split
  · exact ⟨hrecording, ⟨_, hrecorder, hfresh⟩, hbus, rfl⟩
  · exact ⟨hrecording, ⟨_, hrecorder, hfresh⟩, hbus, rfl⟩

theorem recordsFrom_isEmpty (tick : Nat) (rounds : List RoundTrace) :
    (recordsFrom tick rounds).isEmpty = true ↔ rounds.length = 0 := by
  cases rounds with
  | nil => simp [recordsFrom]
  | cons t rest => simp [recordsFrom, RoundTrace.recordsAt]

/-! ## What the file says -/

/-- What the file says of a round: of each of its collisions, with the number of the round, and then
of the round itself, which names the same pairs. -/
def RoundTrace.told (tick : Nat) (t : RoundTrace) : List Value :=
  t.collisions.map (fun e => .record
    [("module", .str "bus"), ("type", .str "CollisionEvent"), ("actor_a_id", .str e.first),
     ("actor_b_id", .str e.second), ("tick", .int tick)]) ++
  [.record
    [("module", .str "scheduler"), ("type", .str "tick"), ("tick", .int tick),
     ("updates", .int t.round.deltas.length), ("completed", .list (t.round.completed.map .str)),
     ("collisions", .list (t.collisions.map fun e => .list [.str e.first, .str e.second]))]]

theorem plain_collision (e : CollisionEvent) :
    Recording.Plain (Recorder.tagged "bus" e.record).toValue := by
  show Recording.Plain (.record
    [("module", .str "bus"), ("type", .str "CollisionEvent"), ("actor_a_id", .str e.first),
     ("actor_b_id", .str e.second), ("tick", .int e.tick)])
  exact .record (by simp)

theorem plain_round (tick : Nat) (r : Round) (events : List CollisionEvent) :
    Recording.Plain (Recorder.tagged "scheduler" (roundRecord tick r events)).toValue := by
  have hcompleted : Recording.Plain (.list (r.completed.map .str)) := by
    exact .list (by simp)
  have hpairs :
      Recording.Plain (.list (events.map fun e => .list [.str e.first, .str e.second])) := by
    refine .list fun v hv => ?_
    obtain ⟨e, -, rfl⟩ := List.mem_map.mp hv
    exact .list (by simp)
  show Recording.Plain (.record
    [("module", .str "scheduler"), ("type", .str "tick"), ("tick", .int tick),
     ("updates", .int r.deltas.length), ("completed", .list (r.completed.map .str)),
     ("collisions", .list (events.map fun e => .list [.str e.first, .str e.second]))])
  exact .record (by simp [hcompleted, hpairs])

/-- What the lines of rounds say is told by the rounds, if their collisions have their numbers. -/
theorem recordsFrom_told {tick : Nat} {rounds : List RoundTrace}
    (hdated : ∀ (i : Nat) t, rounds[i]? = some t → ∀ e ∈ t.collisions, e.tick = (tick + i : Nat)) :
    (recordsFrom tick rounds).map (fun p => (Recorder.tagged p.1 p.2).toValue) =
      (rounds.zipIdx tick).flatMap fun p => p.1.told p.2 := by
  induction rounds generalizing tick with
  | nil => rfl
  | cons t rounds ih =>
    have hfirst : (t.recordsAt tick).map (fun p => (Recorder.tagged p.1 p.2).toValue) =
        t.told tick := by
      rw [RoundTrace.recordsAt, RoundTrace.told, List.map_append, List.map_map]
      refine congrArg (· ++ _) (List.map_congr_left fun e he => ?_)
      have htick : e.tick = tick := hdated 0 t rfl e he
      rw [← htick]
      rfl
    have hlater : ∀ (i : Nat) t, rounds[i]? = some t →
        ∀ e ∈ t.collisions, e.tick = (tick + 1 + i : Nat) := by
      intro i t ht e he
      rw [hdated (i + 1) t ht e he]
      omega
    rw [recordsFrom, List.map_append, hfirst, ih hlater]
    rfl

theorem recordsFrom_plain {tick : Nat} {rounds : List RoundTrace} {p : String × Record}
    (h : p ∈ recordsFrom tick rounds) : Recording.Plain (Recorder.tagged p.1 p.2).toValue := by
  induction rounds generalizing tick with
  | nil => cases h
  | cons t rounds ih =>
    rw [recordsFrom, RoundTrace.recordsAt, List.mem_append, List.mem_append, List.mem_map,
      List.mem_singleton] at h
    rcases h with (⟨e, -, rfl⟩ | rfl) | hlater
    · exact plain_collision e
    · exact plain_round tick t.round t.collisions
    · exact ih hlater

/-- The counts of a recorder that has taken the records of rounds. -/
theorem counts_perm {r : Recorder} {rounds : List RoundTrace} (h : r.Holds (recordsFrom 1 rounds))
    (hsome : 0 < rounds.length) :
    r.counts.Perm (("scheduler", rounds.length) ::
      if rounds.flatMap (·.collisions) = [] then []
        else [("bus", (rounds.flatMap (·.collisions)).length)]) := by
  have hcounts : ∀ source, r.counts.get? source = _ := fun source =>
    (h.counts source).trans (congrArg Recorder.counted (countP_recordsFrom 1 rounds source))
  generalize rounds.flatMap (·.collisions) = collisions at hcounts ⊢
  refine Assoc.perm_of_get?_eq h.sources (by split <;> simp [Assoc.keys]) fun source => ?_
  rw [hcounts]
  by_cases hscheduler : source = "scheduler"
  · subst hscheduler
    simp [Recorder.counted, Assoc.get?, Nat.ne_of_gt hsome]
  · cases collisions with
    | nil => simp [Recorder.counted, Assoc.get?, hscheduler, Ne.symm hscheduler]
    | cons e collisions =>
      by_cases hbus : source = "bus"
      · subst hbus
        simp [Recorder.counted, Assoc.get?]
      · simp [Recorder.counted, Assoc.get?, hscheduler, hbus, Ne.symm hscheduler, Ne.symm hbus]

theorem through_close (s : Session) (events : List SessionEvent) :
    s.through (events ++ [.asked .close]) = (s.through events).closed := by
  rw [Session.through, List.foldl_append]
  exact congrArg Prod.fst (perform_close _)

/-- The file of a session that is closed. -/
theorem Recorded.closed (h : Recorded s past) :
    ∃ r lines, s.closed.recorder = some r ∧ r.closed = true ∧
      r.lines = (if past.length = 0 then none
        else some (Recorder.opening :: lines ++ [Recorder.summary r.counts, ""])) ∧
      lines.map Recording.read = ((past.zipIdx 1).flatMap fun p => p.1.told p.2).map some ∧
      (0 < past.length → r.counts.Perm (("scheduler", past.length) ::
        if past.flatMap (·.collisions) = [] then []
          else [("bus", (past.flatMap (·.collisions)).length)])) := by
  obtain ⟨r, hr, hheld⟩ := h.traces.recorder
  obtain ⟨hclosed, hcounts, lines, hlines, hfile⟩ := hheld.close
  have hrecorder : s.closed.recorder = some r.close := by
    show s.recorder.map (·.close) = some r.close
    rw [hr]
    rfl
  have hdated : ∀ (i : Nat) t, past[i]? = some t → ∀ e ∈ t.collisions, e.tick = (1 + i : Nat) := by
    intro i t ht e he
    rw [h.dated i t ht e he, Nat.add_comm]
  refine ⟨r.close, lines, hrecorder, hclosed, ?_, ?_, ?_⟩
  · rw [hfile, hcounts]
    simp only [recordsFrom_isEmpty]
  · rw [hlines.read fun p hp => recordsFrom_plain hp, ← recordsFrom_told hdated, List.map_map]
    rfl
  · intro hsome
    rw [hcounts]
    exact counts_perm hheld hsome

/-- **The recording of a session tells its rounds.** A session that is set up to record goes through
a history in which no frame fails, and is closed. Without a round there is no file. Otherwise, after
the line that opens it, the file has for each round in the order of time one line for each of its
collisions, which carries the number of the round, and then the line of the round itself, which
names the same collisions; and it ends with a summary that counts them. The collisions in the file
are those of which the bus remembers the last. -/
theorem recording_tells_rounds (o : SessionOptions) (hrecording : o.recording.isSome = true)
    {events : List SessionEvent} (hopen : .asked .close ∉ events)
    (hholds : (create o).framesHold events = true) :
    let played := (create o).rounds events
    let collisions := played.flatMap (·.collisions)
    let s := (create o).through (events ++ [.asked .close])
    let kept (events : List Event) :=
      if s.bus.bounded = true then events.drop (events.length - s.bus.capacity) else events
    s.ticks = played.length ∧
      (∀ (i : Nat) t, played[i]? = some t → ∀ e ∈ t.collisions, e.tick = (i + 1 : Nat)) ∧
      s.bus.history = kept (collisions.map .collision) ∧
      ∃ r, s.recorder = some r ∧ r.closed = true ∧ (s.ticks = 0 → r.lines = none) ∧
        (0 < s.ticks → ∃ first body last started ended counts,
          r.lines = some (first :: body ++ [last, ""]) ∧
          Recording.read first = some (.record [("type", .str "run"),
            ("started", .float started)]) ∧
          body.map Recording.read = ((played.zipIdx 1).flatMap fun p => p.1.told p.2).map some ∧
          Recording.read last = some (.record
            [("type", .str "summary"), ("ended", .float ended), ("counts", .record counts)]) ∧
          counts.Perm (("scheduler", .int s.ticks) ::
            if collisions = [] then [] else [("bus", .int collisions.length)])) := by
  intro played collisions s kept
  have hrecorded : Recorded ((create o).through events) played := by
    simpa using (create_recorded hrecording).through hopen hholds
  have hclosed : s = ((create o).through events).closed := through_close _ events
  have hticks : s.ticks = played.length := by
    rw [hclosed]
    exact hrecorded.traces.ticks
  have hhistory : s.bus.history = s.bus.recent (collisions.map .collision) := by
    rw [hclosed]
    exact hrecorded.traces.history
  refine ⟨hticks, hrecorded.dated, hhistory, ?_⟩
  obtain ⟨r, body, hr, hshut, hlines, hbody, hcounts⟩ := hrecorded.closed
  rw [hticks]
  refine ⟨r, hclosed ▸ hr, hshut, fun hnone => by rw [hlines, if_pos hnone], fun hsome => ?_⟩
  obtain ⟨started, hopening⟩ := Recorder.read_opening
  obtain ⟨ended, hsummary⟩ := Recorder.read_summary r.counts
  refine ⟨_, body, _, started, ended, _, ?_, hopening, hbody, hsummary, ?_⟩
  · rw [hlines, if_neg (Nat.ne_of_gt hsome)]
  · have hperm := (hcounts hsome).map fun c => (c.1, Value.int c.2)
    show List.Perm _ (_ :: if played.flatMap (·.collisions) = [] then _ else _)
    split at hperm
    · next hnone => rwa [if_pos hnone]
    · next hcollisions => rwa [if_neg hcollisions]

/-- A cat that jumps away from a dog and back, twice, and the dog, in a session that records. -/
def recordedStage : SessionOptions :=
  let flag : Block := ⟨"f", BlockType.flagClicked, [], none⟩
  let say (id : String) : Block := ⟨id, BlockType.say, [.str "hi"], none⟩
  let jump (id : String) (x : Int) : Block := ⟨id, BlockType.goTo, [.int x, .int 0], none⟩
  { initial :=
      { actors :=
          [{ id := "cat-1", script := [flag, jump "a" 400, jump "b" 30, jump "c" 400, jump "d" 30,
            say "e"] },
           { id := "dog-1", script := [flag, say "a", say "b", say "c", say "d", say "e"] }] }
    recording := some ("runs", some "meeting") }

/-- The host comes with a frame of its own, so that two requests wait when the next frame is asked
for. The run is stopped, a frame comes late, and another run begins. -/
def interruptedRuns : List SessionEvent :=
  [.asked .start, .frame, .asked .step, .asked .halt, .frame, .asked .start, .asked (.run 1)]

/-- Five rounds are recorded, and two collisions before the rounds that they are of. The frame that
came late is not among them. -/
theorem recording_tells_rounds_interruptedRuns :
    let collision (tick : Int) : Value := .record
      [("module", .str "bus"), ("type", .str "CollisionEvent"), ("actor_a_id", .str "cat-1"),
       ("actor_b_id", .str "dog-1"), ("tick", .int tick)]
    let round (tick : Int) (pairs : List Value) : Value := .record
      [("module", .str "scheduler"), ("type", .str "tick"), ("tick", .int tick),
       ("updates", .int 2), ("completed", .list []), ("collisions", .list pairs)]
    let meeting : Value := .list [.str "cat-1", .str "dog-1"]
    ∃ r first body last started ended counts,
      ((create recordedStage).through (interruptedRuns ++ [.asked .close])).recorder = some r ∧
      r.lines = some (first :: body ++ [last, ""]) ∧
      Recording.read first = some (.record [("type", .str "run"), ("started", .float started)]) ∧
      body.map Recording.read = [round 1 [], collision 2, round 2 [meeting], round 3 [], round 4 [],
        collision 5, round 5 [meeting]].map some ∧
      Recording.read last = some (.record
        [("type", .str "summary"), ("ended", .float ended), ("counts", .record counts)]) ∧
      counts.Perm [("scheduler", .int 5), ("bus", .int 2)] := by
  have hrounds : ((create recordedStage).rounds interruptedRuns).map
      (fun t => (t.round.deltas.length, t.round.completed, t.collisions)) =
      [(2, [], []), (2, [], [⟨"cat-1", "dog-1", 2⟩]), (2, [], []), (2, [], []),
       (2, [], [⟨"cat-1", "dog-1", 5⟩])] := by
    decide +kernel
  have hopen : .asked .close ∉ interruptedRuns := by simp [interruptedRuns]
  obtain ⟨hticks, -, -, r, hr, -, -, hfile⟩ :=
    recording_tells_rounds recordedStage rfl hopen (by decide +kernel)
  simp only [List.map_eq_cons_iff, List.map_eq_nil_iff, Prod.mk.injEq] at hrounds
  obtain ⟨t₁, _, hplayed, h₁, t₂, _, rfl, h₂, t₃, _, rfl, h₃, t₄, _, rfl, h₄, t₅, _, rfl, h₅,
    rfl⟩ := hrounds
  rw [hplayed] at hticks hfile
  obtain ⟨first, body, last, started, ended, counts, hlines, hfirst, hbody, hlast, hcounts⟩ :=
    hfile (by rw [hticks]; exact Nat.zero_lt_succ _)
  refine ⟨r, first, body, last, started, ended, counts, hr, hlines, hfirst, ?_, hlast, ?_⟩
  · simpa [RoundTrace.told, h₁, h₂, h₃, h₄, h₅] using hbody
  · simpa [hticks, h₁, h₂, h₃, h₄, h₅] using hcounts

end Session

end ScriptedStage
