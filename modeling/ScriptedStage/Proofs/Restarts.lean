import ScriptedStage.Proofs.CollisionEdges
import ScriptedStage.Proofs.ScheduledFrames

/-!
Runs that start again. A session carries much from one run into the next: pointers and loops of a
run that was stopped in its middle, the overlaps that the monitor saw, requests, counters, what was
printed and recorded. None of it shows in the next run: from the same stage it goes as the first run
of a new session does, frame by frame and failure by failure.

Two sessions are compared step by step. What they may differ in (the host and its handles, the
counters, the history of the bus, what was printed and recorded) is what no step looks at, except
that a recording cannot hold a number of ticks or of changes that is too long to be written.

What is proved:
  1. `tick_agrees`: a round of two sessions that are alike comes to the same and leaves them alike;
  2. `lasting_wired`: what a session was made with stays as it is, and at rest the monitor has
     forgotten all overlaps;
  3. `restarts_afresh`: a run after any history is the first run of a new session over
     the same stage.
-/
namespace ScriptedStage

/-! ## Outcomes that are alike -/

namespace Act

variable {α β γ δ : Type} {rel : Session → Session → Prop} {same : α → β → Prop}

/-- Two outcomes of one kind, with related sessions and results, or the same fault. -/
def Matches (rel : Session → Session → Prop) (same : α → β → Prop) :
    Session × Except Fault α → Session × Except Fault β → Prop
  | (s, .ok a), (t, .ok b) => rel s t ∧ same a b
  | (s, .error e), (t, .error f) => rel s t ∧ e = f
  | _, _ => False

/-- Two actions that lead from related sessions to outcomes that match. -/
def Agree (rel : Session → Session → Prop) (m : Act α) (n : Act β) (same : α → β → Prop) : Prop :=
  ∀ ⦃s t : Session⦄, rel s t → Matches rel same (m s) (n t)

theorem Matches.bind {m : Act α} {n : Act β} {f : α → Act γ} {g : β → Act δ} {last : γ → δ → Prop}
    {s t : Session} (hm : Matches rel same (m s) (n t))
    (hf : ∀ a b, same a b → Agree rel (f a) (g b) last) :
    Matches rel last ((m >>= f) s) ((n >>= g) t) := by
  simp only [Bind.bind]
  rcases hs : m s with ⟨s₁, e | a⟩ <;> rcases ht : n t with ⟨t₁, e' | b⟩ <;> rw [hs, ht] at hm
  · exact hm
  · exact hm.elim
  · exact hm.elim
  · exact hf a b hm.2 hm.1

/-- Seen from outside, outcomes that match fail alike. -/
theorem Matches.attempt {m : Act α} {n : Act β} {s t : Session} (h : Matches rel same (m s) (n t)) :
    rel (m.attempt s).1 (n.attempt t).1 ∧ (m.attempt s).2 = (n.attempt t).2 := by
  unfold Act.attempt
  rcases hs : m s with ⟨s₁, e | a⟩ <;> rcases ht : n t with ⟨t₁, e' | b⟩ <;> rw [hs, ht] at h
  · exact ⟨h.1, congrArg some h.2⟩
  · exact h.elim
  · exact h.elim
  · exact ⟨h.1, rfl⟩

namespace Agree

theorem bind {m : Act α} {n : Act β} {f : α → Act γ} {g : β → Act δ} {last : γ → δ → Prop}
    (hm : Agree rel m n same) (hf : ∀ a b, same a b → Agree rel (f a) (g b) last) :
    Agree rel (m >>= f) (n >>= g) last := fun _ _ h => (hm h).bind hf

theorem bind_eq {m n : Act α} {f : α → Act γ} {g : α → Act δ} {last : γ → δ → Prop} (hm : Agree rel m n Eq)
    (hf : ∀ a, Agree rel (f a) (g a) last) : Agree rel (m >>= f) (n >>= g) last := by
  refine bind hm fun a b hab => ?_
  subst hab
  exact hf a

theorem pure {a : α} {b : β} (h : same a b) : Agree rel (Pure.pure a : Act α) (Pure.pure b : Act β) same :=
  fun _ _ hst => ⟨hst, h⟩

theorem read {f : Session → α} {g : Session → β} (h : ∀ s t, rel s t → same (f s) (g t)) :
    Agree rel (Act.read f) (Act.read g) same := fun s t hst => ⟨hst, h s t hst⟩

theorem change {f g : Session → Session} (h : ∀ s t, rel s t → rel (f s) (g t)) :
    Agree rel (Act.change f) (Act.change g) Eq := fun s t hst => ⟨h s t hst, rfl⟩

theorem stop (e : Fault) : Agree rel (Act.stop e : Act α) (Act.stop e : Act β) same :=
  fun _ _ hst => ⟨hst, rfl⟩

theorem ofChecked (c : Checked α) : Agree rel (Act.ofChecked c) (Act.ofChecked c) Eq := by
  cases c with
  | error issues => exact stop _
  | ok a => exact pure rfl

end Agree

end Act

/-! ## What is printed and what is written -/

/-- The numbers that are too long to be written begin here. -/
def writingLimit : Nat := Numeric.tenPow Numeric.maxIntegerDigits

theorem integerText_of_lt {n : Int} (h : n.natAbs < writingLimit) : ∃ t, integerText n = .ok t := by
  refine ⟨Numeric.integerText n, ?_⟩
  unfold integerText
  rw [if_pos]
  rw [Bool.or_eq_true]
  exact .inr (decide_eq_true h)

namespace Recording

theorem values_ok {items : List Value} (h : ∀ v ∈ items, ∃ t, value v = .ok t) :
    ∃ ts, values items = .ok ts := by
  induction items with
  | nil => exact ⟨[], by rw [values]⟩
  | cons v items ih =>
    obtain ⟨t, ht⟩ := h v List.mem_cons_self
    obtain ⟨ts, hts⟩ := ih fun w hw => h w (List.mem_cons_of_mem v hw)
    exact ⟨t :: ts, by rw [values, ht, hts]; rfl⟩

theorem list_ok {items : List Value} (h : ∀ v ∈ items, ∃ t, value v = .ok t) :
    ∃ t, value (.list items) = .ok t := by
  obtain ⟨ts, hts⟩ := values_ok h
  exact ⟨_, by rw [value, hts]; rfl⟩

/-- A record can be written if all its fields can. -/
theorem record_ok {fields : List (String × Value)} (h : ∀ f ∈ fields, ∃ t, value f.2 = .ok t) :
    ∃ t, value (.record fields) = .ok t := by
  have hentries : ∃ ts, entries (fields.map fun f => (.str f.1, f.2)) = .ok ts := by
    induction fields with
    | nil => exact ⟨[], by rw [List.map_nil, entries]⟩
    | cons f fields ih =>
      obtain ⟨t, ht⟩ := h f List.mem_cons_self
      obtain ⟨ts, hts⟩ := ih fun g hg => h g (List.mem_cons_of_mem f hg)
      exact ⟨_, by rw [List.map_cons, entries, ht, hts]; rfl⟩
  obtain ⟨ts, hts⟩ := hentries
  exact ⟨_, by rw [Value.record, value, hts]; rfl⟩

end Recording

/-- A line can be made of a record if all its fields can be written. -/
theorem Recorder.line_ok (source : String) {record : Record}
    (h : ∀ f ∈ record, ∃ t, Recording.value f.2 = .ok t) :
    ∃ l, line source record = .ok l := by
  refine Recording.record_ok ?_
  have hfold : ∀ (record fields : Record), (∀ f ∈ record, ∃ t, Recording.value f.2 = .ok t) →
      (∀ f ∈ fields, ∃ t, Recording.value f.2 = .ok t) →
      ∀ f ∈ record.foldl (fun fields x => fields.set x.1 x.2) fields, ∃ t, Recording.value f.2 = .ok t := by
    intro record
    induction record with
    | nil => exact fun fields _ hfields => hfields
    | cons x record ih =>
      intro fields hrecord hfields
      refine ih _ (fun f hf => hrecord f (List.mem_cons_of_mem x hf)) fun f hf => ?_
      rcases Assoc.of_mem_set hf with hsame | hin
      · rw [hsame]
        exact hrecord x List.mem_cons_self
      · exact hfields f hin
  refine hfold record _ h fun f hf => ?_
  obtain rfl := List.mem_singleton.mp hf
  exact ⟨Recording.text source, rfl⟩

/-- A collision can be recorded if its tick can be written. -/
theorem CollisionEvent.line_ok {e : CollisionEvent} (h : e.tick.natAbs < writingLimit) :
    ∃ l, Recorder.line "bus" e.record = .ok l := by
  refine Recorder.line_ok _ fun f hf => ?_
  simp only [record, List.mem_cons, List.not_mem_nil, or_false] at hf
  rcases hf with rfl | rfl | rfl | rfl
  · exact ⟨_, rfl⟩
  · exact ⟨_, rfl⟩
  · exact ⟨_, rfl⟩
  · exact integerText_of_lt h

/-- A round can be recorded if its tick and the number of its changes can be written. -/
theorem Session.roundRecord_line_ok {tick : Nat} {r : Round} (htick : tick < writingLimit)
    (hdeltas : r.deltas.length < writingLimit) (events : List CollisionEvent) :
    ∃ l, Recorder.line "scheduler" (roundRecord tick r events) = .ok l := by
  have htext : ∀ s : String, ∃ t, Recording.value (.str s) = .ok t := fun s => ⟨_, rfl⟩
  refine Recorder.line_ok _ fun f hf => ?_
  simp only [roundRecord, List.mem_cons, List.not_mem_nil, or_false] at hf
  rcases hf with rfl | rfl | rfl | rfl | rfl
  · exact htext _
  · exact integerText_of_lt (by simpa using htick)
  · exact integerText_of_lt (by simpa using hdeltas)
  · refine Recording.list_ok fun v hv => ?_
    obtain ⟨s, -, rfl⟩ := List.mem_map.mp hv
    exact htext s
  · refine Recording.list_ok fun v hv => ?_
    obtain ⟨e, -, rfl⟩ := List.mem_map.mp hv
    refine Recording.list_ok fun w hw => ?_
    simp only [List.mem_cons, List.not_mem_nil, or_false] at hw
    rcases hw with rfl | rfl
    · exact htext _
    · exact htext _

/-- A round has at most one change for each actor. -/
theorem Round.length_deltas_le {i : Interpreter} {actors : List Actor} {r r' : Round} {notes : List Note}
    (h : playFrom i r actors = (notes, .ok r')) : r'.deltas.length ≤ r.deltas.length + actors.length := by
  induction actors generalizing r notes with
  | nil =>
    obtain rfl := Except.ok.inj (Prod.mk.inj h).2
    exact Nat.le_refl _
  | cons a actors ih =>
    rw [playFrom] at h
    cases hnext : nextBlock? a r.states with
    | none =>
      rw [hnext] at h
      have := ih h
      rw [List.length_cons]
      omega
    | some p =>
      obtain ⟨e, b⟩ := p
      rw [hnext] at h
      cases hexec : i.execute a e b with
      | error fault => simp [hexec] at h
      | ok step =>
        simp only [hexec, Prod.mk.injEq] at h
        have hrest := ih (Prod.ext rfl h.2)
        have hone : (r.record a e.pointer step).1.deltas.length ≤ r.deltas.length + 1 := by
          rw [record_eq]
          cases changeOf step <;> simp
        rw [List.length_cons]
        omega

namespace Stage

variable {s after : Stage}

theorem updateActor_length {id : String} {patch : ActorPatch}
    (h : (s.updateActor id patch).1 = some after) :
    after.actors.length = s.actors.length := by
  unfold updateActor at h
  split at h
  · cases h
  · split at h
    · cases h
    · rw [← Option.some.inj h]
      simp [putActor]

theorem handleCollision_length {first second : String}
    (h : (s.handleCollision first second).1 = some after) :
    after.actors.length = s.actors.length := by
  simp only [handleCollision] at h
  split at h
  · split at h
    · cases h
    · rw [← Option.some.inj h]
      simp [putScripts]
  · cases h

end Stage

/-! ## Sessions that are alike -/

namespace Session

open Act

/-- Two sessions alike in all that a step looks at. The first records if `b` and the second if `c`,
and each has room for `n` more ticks in its recording. -/
structure Twin (b c : Bool) (n : Nat) (s t : Session) : Prop where
  rules : s.rules = t.rules
  stage : s.stage = t.stage
  settings : s.journal.settings = t.journal.settings
  handlers : s.bus.handlers = t.bus.handlers
  monitor : s.monitor = t.monitor
  interpreter : s.interpreter = t.interpreter
  executions : s.executions = t.executions
  following : s.following = t.following
  recording : s.recording = b ∧ t.recording = c
  room : b = true → s.ticks + n < writingLimit
  room' : c = true → t.ticks + n < writingLimit

variable {b c : Bool} {n : Nat} {α β : Type}

theorem Twin.journals {s t : Session} (h : Twin b c n s t) {j k : Journal}
    (hj : j.settings = s.journal.settings) (hk : k.settings = t.journal.settings) :
    Twin b c n { s with journal := j } { t with journal := k } :=
  { h with settings := hj.trans (h.settings.trans hk.symm) }

/-- Room for one tick more is room. -/
theorem Twin.less {s t : Session} (h : Twin b c (n + 1) s t) : Twin b c n s t :=
  { h with
    room := fun hb => by have := h.room hb; omega
    room' := fun hc => by have := h.room' hc; omega }

/-- Notes that are the same are printed or not printed on both sides. -/
theorem report_agrees {same : α → β → Prop} {p : List Note × Except Fault α}
    {q : List Note × Except Fault β} (hnotes : p.1 = q.1)
    (h : match p.2, q.2 with
      | .ok a, .ok b => same a b
      | .error e, .error f => e = f
      | _, _ => False) :
    Agree (Twin b c n) (Act.report p) (Act.report q) same := by
  obtain ⟨notes, x⟩ := p
  obtain ⟨_, y⟩ := q
  subst hnotes
  intro s t hst
  have hprinted := Journal.writeAll_congr hst.settings notes
  have hjournals := hst.journals (s.journal.writeAll_settings notes) (t.journal.writeAll_settings notes)
  unfold Act.report
  rw [Journal.settle_eq, Journal.settle_eq, hprinted]
  cases (t.journal.writeAll notes).2 with
  | error e => exact ⟨hjournals, rfl⟩
  | ok u =>
    cases x with
    | error e =>
      cases y with
      | error f => exact ⟨hjournals, h⟩
      | ok b => exact h.elim
    | ok a =>
      cases y with
      | error f => exact h.elim
      | ok b => exact ⟨hjournals, h⟩

theorem note_agrees (note : Note) : Agree (Twin b c n) (Act.note note) (Act.note note) Eq :=
  report_agrees rfl rfl

theorem cancelFrame_agrees : Agree (Twin b c n) cancelFrame cancelFrame Eq := by
  intro s t h
  rw [cancelFrame_eq, cancelFrame_eq]
  exact ⟨{ h with }, rfl⟩

theorem requestFrame_agrees : Agree (Twin b c n) requestFrame requestFrame Eq := by
  intro s t h
  rw [requestFrame_eq, requestFrame_eq]
  exact ⟨{ h with }, rfl⟩

theorem endRun_agrees : Agree (Twin b c n) endRun endRun Eq := by
  unfold endRun
  refine .bind_eq cancelFrame_agrees fun _ => .bind_eq (.change fun s t h => ?_) fun _ => ?_
  · exact { h with monitor := congrArg (Option.map (·.reset)) h.monitor }
  · -- the note tells the number of ticks, which may differ; it is printed all the same
    intro s t h
    obtain ⟨j, hj, hs⟩ :=
      Act.say_journal "scheduler" ("Run ended after " ++ toString s.ticks ++ " tick(s)") .info s
    obtain ⟨k, hk, ht⟩ :=
      Act.say_journal "scheduler" ("Run ended after " ++ toString t.ticks ++ " tick(s)") .info t
    rw [Act.read_bind, Act.read_bind, hs, ht]
    exact ⟨h.journals hj hk, rfl⟩

theorem beginRun_agrees : Agree (Twin b c n) beginRun beginRun Eq := by
  unfold beginRun
  refine .bind_eq (.change fun s t h => ?_) fun _ => .bind_eq (.read fun s t h => ?_) fun _ =>
    .bind_eq (note_agrees _) fun _ => requestFrame_agrees
  · exact { h with executions := by rw [h.stage] }
  · rw [h.executions]

theorem follow_agrees (i : Intent) (before after : Stage) :
    Agree (Twin b c n) (follow i before after) (follow i before after) Eq := by
  have hends : Agree (Twin b c n)
      (if !before.running && after.running then beginRun
        else if before.running && !after.running then endRun else Pure.pure ())
      (if !before.running && after.running then beginRun
        else if before.running && !after.running then endRun else Pure.pure ()) Eq := by
    split
    · exact beginRun_agrees
    · split
      · exact endRun_agrees
      · exact .pure rfl
  unfold follow
  cases touchesActors i with
  | true =>
    refine .bind_eq (.change fun s t h => ?_) fun _ => hends
    exact { h with executions := by rw [h.executions] }
  | false => exact hends

theorem dispatch_agrees (i : Intent) : Agree (Twin b c n) (dispatch i) (dispatch i) Eq := by
  unfold dispatch
  refine .bind_eq (.read fun s t h => h.stage) fun before =>
    .bind_eq (.read fun s t h => h.rules) fun rules => ?_
  refine .bind_eq (report_agrees rfl rfl) fun new => ?_
  cases new with
  | none => exact .pure rfl
  | some after =>
    refine .bind_eq (.change fun s t h => { h with stage := rfl }) fun _ =>
      .bind_eq (.read fun s t h => h.following) fun following => ?_
    split
    · exact .bind_eq (follow_agrees i before after) fun _ => .pure rfl
    · exact .pure rfl

/-! ## What happens in a frame -/

/-- Records that can be written are taken, or there is no recorder. -/
theorem emit_agrees {source : String} {x y : Record} (hx : b = true → ∃ l, Recorder.line source x = .ok l)
    (hy : c = true → ∃ l, Recorder.line source y = .ok l) :
    Agree (Twin b c n) (emit source x) (emit source y) Eq := by
  have htake : ∀ (s : Session) (record : Record), (s.recording = true →
    ∃ l, Recorder.line source record = .ok l) →
      ∃ r, emit source record s = ({ s with recorder := r }, .ok ()) := by
    intro s record hline
    unfold emit
    split
    · rename_i r hon hr
      obtain ⟨l, hl⟩ := hline hon
      refine ⟨some (r.take source record).1, ?_⟩
      have hok : (r.take source record).2 = .ok () := by
        unfold Recorder.take
        split
        · rfl
        · rw [hl]
      rw [hok]
    · exact ⟨s.recorder, rfl⟩
  intro s t h
  obtain ⟨r, hs⟩ := htake s x fun hon => hx (h.recording.1.symm.trans hon)
  obtain ⟨r', ht⟩ := htake t y fun hon => hy (h.recording.2.symm.trans hon)
  rw [hs, ht]
  exact ⟨{ h with }, rfl⟩

theorem applyDeltas_agrees : ∀ deltas : List (String × Delta),
    Agree (Twin b c n) (applyDeltas deltas) (applyDeltas deltas) Eq
  | [] => .pure rfl
  | (_, _) :: rest => by
    unfold applyDeltas
    exact .bind_eq (.ofChecked _) fun patch => .bind_eq (.ofChecked _) fun id =>
      .bind_eq (dispatch_agrees _) fun _ => applyDeltas_agrees rest

/-- Collisions of the same two actors, with ticks that can be written where they are recorded. -/
structure SameCollision (b c : Bool) (e f : CollisionEvent) : Prop where
  first : e.first = f.first
  second : e.second = f.second
  tick : b = true → e.tick.natAbs < writingLimit
  tick' : c = true → f.tick.natAbs < writingLimit

variable {e f : CollisionEvent}

theorem SameCollision.note (h : SameCollision b c e f) :
    CollisionMonitor.collisionNote e = CollisionMonitor.collisionNote f := by
  rw [CollisionMonitor.collisionNote, CollisionMonitor.collisionNote, h.first, h.second]

theorem react_agrees (h : SameCollision b c e f) : Agree (Twin b c n) (react e) (react f) Eq := by
  unfold react
  rw [h.first, h.second]
  exact .bind_eq (note_agrees _) fun _ => .bind_eq (.ofChecked _) fun i =>
    .bind_eq (dispatch_agrees i) fun _ =>
    .change fun s t hst => { hst with }

theorem callReactions_agrees (h : SameCollision b c e f) : ∀ reactions,
    Agree (Twin b c n) (callReactions e reactions) (callReactions f reactions) Eq
  | [] => .pure rfl
  | .reverseMoves :: rest => by
    unfold callReactions
    exact .bind_eq (react_agrees h) fun _ => callReactions_agrees h rest

theorem publish_agrees (h : SameCollision b c e f) : Agree (Twin b c n) (publish e) (publish f) Eq := by
  have hrest : ∀ handlers : List Reaction, Agree (Twin b c n)
      (emit "bus" e.record >>= fun _ =>
        Act.report (EventBus.publishNotes (.collision e) handlers, .ok ()) >>= fun _ =>
          callReactions e handlers)
      (emit "bus" f.record >>= fun _ =>
        Act.report (EventBus.publishNotes (.collision f) handlers, .ok ()) >>= fun _ =>
          callReactions f handlers)
      Eq := fun handlers =>
    .bind_eq (emit_agrees (fun hb => CollisionEvent.line_ok (h.tick hb)) fun hc =>
      CollisionEvent.line_ok (h.tick' hc))
      fun _ => .bind_eq (report_agrees rfl rfl) fun _ => callReactions_agrees h handlers
  intro s t hst
  unfold publish
  rw [Act.read_bind, Act.read_bind]
  have hhandlers : (t.bus.publish (.collision f)).2 = (s.bus.publish (.collision e)).2 := by
    show t.bus.handlersOf .collision = s.bus.handlersOf .collision
    rw [EventBus.handlersOf, EventBus.handlersOf, hst.handlers]
  simp only [hhandlers]
  rw [Act.change_bind, Act.change_bind]
  exact hrest _ { hst with handlers := hst.handlers }

theorem announce_agrees {es fs : List CollisionEvent} (h : List.Forall₂ (SameCollision b c) es fs) :
    Agree (Twin b c n) (announce es) (announce fs) Eq := by
  induction h with
  | nil => exact .pure rfl
  | cons hef _ ih =>
    unfold announce
    rw [hef.note]
    exact .bind_eq (note_agrees _) fun _ => .bind_eq (publish_agrees hef) fun _ => ih

/-- The monitor finds the same collisions, whatever the tick. -/
theorem check_agrees (m : CollisionMonitor) (actors : List Actor) {x y : Int}
    (hx : b = true → x.natAbs < writingLimit) (hy : c = true → y.natAbs < writingLimit) :
    Agree (Twin b c n) (Act.report (m.check actors (.ok x))) (Act.report (m.check actors (.ok y)))
      fun p q => p.1 = q.1 ∧ List.Forall₂ (SameCollision b c) p.2 q.2 := by
  rw [CollisionMonitor.check_eq, CollisionMonitor.check_eq]
  refine report_agrees rfl ?_
  cases (CollisionMonitor.boxed actors).2 with
  | error fault => rfl
  | ok boxes =>
    refine ⟨rfl, ?_⟩
    rw [List.forall₂_map_left_iff, List.forall₂_map_right_iff]
    exact List.forall₂_same.mpr fun p _ => ⟨rfl, rfl, hx, hy⟩

/-- The numbers of ticks may differ, but not in that they can be written where they are recorded. -/
theorem ticks_agree : Agree (Twin b c n) (Act.read (·.ticks)) (Act.read (·.ticks)) fun x y : Nat =>
    (b = true → x < writingLimit) ∧ (c = true → y < writingLimit) := by
  refine .read fun s t h => ⟨fun hb => ?_, fun hc => ?_⟩
  · have := h.room hb
    omega
  · have := h.room' hc
    omega

theorem watch_agrees :
    Agree (Twin b c n) watch watch (List.Forall₂ (SameCollision b c)) := by
  unfold watch
  refine .bind_eq (.read fun s t h => h.monitor) fun monitor => ?_
  cases monitor with
  | none => exact .pure .nil
  | some m =>
    refine .bind_eq (.read fun s t h => by rw [h.stage]) fun running => ?_
    split
    · refine .bind_eq (.read fun s t h => by rw [h.stage]) fun actors => ?_
      refine .bind ticks_agree fun x y hxy => .bind (check_agrees m actors ?_ ?_) fun p q hpq => ?_
      · simpa using hxy.1
      · simpa using hxy.2
      · refine .bind_eq (.change fun s t h => ?_) fun _ => .bind_eq (announce_agrees hpq.2) fun _ =>
          .pure hpq.2
        exact { h with monitor := congrArg some hpq.1 }
    · exact .pure .nil

theorem concludeRound_agrees {r : Round} (hr : b = true ∨ c = true → r.deltas.length < writingLimit) :
    Agree (Twin b c n) (concludeRound r) (concludeRound r) Eq := by
  unfold concludeRound
  refine .bind_eq (applyDeltas_agrees _) fun _ => .bind watch_agrees fun es fs _ =>
    .bind ticks_agree fun x y hxy => ?_
  refine .bind_eq (emit_agrees (fun hb => roundRecord_line_ok (hxy.1 hb) (hr (.inl hb)) es)
    fun hc => roundRecord_line_ok (hxy.2 hc) (hr (.inr hc)) fs) fun _ => ?_
  split
  · exact .bind_eq (dispatch_agrees _) fun _ => .pure rfl
  · refine .bind_eq (.read fun s t h => by rw [h.stage]) fun running => ?_
    split
    · exact requestFrame_agrees
    · exact .pure rfl

/-- A round of two sessions that are alike comes to the same. It uses up one tick of the room. -/
theorem tick_agrees {s t : Session} (h : Twin b c (n + 1) s t)
    (hactors : b = true ∨ c = true → s.stage.actors.length < writingLimit) :
    Matches (Twin b c n) Eq (tick s) (tick t) := by
  have hroom : Twin b c n { s with awaited := none, ticks := s.ticks + 1 }
      { t with awaited := none, ticks := t.ticks + 1 } :=
    { h with
      room := fun hb => by have := h.room hb; show s.ticks + 1 + n < _; omega
      room' := fun hc => by have := h.room' hc; show t.ticks + 1 + n < _; omega }
  rw [tick_eq, Act.change_bind, Act.change_bind, Act.read_bind, Act.read_bind]
  cases hrun : s.stage.running with
  | false =>
    have hrun' : t.stage.running = false := by rw [← h.stage, hrun]
    simp only [hrun', Bool.false_eq_true, if_false]
    exact ⟨{ h.less with }, rfl⟩
  | true =>
    have hrun' : t.stage.running = true := by rw [← h.stage, hrun]
    simp only [hrun', if_true]
    rw [Act.change_bind, Act.change_bind]
    have hplay : Matches (Twin b c n)
        (fun r r' : Round => r = r' ∧ (b = true ∨ c = true → r.deltas.length < writingLimit))
        (Act.report (Round.play s.interpreter s.stage.actors s.executions)
          { s with awaited := none, ticks := s.ticks + 1 })
        (Act.report (Round.play t.interpreter t.stage.actors t.executions)
          { t with awaited := none, ticks := t.ticks + 1 }) := by
      -- the twins differ in nothing that a round is played from
      have hsame : Round.play t.interpreter t.stage.actors t.executions =
          Round.play s.interpreter s.stage.actors s.executions := by
        rw [h.interpreter, h.stage, h.executions]
      rw [hsame]
      refine report_agrees rfl ?_ hroom
      cases hr : (Round.play s.interpreter s.stage.actors s.executions).2 with
      | error fault => rfl
      | ok r =>
        refine ⟨rfl, fun hon => ?_⟩
        have hle : r.deltas.length ≤ 0 + s.stage.actors.length := Round.length_deltas_le (Prod.ext rfl hr)
        have := hactors hon
        omega
    refine Matches.bind hplay fun r r' hrr => ?_
    obtain ⟨rfl, hdeltas⟩ := hrr
    exact .bind_eq (.change fun s t h => { h with executions := rfl }) fun _ => concludeRound_agrees hdeltas

/-! ## Frames in step -/

/-- The actors of a round stay as many as they are. -/
theorem tick_length (m : Nat) : Keeps (fun s => s.stage.actors.length = m) tick := by
  have hblind : Blind fun s => s.stage.actors.length = m := by
    intro s t ht hs
    obtain ⟨j, r, f, handled, ticks, history, -, -, rfl⟩ := ht
    exact hs
  have hdispatch : ∀ i : Intent, (∀ (rules : StageRules) (before after : Stage),
      (before.reduce rules i).1 = some after → after.actors.length = before.actors.length) →
      Keeps (fun s => s.stage.actors.length = m) (dispatch i) := by
    refine fun i hi => hblind.dispatch fun s t hf hs => ?_
    cases hf with
    | nothing => exact hs
    | alone _ hafter => exact (hi _ _ _ hafter).trans hs
    | edited _ hafter _ => exact (hi _ _ _ hafter).trans hs
    | started _ _ => exact hs
    | stopped _ _ => exact hs
  have hsteady : Steady fun s => s.stage.actors.length = m := by
    refine ⟨hblind, fun id p => hdispatch _ fun rules before after h => ?_,
      fun x y => hdispatch _ fun rules before after h => ?_, fun _ _ _ _ _ hs => hs⟩
    · exact Stage.updateActor_length h
    · exact Stage.handleCollision_length h
  refine hsteady.tick (fun _ hs _ => hs) (fun _ _ _ hs _ => hs) (fun _ _ _ _ hs _ _ => hs) (fun _ hs => hs)
    (hdispatch _ fun rules before after h => ?_) (fun _ hs _ => hs) fun _ hs _ => hs
  rw [Stage.reduce_actors rfl h]

/-- Two sessions that are alike, with the next frame waiting in both or in none. -/
structure Abreast (b c : Bool) (n : Nat) (failed : Bool) (s t : Session) : Prop where
  twin : Twin b c n s t
  left : Tracked s failed
  right : Tracked t failed
  few : b = true ∨ c = true → s.stage.actors.length < writingLimit

variable {s t : Session} {failed : Bool}

theorem frame_agrees (caller : String) (h : Abreast b c (n + 1) failed s t) :
    Matches (Twin b c n) Eq (frame caller s) (frame caller t) ∧
      (frame caller s).1.stage.actors.length = s.stage.actors.length := by
  have hsame : t.awaited.isSome = s.awaited.isSome := by
    rw [h.left.isSome_awaited, h.right.isSome_awaited, h.twin.following, h.twin.stage]
  cases hsome : s.awaited.isSome with
  | false =>
    rw [hsome] at hsame
    rw [frame_of_idle (.of_scheduled h.left.scheduled (by simpa using hsome)),
      frame_of_idle (.of_scheduled h.right.scheduled (by simpa using hsame))]
    exact ⟨⟨h.twin.less, rfl⟩, rfl⟩
  | true =>
    obtain ⟨host, k, hhost, hpending⟩ := HostWaits.of_scheduled h.left.scheduled hsome
    obtain ⟨host', k', hhost', hpending'⟩ := HostWaits.of_scheduled h.right.scheduled (hsame.trans hsome)
    rw [frame_eq caller hhost hpending, frame_eq caller hhost' hpending']
    constructor
    · refine Matches.bind (tick_agrees { h.twin with } h.few) fun _ _ _ => ?_
      exact .bind_eq (.change fun s t h => { h with }) fun _ => .pure rfl
    · have hkeeps : Keeps (fun u : Session => u.stage.actors.length = s.stage.actors.length)
          (tick >>= fun _ => Act.change frameDone >>= fun _ => Pure.pure true) :=
        .bind (tick_length _) fun _ => .bind (.change fun _ hs => hs) fun _ => .pure true
      exact hkeeps.fst (s := { s with host := .manual { host with pending := [] } }) rfl

/-- A frame on both sides fails on both or on none, and leaves the sessions abreast. -/
theorem Abreast.step (h : Abreast b c (n + 1) failed s t) :
    (s.perform .step).2 = (t.perform .step).2 ∧
      ∃ failed', Abreast b c n failed' (s.perform .step).1 (t.perform .step).1 := by
  obtain ⟨hmatches, hlength⟩ := frame_agrees "tick" h
  obtain ⟨htwin, hfault⟩ := hmatches.attempt
  have hleft := h.left.perform .step
  have hright := h.right.perform .step
  have hfew : (s.perform .step).1.stage.actors.length = s.stage.actors.length := by
    rw [← hlength]
    show (Act.attempt (frame "tick") s).1.stage.actors.length = _
    unfold Act.attempt
    split <;> rename_i hr <;> rw [hr]
  -- whether a frame has failed is told by the stage and the fault, which are the same on both sides
  refine ⟨hfault, _, htwin, hleft, ?_, fun hon => hfew ▸ h.few hon⟩
  have hstage : (s.perform .step).1.stage = (t.perform .step).1.stage := htwin.stage
  rw [hstage, show (s.perform .step).2 = (t.perform .step).2 from hfault]
  exact hright

/-- The stages that operations lead through, each with the fault if the operation failed. -/
def trace (s : Session) : List SessionOp → List (Stage × Option Fault)
  | [] => []
  | op :: ops => ((s.perform op).1.stage, (s.perform op).2) :: (s.perform op).1.trace ops

theorem Abreast.trace_steps {k : Nat} (h : Abreast b c k failed s t) :
    s.trace (.replicate k .step) = t.trace (.replicate k .step) := by
  induction k generalizing failed s t with
  | zero => rfl
  | succ k ih =>
    obtain ⟨hfault, failed', hnext⟩ := h.step
    rw [List.replicate_succ, trace, trace, hfault, hnext.twin.stage, ih hnext]

/-! ## What lasts from run to run -/

/-- What a session was made with. Only a run shows the monitor something; at rest it has
forgotten all overlaps. -/
structure Wired (o : SessionOptions) (s : Session) : Prop where
  rules : s.rules = o.rules
  settings : s.journal.settings = o.journal.settings
  handlers : s.bus.handlers = (prepared o).bus.handlers
  interpreter : s.interpreter = (prepared o).interpreter
  following : s.following = true
  recording : s.recording = o.recording.isSome
  watching : s.monitor.map (·.reset) = (prepared o).monitor
  rested : s.stage.running = false → s.monitor = (prepared o).monitor

theorem lasting_wired (o : SessionOptions) : Lasting (Wired o) where
  blind s t ht hs := by
    obtain ⟨j, r, f, handled, ticks, history, hj, -, rfl⟩ := ht
    exact { hs with settings := hj.trans hs.settings }
  hosted s _ _ hs := { hs with }
  intent s t i hf hs := by
    cases hf with
    | nothing => exact hs
    | alone hclosed _ => exact absurd (hs.following.symm.trans hclosed) (by decide)
    | edited _ _ hrun => exact { hs with rested := fun hrest => hs.rested (hrun.symm.trans hrest) }
    | started _ _ => exact { hs with rested := fun hrest => by cases hrest }
    | stopped _ _ =>
      refine { hs with watching := ?_, rested := fun _ => hs.watching }
      rw [← hs.watching, Option.map_map]
      rfl
  look s m m' hm hrun hs := by
    refine { hs with watching := ?_, rested := fun hrest => ?_ }
    · rw [← hs.watching, hm]
      rfl
    · exact absurd (hrun.symm.trans hrest) (by decide)
  played s _ hs _ _ := { hs with }

theorem create_wired (o : SessionOptions) : Wired o (create o) ∧ (create o).stage = o.initial := by
  obtain ⟨j, hj, heq⟩ := create_begins o
  have hwatching : (prepared o).monitor.map (·.reset) = (prepared o).monitor := by
    unfold prepared
    cases o.collisions <;> rfl
  rw [heq]
  split
  · exact ⟨⟨rfl, hj, rfl, rfl, rfl, rfl, hwatching, fun _ => rfl⟩, rfl⟩
  · exact ⟨⟨rfl, hj, rfl, rfl, rfl, rfl, hwatching, fun _ => rfl⟩, rfl⟩

/-- An intent that changes the stage, with notes that can be printed, comes to what the
scheduler makes of it. -/
theorem dispatch_of_texts {i : Intent} {notes : List Note} {after : Stage}
    (hstage : s.stage.dispatch s.rules i = (notes, some after)) (htexts : ∀ n ∈ notes, ∃ t, n.text = .ok t)
    (hfollow : s.following = true) :
    ∃ j : Journal, j.settings = s.journal.settings ∧
      dispatch i s = (follow i s.stage after >>= fun _ => pure (some after) : Act (Option Stage))
        { s with journal := j, stage := after } := by
  obtain ⟨j, hj, hreport⟩ := Act.texts_journal htexts (some after) s
  refine ⟨j, hj, ?_⟩
  unfold dispatch
  rw [Act.read_bind, Act.read_bind, hstage]
  simp only
  rw [Act.bind_of_ok hreport]
  simp only
  rw [Act.change_bind, Act.read_bind]
  simp only [if_pos hfollow]

/-- A start at rest does not fail. All actors go to the start of their scripts. -/
theorem perform_start (hrest : s.stage.running = false) (hfollow : s.following = true) :
    ∃ j : Journal, j.settings = s.journal.settings ∧
      s.perform .start =
        ({ s with
            stage := { s.stage with running := true }, executions := .rewind s.stage.actors
            journal := j }.asking, none) := by
  obtain ⟨notes, hstage, htexts⟩ := Stage.dispatch_startRun hrest s.rules
  obtain ⟨j, hj, hdispatch⟩ := dispatch_of_texts hstage htexts hfollow
  obtain ⟨j', hj', hbegin⟩ :=
    beginRun_journal { s with journal := j, stage := { s.stage with running := true } }
  rw [Act.bind_of_ok ((follow_start hrest rfl _).trans hbegin)] at hdispatch
  refine ⟨j', hj'.trans hj, ?_⟩
  show Act.attempt start s = _
  unfold Act.attempt start
  rw [Act.bind_of_ok hdispatch]
  rfl

/-- Two sessions over one stage at rest, made alike, are abreast after a start. -/
theorem start_abreast {o o' : SessionOptions} (hs : Wired o s) (ht : Wired o' t)
    (hrules : o'.rules = o.rules) (hcollisions : o'.collisions = o.collisions)
    (hsettings : o'.journal.settings = o.journal.settings) (hstage : t.stage = s.stage)
    (hrest : s.stage.running = false) (htracked : Tracked s false) (htracked' : Tracked t false) {k : Nat}
    (hroom : o.recording.isSome = true → s.ticks + k < writingLimit)
    (hroom' : o'.recording.isSome = true → t.ticks + k < writingLimit)
    (hfew : o.recording.isSome = true ∨ o'.recording.isSome = true → s.stage.actors.length < writingLimit) :
    (s.perform .start).2 = (t.perform .start).2 ∧
      Abreast o.recording.isSome o'.recording.isSome k false (s.perform .start).1 (t.perform .start).1 := by
  have hleft : Tracked (s.perform .start).1 false := by
    simpa [SessionOp.runsFrames] using htracked.perform .start
  have hright : Tracked (t.perform .start).1 false := by
    simpa [SessionOp.runsFrames] using htracked'.perform .start
  have hrest' : t.stage.running = false := by rw [hstage, hrest]
  obtain ⟨j, hj, heq⟩ := perform_start hrest hs.following
  obtain ⟨j', hj', heq'⟩ := perform_start hrest' ht.following
  -- the start makes the states of the actors anew; what is left of the last run could
  -- only be in the monitor
  have hmonitor : s.monitor = t.monitor := by
    rw [hs.rested hrest, ht.rested hrest']
    simp only [prepared, hcollisions]
  have hhandlers : s.bus.handlers = t.bus.handlers := by
    rw [hs.handlers, ht.handlers]
    simp only [prepared, hcollisions]
  have hinterpreter : s.interpreter = t.interpreter := by
    rw [hs.interpreter, ht.interpreter]
    simp only [prepared, hrules]
  have hjournals : j.settings = j'.settings := by
    rw [hj, hs.settings, hj', ht.settings, hsettings]
  rw [heq] at hleft ⊢
  rw [heq'] at hright ⊢
  refine ⟨rfl, ?_, hleft, hright, hfew⟩
  exact {
    rules := by show s.rules = t.rules; rw [hs.rules, ht.rules, hrules]
    stage := by show { s.stage with running := true } = { t.stage with running := true }; rw [hstage]
    settings := hjournals
    handlers := hhandlers
    monitor := hmonitor
    interpreter := hinterpreter
    executions := by show Executions.rewind s.stage.actors = .rewind t.stage.actors; rw [hstage]
    following := hs.following.trans ht.following.symm
    recording := ⟨hs.recording, ht.recording⟩
    room := hroom
    room' := hroom' }

/-- No run leaves anything behind for the next. After any history, failed operations and runs
stopped in their middle included, an open session at rest goes through the same stages and faults
when a run is started and so many frames are run as a new session that is made alike over the
stage as it is. Where a session is recorded, the numbers of its ticks and actors must not be too
long to be written. -/
theorem restarts_afresh (o : SessionOptions) {h : FrameHost FrameRequest} (hhost : o.host = .manual h)
    (hpending : h.pending = []) {ops : List SessionOp} (hopen : .close ∉ ops)
    (hrest : ((create o).after ops).stage.running = false) (o' : SessionOptions)
    {h' : FrameHost FrameRequest} (hhost' : o'.host = .manual h') (hpending' : h'.pending = [])
    (hrules : o'.rules = o.rules) (hcollisions : o'.collisions = o.collisions)
    (hsettings : o'.journal.settings = o.journal.settings)
    (hinitial : o'.initial = ((create o).after ops).stage) (k : Nat)
    (hwritten : o.recording.isSome = true ∨ o'.recording.isSome = true →
      ((create o).after ops).ticks + k < writingLimit ∧
        ((create o).after ops).stage.actors.length < writingLimit) :
    ((create o).after ops).trace (.start :: .replicate k .step) =
      (create o').trace (.start :: .replicate k .step) := by
  have hwired := (lasting_wired o).after hopen (create_wired o).1
  obtain ⟨hwired', hstage⟩ := create_wired o'
  have htracked : Tracked ((create o).after ops) false := by
    -- a frame that failed counts for its own run, and none is on
    have hafter := (Tracked.of_attended (create_attended hhost hpending)).after ops
    cases hfailed : (create o).failedIn false ops with
    | false => exact hfailed ▸ hafter
    | true => exact absurd (hrest.symm.trans (hafter.running hfailed)) (by decide)
  have htracked' := Tracked.of_attended (create_attended hhost' hpending')
  have hticks : (create o').ticks = 0 := by
    obtain ⟨j, -, heq⟩ := create_begins o'
    rw [heq]
    split <;> rfl
  obtain ⟨hfault, habreast⟩ :=
    start_abreast hwired hwired' hrules hcollisions hsettings (hstage.trans hinitial) hrest
    htracked htracked' (fun hon => (hwritten (.inl hon)).1)
    (fun hon => by have := (hwritten (.inr hon)).1; omega) fun hon => (hwritten hon).2
  rw [trace, trace, hfault, habreast.twin.stage, habreast.trace_steps]

/-- A run that is stopped in the middle of its loops. -/
def haltedRun : List SessionOp := [.start, .step, .step, .halt]

/-- What a new session over the stage that is left is made with. -/
def afterHaltedRun : SessionOptions :=
  { collidingActors with initial := ((create collidingActors).after haltedRun).stage }

/-- Two actors collided in the run that was stopped, which has turned a move. They collide again in
the next run, as they do in a new session over the stage that is left. -/
theorem restarts_afresh_haltedRun :
    ((create collidingActors).after haltedRun).handled = 1 ∧
      ((create collidingActors).after (haltedRun ++ [.start, .step])).handled = 2 ∧
      ((create collidingActors).after haltedRun).trace (.start :: .replicate 3 .step) =
        (create afterHaltedRun).trace (.start :: .replicate 3 .step) := by
  have hunrecorded : collidingActors.recording.isSome = true ∨
      afterHaltedRun.recording.isSome = true → False := by
    rintro (hon | hon) <;> cases hon
  refine ⟨by decide +kernel, by decide +kernel, ?_⟩
  exact restarts_afresh collidingActors rfl rfl (by simp [haltedRun])
    (by decide +kernel) afterHaltedRun rfl rfl rfl rfl
    rfl (by rw [afterHaltedRun]) 3 fun hon => (hunrecorded hon).elim

end Session

end ScriptedStage
