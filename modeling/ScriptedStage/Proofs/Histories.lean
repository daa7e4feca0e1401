import ScriptedStage.Proofs.IntentEffects
import ScriptedStage.Proofs.RunLength

/-!
Histories of a session. A session is used by operations, one after another: actors come and go,
scripts are edited, runs are started and stopped, frames run, raw requests come in, and at the end
it is closed. Any of them may fail; the session then stays as the failure found it, and the next
operation goes on from there.

To follow something through all histories it is said once what each part of an operation can
do, failures included.

What is proved:
  1. `dispatch_follows`: the five things that applying an intent can come to;
  2. `Steady.tick`: what bears a patch, a collision and a look of the monitor bears a
     round up to its end;
  3. `after_keeps`: what the parts keep holds after every history.
-/
namespace ScriptedStage

/-! ## Operations -/

/-- What a user asks of a session. -/
inductive SessionOp where
  | addActor (kind x y : Value)
  | removeActor (actor : Value)
  | selectActor (actor : Value)
  | addBlock (actor block : Value)
  | addBlockTo (actor container block : Value)
  | newBlock (actor : Value) (container : Option Value) (type : String) (values : Option Value)
  | removeBlock (actor block : Value)
  | start
  | halt
  /-- Runs the frame that waits. -/
  | step
  /-- Runs frames, at most so many. -/
  | run (most : Int)
  | raw (action payload : Value)
  | close
  deriving Inhabited

/-- The operations that run frames. -/
def SessionOp.runsFrames : SessionOp → Bool
  | .step | .run _ => true
  | _ => false

/-- The session after an action, and the fault if the action failed. -/
def Act.attempt {α : Type} (m : Act α) (s : Session) : Session × Option Fault :=
  match m s with
  | (s', .ok _) => (s', none)
  | (s', .error e) => (s', some e)

namespace Session

/-- Carries out an operation. -/
def perform (s : Session) : SessionOp → Session × Option Fault
  | .addActor kind x y => (Session.addActor kind x y).attempt s
  | .removeActor actor => (Session.removeActor actor).attempt s
  | .selectActor actor => (Session.selectActor actor).attempt s
  | .addBlock actor block => (Session.addBlock actor block).attempt s
  | .addBlockTo actor container block => (Session.addBlockTo actor container block).attempt s
  | .newBlock actor container type values => (Session.newBlock actor container type values).attempt s
  | .removeBlock actor block => (Session.removeBlock actor block).attempt s
  | .start => Session.start.attempt s
  | .halt => Session.halt.attempt s
  | .step => Session.step.attempt s
  | .run most => (Session.run most).attempt s
  | .raw action payload => (Session.raw action payload).attempt s
  | .close => Session.close.attempt s

/-- The session after operations, one after another. -/
def after (s : Session) (ops : List SessionOp) : Session := ops.foldl (fun s op => (s.perform op).1) s

end Session

/-! ## What an action leads to -/

namespace Act

variable {α β : Type} {pre inv : Session → Prop} {post : α → Session → Prop} {stopped : Session → Prop}

/-- From a session with `pre` an action leads to one with `post`, or fails and leaves
one with `stopped`. -/
def Leads (pre : Session → Prop) (m : Act α) (post : α → Session → Prop)
    (stopped : Session → Prop) : Prop :=
  ∀ ⦃s⦄, pre s → (∀ s' a, m s = (s', .ok a) → post a s') ∧ ∀ s' e, m s = (s', .error e) → stopped s'

/-- An action that keeps `inv`, whether it fails or not. -/
abbrev Keeps (inv : Session → Prop) (m : Act α) : Prop := Leads inv m (fun _ => inv) inv

namespace Leads

theorem bind {m : Act α} {f : α → Act β} {last : β → Session → Prop} (hm : Leads pre m post stopped)
    (hf : ∀ a, Leads (post a) (f a) last stopped) : Leads pre (m >>= f) last stopped := by
  intro s hs
  obtain ⟨hok, herror⟩ := hm hs
  simp only [Bind.bind]
  rcases hr : m s with ⟨s₁, e | a⟩
  · refine ⟨fun s' b h => ?_, fun s' e' h => ?_⟩
    · cases h
    · cases h
      exact herror _ _ hr
  · exact hf a (hok _ _ hr)

theorem pure (a : α) (h : ∀ s, pre s → post a s) : Leads pre (Pure.pure a : Act α) post stopped := by
  intro s hs
  refine ⟨fun s' b hb => ?_, fun s' e he => by cases he⟩
  cases hb
  exact h s hs

/-- What is read is known of the session that it was read off. -/
theorem read (f : Session → α) : Leads pre (Act.read f) (fun a s => pre s ∧ f s = a) stopped := by
  intro s hs
  refine ⟨fun s' b hb => ?_, fun s' e he => by cases he⟩
  cases hb
  exact ⟨hs, rfl⟩

theorem change {f : Session → Session} {post : Unit → Session → Prop} (h : ∀ s, pre s → post () (f s)) :
    Leads pre (Act.change f) post stopped := by
  intro s hs
  refine ⟨fun s' u hu => ?_, fun s' e he => by cases he⟩
  cases hu
  exact h s hs

/-- What is checked is known of the result. -/
theorem ofChecked (c : Checked α) : Leads pre (Act.ofChecked c) (fun a s => pre s ∧ c = .ok a) pre := by
  intro s hs
  cases c with
  | error issues =>
    refine ⟨fun s' a h => (by cases h), fun s' e h => ?_⟩
    cases h
    exact hs
  | ok a =>
    refine ⟨fun s' b h => ?_, fun s' e h => by cases h⟩
    cases h
    exact ⟨hs, rfl⟩

/-- A fact that is not about the session is known before the action. -/
theorem of_and {m : Act α} {p : Prop} (h : p → Leads pre m post stopped) :
    Leads (fun s => pre s ∧ p) m post stopped :=
  fun _ hs => h hs.2 hs.1

theorem weaken {m : Act α} {pre' : Session → Prop} {post' : α → Session → Prop} {stopped' : Session → Prop}
    (hm : Leads pre m post stopped) (hpre : ∀ s, pre' s → pre s) (hpost : ∀ a s, post a s → post' a s)
    (hstopped : ∀ s, stopped s → stopped' s) : Leads pre' m post' stopped' := by
  intro s hs
  obtain ⟨hok, herror⟩ := hm (hpre s hs)
  exact ⟨fun s' a h => hpost a s' (hok s' a h), fun s' e h => hstopped s' (herror s' e h)⟩

theorem attempt {m : Act α} (hm : Leads pre m (fun _ => stopped) stopped) {s : Session} (hs : pre s) :
    stopped (m.attempt s).1 := by
  obtain ⟨hok, herror⟩ := hm hs
  unfold Act.attempt
  split
  · rename_i hr
    exact hok _ _ hr
  · rename_i hr
    exact herror _ _ hr

end Leads

namespace Keeps

theorem fst {m : Act α} (h : Keeps inv m) {s : Session} (hs : inv s) : inv (m s).1 := by
  obtain ⟨hok, herror⟩ := h hs
  rcases hr : m s with ⟨s', e | a⟩
  · exact herror _ _ hr
  · exact hok _ _ hr

theorem of_fst {m : Act α} (h : ∀ s, inv s → inv (m s).1) : Keeps inv m := by
  intro s hs
  have := h s hs
  exact ⟨fun s' a hr => by rw [hr] at this; exact this, fun s' e hr => by rw [hr] at this; exact this⟩

theorem bind {m : Act α} {f : α → Act β} (hm : Keeps inv m) (hf : ∀ a, Keeps inv (f a)) :
    Keeps inv (m >>= f) := Leads.bind hm hf

theorem pure (a : α) : Keeps inv (Pure.pure a : Act α) := Leads.pure a fun _ hs => hs

theorem read (f : Session → α) : Keeps inv (Act.read f) :=
  of_fst fun _ hs => hs

theorem change {f : Session → Session} (h : ∀ s, inv s → inv (f s)) : Keeps inv (Act.change f) :=
  Leads.change h

theorem stop (e : Fault) : Keeps inv (Act.stop e : Act α) := of_fst fun _ hs => hs

theorem ofExcept (r : Except Fault α) : Keeps inv (Act.ofExcept r) := by
  cases r with
  | error e => exact stop e
  | ok a => exact pure a

theorem ofChecked (c : Checked α) : Keeps inv (Act.ofChecked c) := ofExcept _

end Keeps

end Act

/-! ## What an intent comes to -/

/-- Only the intents that start and stop a run touch whether the stage runs. -/
theorem Stage.reduce_running {rules : StageRules} {s after : Stage} {i : Intent}
    (h : (s.reduce rules i).1 = some after) :
    (i = .startRun ∧ s.running = false ∧ after = { s with running := true }) ∨
      (i = .stopRun ∧ s.running = true ∧ after = { s with running := false }) ∨
      after.running = s.running := by
  cases reduce_change h with
  | started hidle => exact .inl ⟨rfl, hidle, rfl⟩
  | stopped hrun => exact .inr (.inl ⟨rfl, hrun, rfl⟩)
  | _ => exact .inr (.inr rfl)

/-- An intent that is not said to touch the actors does not. -/
theorem Stage.reduce_actors {rules : StageRules} {s after : Stage} {i : Intent}
    (htouch : Session.touchesActors i = false) (h : (s.reduce rules i).1 = some after) :
    after.actors = s.actors := by
  cases reduce_change h with
  | selected _ | started _ | stopped _ => rfl
  | edited hi _ => cases i <;> cases hi <;> cases htouch
  | joined _ | gone _ | patched _ | reversed _ => cases htouch

theorem Act.report_journal {α : Type} (reported : List Note × Except Fault α) (s : Session) :
    ∃ j : Journal, j.settings = s.journal.settings ∧ (Act.report reported s).1 = { s with journal := j } :=
  ⟨_, s.journal.settle_settings reported, rfl⟩

/-- Notes whose texts are known are printed under the same settings. -/
theorem Act.texts_journal {α : Type} {notes : List Note} (h : ∀ n ∈ notes, ∃ t, n.text = .ok t) (a : α)
    (s : Session) :
    ∃ j : Journal, j.settings = s.journal.settings ∧
      Act.report (notes, .ok a) s = ({ s with journal := j }, .ok a) := by
  obtain ⟨j, hj⟩ := Act.report_of_texts h a s
  obtain ⟨j', hsettings, hj'⟩ := Act.report_journal (notes, .ok a) s
  have hsame : ({ s with journal := j } : Session) = { s with journal := j' } :=
    (congrArg Prod.fst hj).symm.trans hj'
  exact ⟨j', hsettings, hj.trans (congrArg (·, _) hsame)⟩

theorem Act.say_journal (source text : String) (level : Level) (s : Session) :
    ∃ j : Journal, j.settings = s.journal.settings ∧
      Act.note (.say source level text) s = ({ s with journal := j }, .ok ()) :=
  texts_journal (by simp [Note.say]) () s

namespace Session

open Act

variable {s : Session}

/-- The session once the frame that the scheduler waits for is withdrawn. -/
def withdrawn (s : Session) : Session :=
  { s with
    host := match s.awaited with
      | none => s.host
      | some handle => s.host.cancel handle
    awaited := none }

/-- The session once the scheduler waits for the next frame. -/
def asking (s : Session) : Session :=
  { s.withdrawn with host := s.withdrawn.host.request.1, awaited := some s.withdrawn.host.request.2 }

theorem cancelFrame_eq (s : Session) : cancelFrame s = (s.withdrawn, .ok ()) := by
  obtain ⟨_, _, _, _, _, _, _, _, _, _, awaited, _, _, _, _⟩ := s
  cases awaited <;> rfl

theorem requestFrame_eq (s : Session) : requestFrame s = (s.asking, .ok ()) := by
  unfold requestFrame
  rw [Act.bind_of_ok (cancelFrame_eq s)]
  rfl

/-- What an intent comes to, apart from what is printed. -/
inductive Follows (s : Session) : Intent → Session → Prop
  /-- The intent changes nothing, or what it says cannot be printed. -/
  | nothing (i : Intent) : Follows s i s
  /-- The stage changes, and the scheduler does not follow any more. -/
  | alone {i : Intent} {after : Stage} (hclosed : s.following = false)
      (hafter : (s.stage.reduce s.rules i).1 = some after) : Follows s i { s with stage := after }
  /-- The stage changes, and the states are fitted to its roster. -/
  | edited {i : Intent} {after : Stage} (hfollow : s.following = true)
      (hafter : (s.stage.reduce s.rules i).1 = some after) (hrun : after.running = s.stage.running) :
      Follows s i
        { s with
          stage := after
          executions := if touchesActors i then s.executions.reconcile after.actors else s.executions }
  /-- A run starts. -/
  | started (hfollow : s.following = true) (hrun : s.stage.running = false) :
      Follows s .startRun
        { s with stage := { s.stage with running := true }, executions := .rewind s.stage.actors }.asking
  /-- The run stops. -/
  | stopped (hfollow : s.following = true) (hrun : s.stage.running = true) :
      Follows s .stopRun
        { s.withdrawn with
          stage := { s.stage with running := false }
          monitor := s.monitor.map (·.reset) }

theorem beginRun_journal (s : Session) :
    ∃ j : Journal, j.settings = s.journal.settings ∧
      beginRun s = ({ s with executions := .rewind s.stage.actors, journal := j }.asking, .ok ()) := by
  unfold beginRun
  rw [Act.change_bind, Act.read_bind]
  obtain ⟨j, hsettings, hj⟩ :=
    Act.say_journal "scheduler" _ .info { s with executions := .rewind s.stage.actors }
  rw [Act.bind_of_ok hj]
  exact ⟨j, hsettings, requestFrame_eq _⟩

theorem endRun_journal (s : Session) :
    ∃ j : Journal, j.settings = s.journal.settings ∧
      endRun s = ({ s.withdrawn with monitor := s.monitor.map (·.reset), journal := j }, .ok ()) := by
  unfold endRun
  rw [Act.bind_of_ok (cancelFrame_eq s), Act.change_bind, Act.read_bind]
  exact Act.say_journal "scheduler" _ .info { s.withdrawn with monitor := s.monitor.map (·.reset) }

/-- Applying an intent comes to one of five things. -/
theorem dispatch_follows (i : Intent) (s : Session) :
    ∃ (t : Session) (j : Journal), Follows s i t ∧ j.settings = s.journal.settings ∧
      (dispatch i s).1 = { t with journal := j } := by
  unfold dispatch
  rw [Act.read_bind, Act.read_bind]
  obtain ⟨j, hsettings, hj⟩ :=
    Act.report_journal ((s.stage.dispatch s.rules i).1, .ok (s.stage.dispatch s.rules i).2) s
  rcases hr : Act.report ((s.stage.dispatch s.rules i).1, .ok (s.stage.dispatch s.rules i).2) s
    with ⟨s₁, e | new⟩
  · refine ⟨s, j, .nothing i, hsettings, ?_⟩
    simp only [bind, hr]
    rw [← hj, hr]
  · obtain ⟨-, hnew⟩ := Act.report_ok hr
    have hreduce : (s.stage.reduce s.rules i).1 = new := Except.ok.inj hnew
    rw [hr] at hj
    subst hj
    simp only
    rw [Act.bind_of_ok hr]
    cases new with
    | none => exact ⟨s, j, .nothing i, hsettings, rfl⟩
    | some after =>
      simp only
      rw [Act.change_bind, Act.read_bind]
      by_cases hfollow : s.following = true
      · simp only [if_pos hfollow]
        rcases Stage.reduce_running hreduce with ⟨rfl, hrun, rfl⟩ | ⟨rfl, hrun, rfl⟩ | hrun
        · obtain ⟨j', hsettings', hbegin⟩ := beginRun_journal
            { s with journal := j, stage := { s.stage with running := true } }
          rw [Act.bind_of_ok ((follow_start hrun rfl _).trans hbegin)]
          exact ⟨_, j', .started hfollow hrun, hsettings'.trans hsettings, rfl⟩
        · obtain ⟨j', hsettings', hend⟩ := endRun_journal
            { s with journal := j, stage := { s.stage with running := false } }
          rw [Act.bind_of_ok ((follow_stop hrun rfl _).trans hend)]
          exact ⟨_, j', .stopped hfollow hrun, hsettings'.trans hsettings, rfl⟩
        · refine ⟨_, j, .edited hfollow hreduce hrun, hsettings, ?_⟩
          unfold follow
          rw [hrun]
          cases touchesActors i <;> cases s.stage.running <;> rfl
      · simp only [if_neg hfollow]
        exact ⟨_, j, .alone (Bool.not_eq_true _ ▸ hfollow) hreduce, hsettings, rfl⟩

/-- What an intent comes to has no say in what is printed. -/
theorem Follows.journal {i : Intent} {t : Session} (h : Follows s i t) : t.journal = s.journal := by
  cases h <;> rfl

/-! ## What a round keeps -/

variable {inv : Session → Prop} {α : Type}

/-- A session may print, record, make blocks and count, and go on as if it had not. -/
def Unmoved (s t : Session) : Prop :=
  ∃ (j : Journal) (r : Option Recorder) (f : BlockFactory) (handled ticks : Nat) (history : List Event),
    j.settings = s.journal.settings ∧ r.isSome = s.recorder.isSome ∧
    t = { s with
      journal := j, recorder := r, factory := f, handled := handled, ticks := ticks
      bus := { s.bus with history := history } }

theorem Unmoved.journal {j : Journal} (hj : j.settings = s.journal.settings) :
    Unmoved s { s with journal := j } :=
  ⟨j, s.recorder, s.factory, s.handled, s.ticks, s.bus.history, hj, rfl, rfl⟩

theorem Unmoved.refl (s : Session) : Unmoved s s := journal (j := s.journal) rfl

theorem Unmoved.trans {s₁ s₂ s₃ : Session} (h : Unmoved s₁ s₂) (h' : Unmoved s₂ s₃) : Unmoved s₁ s₃ := by
  obtain ⟨j, r, f, handled, ticks, history, hj, hr, rfl⟩ := h
  obtain ⟨j', r', f', handled', ticks', history', hj', hr', rfl⟩ := h'
  exact ⟨j', r', f', handled', ticks', history', hj'.trans hj, hr'.trans hr, rfl⟩

theorem Unmoved.same {t : Session} (h : Unmoved s t) :
    t.stage = s.stage ∧ t.executions = s.executions ∧ t.following = s.following := by
  obtain ⟨j, r, f, handled, ticks, history, -, -, rfl⟩ := h
  exact ⟨rfl, rfl, rfl⟩

/-- A property that what is printed, recorded, made and counted has no part in. -/
def Blind (inv : Session → Prop) : Prop := ∀ ⦃s t : Session⦄, Unmoved s t → inv s → inv t

theorem Unmoved.blind (s : Session) : Blind (Unmoved s) := fun _ _ h hs => hs.trans h

namespace Blind

theorem journal (h : Blind inv) {j : Journal} (hj : j.settings = s.journal.settings) (hs : inv s) :
    inv { s with journal := j } := h (.journal hj) hs

theorem report (h : Blind inv) (reported : List Note × Except Fault α) : Keeps inv (Act.report reported) :=
  .of_fst fun s hs => h.journal (s.journal.settle_settings reported) hs

theorem note (h : Blind inv) (n : Note) : Keeps inv (Act.note n) := h.report _

theorem emit (h : Blind inv) (source : String) (record : Record) :
    Keeps inv (Session.emit source record) := by
  refine .of_fst fun s hs => ?_
  unfold Session.emit
  split
  · rename_i r _ hr
    have hsome : (some (r.take source record).1).isSome = s.recorder.isSome := by rw [hr]; rfl
    exact h ⟨s.journal, _, s.factory, s.handled, s.ticks, s.bus.history, rfl, hsome, rfl⟩ hs
  · exact hs

/-- An intent keeps what each of the things that it can come to keeps. -/
theorem dispatch (h : Blind inv) {i : Intent} (hi : ∀ ⦃s t : Session⦄, Follows s i t → inv s → inv t) :
    Keeps inv (Session.dispatch i) := by
  refine .of_fst fun s hs => ?_
  obtain ⟨t, j, hfollows, hsettings, heq⟩ := dispatch_follows i s
  rw [heq]
  exact h.journal (hsettings.trans (congrArg _ hfollows.journal.symm)) (hi hfollows hs)

end Blind

/-- A round once the actors have had their turns. -/
def concludeRound (r : Round) : Act Unit := do
  applyDeltas r.deltas
  let collisions ← watch
  let ticks ← Act.read (·.ticks)
  emit "scheduler" (roundRecord ticks r collisions)
  if !r.completed.isEmpty then
    let _ ← dispatch .stopRun
  else if ← Act.read (·.stage.running) then requestFrame

theorem tick_eq : tick = (do
    .change fun s => { s with awaited := none }
    if ← Act.read (·.stage.running) then
      .change fun s => { s with ticks := s.ticks + 1 }
      let round ← fun s => Act.report (Round.play s.interpreter s.stage.actors s.executions) s
      .change fun s => { s with executions := round.states }
      concludeRound round) := rfl

/-- A property that bears whatever happens in a round between the turns of the actors
and the end. -/
structure Steady (inv : Session → Prop) : Prop where
  blind : Blind inv
  patch : ∀ id p, Keeps inv (dispatch (.updateActor id p))
  collide : ∀ a b, Keeps inv (dispatch (.handleCollision a b))
  look : ∀ ⦃s : Session⦄ (m m' : CollisionMonitor), s.monitor = some m → s.stage.running = true → inv s →
    inv { s with monitor := some m' }

namespace Steady

theorem applyDeltas (h : Steady inv) : ∀ deltas : List (String × Delta), Keeps inv (applyDeltas deltas)
  | [] => .pure ()
  | (_, _) :: rest => by
    unfold Session.applyDeltas
    exact .bind (.ofChecked _) fun patch => .bind (.ofChecked _) fun id =>
      .bind (h.patch id patch) fun _ => applyDeltas h rest

theorem react (h : Steady inv) (e : CollisionEvent) : Keeps inv (react e) := by
  unfold Session.react
  refine .bind (h.blind.note _) fun _ => ?_
  -- only an intent that names two actors is read, so its shape is known before it is applied
  refine Leads.bind (.ofChecked _) fun i => .of_and fun hi => ?_
  obtain ⟨first, second, -, -, rfl⟩ := Checked.both_ok hi
  refine Leads.bind (h.collide first second) fun _ => Leads.change fun s hs => ?_
  exact h.blind ⟨s.journal, s.recorder, s.factory, s.handled + 1, s.ticks, s.bus.history, rfl, rfl, rfl⟩ hs

theorem callReactions (h : Steady inv) (e : CollisionEvent) :
    ∀ reactions, Keeps inv (callReactions e reactions)
  | [] => .pure ()
  | .reverseMoves :: rest => by
    unfold Session.callReactions
    exact .bind (h.react e) fun _ => callReactions h e rest

theorem publish (h : Steady inv) (e : CollisionEvent) : Keeps inv (publish e) := by
  refine .of_fst fun s hs => ?_
  unfold Session.publish
  rw [Act.read_bind]
  simp only
  rw [Act.change_bind]
  have hbus : inv { s with bus := (s.bus.publish (.collision e)).1 } :=
    h.blind ⟨s.journal, s.recorder, s.factory, s.handled, s.ticks, _, rfl, rfl, rfl⟩ hs
  refine Keeps.fst ?_ hbus
  exact .bind (h.blind.emit _ _) fun _ => .bind (h.blind.report _) fun _ => h.callReactions e _

theorem announce (h : Steady inv) : ∀ events, Keeps inv (announce events)
  | [] => .pure ()
  | e :: rest => by
    unfold Session.announce
    exact .bind (h.blind.note _) fun _ => .bind (h.publish e) fun _ => announce h rest

theorem watch (h : Steady inv) : Keeps inv watch := by
  unfold Session.watch
  refine Leads.bind (.read _) fun monitor => ?_
  cases monitor with
  | none => exact Leads.pure [] fun s hs => hs.1
  | some m =>
    refine Leads.bind (.read _) fun running => ?_
    split
    · rename_i hrun
      subst hrun
      have hblind : Blind fun s => inv s ∧ s.monitor = some m ∧ s.stage.running = true := by
        intro s t ht hs
        refine ⟨h.blind ht hs.1, ?_⟩
        obtain ⟨j, r, f, handled, ticks, history, -, -, rfl⟩ := ht
        exact hs.2
      refine Leads.bind (.read _) fun actors => Leads.bind (.read _) fun ticks => ?_
      refine Leads.bind ((hblind.report _).weaken (fun s hs => ?_) (fun _ _ hs => hs) fun s hs => hs.1)
        fun found => ?_
      · exact ⟨hs.1.1.1.1, hs.1.1.1.2, hs.1.1.2⟩
      · have hchange : Leads (fun s => inv s ∧ s.monitor = some m ∧ s.stage.running = true)
            (Act.change fun s => { s with monitor := some found.1 }) (fun _ => inv) inv :=
          .change fun s hs => h.look m found.1 hs.2.1 hs.2.2 hs.1
        exact Leads.bind hchange fun _ => Leads.bind (h.announce _) fun _ => .pure _ fun s hs => hs
    · exact Leads.pure [] fun s hs => hs.1.1

variable {pre post stopped : Session → Prop}

theorem concludeRound (h : Steady inv) (hstopped : ∀ s, inv s → stopped s)
    (hover : Leads inv (dispatch .stopRun) (fun _ => post) stopped)
    (hask : ∀ s, inv s → s.stage.running = true → post s.asking)
    (hrest : ∀ s, inv s → s.stage.running = false → post s) (r : Round) :
    Leads inv (concludeRound r) (fun _ => post) stopped := by
  have hkeep : ∀ {β : Type} {m : Act β}, Keeps inv m → Leads inv m (fun _ => inv) stopped :=
    fun hm => hm.weaken (fun _ hs => hs) (fun _ _ hs => hs) hstopped
  unfold Session.concludeRound
  refine Leads.bind (hkeep (h.applyDeltas _)) fun _ => Leads.bind (hkeep h.watch) fun events =>
    Leads.bind (hkeep (.read _)) fun n => Leads.bind (hkeep (h.blind.emit _ _)) fun _ => ?_
  split
  · exact Leads.bind hover fun _ => .pure () fun _ hs => hs
  · refine Leads.bind (.read _) fun running => ?_
    split
    · rename_i hrun
      intro s hs
      rw [requestFrame_eq]
      refine ⟨fun s' u hr => ?_, fun s' e hr => by cases hr⟩
      cases hr
      exact hask s hs.1 (hs.2.trans hrun)
    · rename_i hrun
      exact .pure () fun s hs => hrest s hs.1 (hs.2.trans (Bool.not_eq_true _ ▸ hrun))

/-- A round leads from the turns of the actors, after which `inv` holds, to the end of the run or
the request of the next frame. What fails on the way fails where `inv` holds. -/
theorem tick (h : Steady inv)
    (hidle : ∀ s, pre s → s.stage.running = false → post { s with awaited := none })
    (hspoilt : ∀ (s : Session) (j : Journal), j.settings = s.journal.settings → pre s →
     s.stage.running = true →
      stopped { s with awaited := none, ticks := s.ticks + 1, journal := j })
    (hplayed : ∀ (s : Session) (r : Round) (j : Journal), j.settings = s.journal.settings → pre s →
      s.stage.running = true → (Round.play s.interpreter s.stage.actors s.executions).2 = .ok r →
      inv (s.afterRound r j))
    (hstopped : ∀ s, inv s → stopped s)
    (hover : Leads inv (dispatch .stopRun) (fun _ => post) stopped)
    (hask : ∀ s, inv s → s.stage.running = true → post s.asking)
    (hrest : ∀ s, inv s → s.stage.running = false → post s) : Leads pre tick (fun _ => post) stopped := by
  have hclear : Leads pre (Act.change fun s => { s with awaited := none })
      (fun _ t => ∃ s, pre s ∧ t = { s with awaited := none }) stopped := .change fun s hs => ⟨s, hs, rfl⟩
  rw [tick_eq]
  refine Leads.bind hclear fun _ => Leads.bind (.read _) fun running => ?_
  split
  · rename_i hrun
    have hcount : Leads
        (fun t : Session => (∃ s, pre s ∧ t = { s with awaited := none }) ∧ t.stage.running = running)
        (Act.change fun s => { s with ticks := s.ticks + 1 })
        (fun _ t => ∃ s, pre s ∧ s.stage.running = true ∧
         t = { s with awaited := none, ticks := s.ticks + 1 })
        stopped := by
      refine .change fun t ht => ?_
      obtain ⟨⟨s, hs, rfl⟩, hrunning⟩ := ht
      exact ⟨s, hs, hrunning.trans hrun, rfl⟩
    have hplay : Leads
        (fun t : Session =>
          ∃ s, pre s ∧ s.stage.running = true ∧ t = { s with awaited := none, ticks := s.ticks + 1 })
        (fun s => Act.report (Round.play s.interpreter s.stage.actors s.executions) s)
        (fun r t => inv { t with executions := r.states }) stopped := by
      intro t ht
      obtain ⟨s, hs, hrunning, rfl⟩ := ht
      have hsettings := s.journal.settle_settings (Round.play s.interpreter s.stage.actors s.executions)
      refine ⟨fun t' r hr => ?_, fun t' e hr => ?_⟩
      · have hround := (Act.report_ok hr).2
        obtain rfl := congrArg Prod.fst hr
        exact hplayed s r _ hsettings hs hrunning hround
      · obtain rfl := congrArg Prod.fst hr
        exact hspoilt s _ hsettings hs hrunning
    exact Leads.bind hcount fun _ => Leads.bind hplay fun r => Leads.bind (.change fun s hs => hs) fun _ =>
      h.concludeRound hstopped hover hask hrest r
  · rename_i hrun
    refine .pure () fun t ht => ?_
    obtain ⟨⟨s, hs, rfl⟩, hrunning⟩ := ht
    exact hidle s hs (hrunning.trans (Bool.not_eq_true _ ▸ hrun))

end Steady

/-! ## What a history keeps -/

/-- The session once it is closed. -/
def closed (s : Session) : Session :=
  { s.withdrawn with
    following := false
    bus := s.bus.unsubscribe .collision .reverseMoves
    recording := false
    recorder := s.recorder.map (·.close) }

theorem close_eq (s : Session) : close s = (s.closed, .ok ()) := by
  unfold close
  rw [Act.bind_of_ok (cancelFrame_eq s)]
  rfl

theorem perform_close (s : Session) : s.perform .close = (s.closed, none) := by
  show close.attempt s = _
  unfold Act.attempt
  rw [close_eq]

theorem frames_keeps {caller : String} (h : Keeps inv (frame caller)) (n : Nat) :
    Keeps inv (frames caller n) := by
  induction n with
  | zero => exact .pure 0
  | succ n ih =>
    unfold frames
    refine .bind h fun ran => ?_
    split
    · exact .bind ih fun _ => .pure _
    · exact .pure 0

/-- An edit of the session: one intent, with what is printed and made before and after it. -/
def Edit (s t : Session) : Prop := ∃ s₁ i t₁, Unmoved s s₁ ∧ Follows s₁ i t₁ ∧ Unmoved t₁ t

theorem Unmoved.edit {t : Session} (h : Unmoved s t) : Edit s t := ⟨t, .startRun, t, h, .nothing _, .refl t⟩

/-- An edit keeps what intents keep. -/
theorem Edit.keeps {t : Session} (h : Edit s t) (hblind : Blind inv)
    (hintent : ∀ ⦃s t : Session⦄ ⦃i : Intent⦄, Follows s i t → inv s → inv t) (hs : inv s) : inv t := by
  obtain ⟨s₁, i, t₁, hbefore, hfollows, hafter⟩ := h
  exact hblind hafter (hintent hfollows (hblind hbefore hs))

/-- What may be printed and made before an intent is applied. -/
def Amended (s t : Session) : Prop :=
  ∃ (j : Journal) (f : BlockFactory), j.settings = s.journal.settings ∧
    t = { s with journal := j, factory := f }

theorem Amended.unmoved {t : Session} (h : Amended s t) : Unmoved s t := by
  obtain ⟨j, f, hj, rfl⟩ := h
  exact ⟨j, s.recorder, f, s.handled, s.ticks, s.bus.history, hj, rfl, rfl⟩

/-- An edit that neither records nor counts: one intent, what is printed and made before it, and
what is printed after it. -/
def Revised (s t : Session) : Prop :=
  ∃ s₁ i t₁ j, Amended s s₁ ∧ Follows s₁ i t₁ ∧ j.settings = t₁.journal.settings ∧
    t = { t₁ with journal := j }

theorem Amended.revised {t : Session} (h : Amended s t) : Revised s t :=
  ⟨t, .startRun, t, t.journal, h, .nothing _, rfl, rfl⟩

theorem Revised.edit {t : Session} (h : Revised s t) : Edit s t := by
  obtain ⟨s₁, i, t₁, j, hbefore, hfollows, hj, rfl⟩ := h
  exact ⟨s₁, i, t₁, hbefore.unmoved, hfollows, .journal hj⟩

theorem dispatch_revises (s : Session) (i : Intent) :
    Leads (Amended s) (dispatch i) (fun _ => Revised s) (Revised s) := by
  intro s₁ hs
  obtain ⟨t, j, hfollows, hsettings, heq⟩ := dispatch_follows i s₁
  have hrevised : Revised s (dispatch i s₁).1 := by
    rw [heq]
    exact ⟨s₁, i, t, j, hs, hfollows, hsettings.trans (congrArg _ hfollows.journal.symm), rfl⟩
  exact ⟨fun s' a hr => by rw [hr] at hrevised; exact hrevised,
    fun s' e hr => by rw [hr] at hrevised; exact hrevised⟩

/-- Every operation but the frames and the end of the session is such an edit. -/
theorem perform_revises (s : Session) {op : SessionOp} (hframes : op.runsFrames = false)
    (hopen : op ≠ .close) :
    Revised s (s.perform op).1 := by
  have hdispatch : ∀ {β : Type} i (f : Option Stage → β),
      Leads (Amended s) (dispatch i >>= fun new => Pure.pure (f new)) (fun _ => Revised s) (Revised s) :=
    fun i f => .bind (dispatch_revises s i) fun new => .pure _ fun _ h => h
  -- what comes before the intent may fail, and has changed nothing else then
  have hfirst : ∀ {β γ : Type} {m : Act β} {f : β → Act γ}, Keeps (Amended s) m →
      (∀ b, Leads (Amended s) (f b) (fun _ => Revised s) (Revised s)) →
      Leads (Amended s) (m >>= f) (fun _ => Revised s) (Revised s) :=
    fun hm hf => .bind (hm.weaken (fun _ h => h) (fun _ _ h => h) fun _ h => h.revised) hf
  have hrequest : ∀ {β : Type} action payload (f : Option Stage → β),
      Leads (Amended s) (request action payload >>= fun new => Pure.pure (f new))
      (fun _ => Revised s) (Revised s) :=
    fun _ _ f => .bind (hfirst (.ofExcept _) fun i => dispatch_revises s i) fun new => .pure _ fun _ h => h
  have hadd : ∀ actor block, Leads (Amended s) (Session.addBlock actor block) (fun _ => Revised s)
      (Revised s) :=
    fun _ _ => hfirst (.ofChecked _) fun _ => hfirst (.ofChecked _) fun _ => hdispatch _ _
  have haddTo : ∀ actor container block,
      Leads (Amended s) (Session.addBlockTo actor container block) (fun _ => Revised s) (Revised s) :=
    fun _ _ _ => hfirst (.ofChecked _) fun _ => hfirst (.ofChecked _) fun _ => hdispatch _ _
  have hs : Amended s s := ⟨s.journal, s.factory, rfl, rfl⟩
  cases op with
  | addActor kind x y => exact (hrequest _ _ _).attempt hs
  | removeActor actor => exact (hrequest _ _ _).attempt hs
  | selectActor actor => exact (hrequest _ _ _).attempt hs
  | addBlock actor block => exact (hadd actor block).attempt hs
  | addBlockTo actor container block => exact (haddTo actor container block).attempt hs
  | newBlock actor container type values =>
    refine Leads.attempt ?_ hs
    refine hfirst (.of_fst fun s₁ hs₁ => ?_) fun b => ?_
    · obtain ⟨j, f, hj, rfl⟩ := hs₁
      exact (Keeps.ofExcept _).fst ⟨j, _, hj, rfl⟩
    · cases container with
      | none => exact hadd _ _
      | some c => exact haddTo _ _ _
  | removeBlock actor block => exact (hrequest _ _ _).attempt hs
  | start => exact (hdispatch _ _).attempt hs
  | halt => exact (hdispatch _ _).attempt hs
  | step => cases hframes
  | run most => cases hframes
  | raw action payload =>
    have hreport : Keeps (Amended s) (Act.report (Stage.readIntent action payload)) := by
      refine .of_fst fun s₁ hs₁ => ?_
      obtain ⟨j, f, hj, rfl⟩ := hs₁
      exact ⟨_, f, (j.settle_settings _).trans hj, rfl⟩
    refine Leads.attempt (hfirst hreport fun i => ?_) hs
    cases i with
    | none => exact .pure false fun _ h => h.revised
    | some i => exact hdispatch _ _
  | close => exact absurd rfl hopen

/-- Every operation but the frames and the end of the session is an edit. -/
theorem perform_edits (s : Session) {op : SessionOp} (hframes : op.runsFrames = false)
    (hopen : op ≠ .close) :
    Edit s (s.perform op).1 := (perform_revises s hframes hopen).edit

/-- Running frames is frames and a note. -/
theorem run_leads {pre post stopped : Session → Prop} {most : Int} (hblind : Blind post)
    (hforeign : ∀ s n handle, pre s → s.host = .outside n handle → stopped s)
    (hframes : Leads pre (frames "run" most.toNat) (fun _ => post) stopped) :
    Leads pre (Session.run most) (fun _ => post) stopped := by
  have hrest : Leads pre
      (frames "run" most.toNat >>= fun count => Act.read (·.stage.running) >>= fun running =>
      if running then
        Act.note (.say "session" .warning
            ("Run still active after " ++ toString count ++ " frame(s)")) >>=
          fun _ => Pure.pure count
      else Pure.pure count) (fun _ => post) stopped := by
    refine .bind hframes fun count => ?_
    intro s hs
    rw [Act.read_bind]
    split
    · obtain ⟨j, hj, heq⟩ := Act.say_journal "session"
        ("Run still active after " ++ toString count ++ " frame(s)") .warning s
      rw [Act.bind_of_ok heq]
      exact Leads.pure count (fun _ h => h) (hblind.journal hj hs)
    · exact Leads.pure count (fun _ h => h) hs
  refine Leads.bind (.read _) fun host => ?_
  cases host with
  | manual h => exact hrest.weaken (fun _ h => h.1) (fun _ _ h => h) fun _ h => h
  | outside n handle =>
    intro s hs
    refine ⟨fun s' u hr => (by cases hr), fun s' e hr => ?_⟩
    cases hr
    exact hforeign s n handle hs.1 hs.2

/-- What a frame keeps, the operations that run frames keep. -/
theorem perform_frames (hblind : Blind inv) (hframe : ∀ caller, Keeps inv (frame caller)) {op : SessionOp}
    (hop : op.runsFrames = true) (hs : inv s) : inv (s.perform op).1 := by
  cases op with
  | step => exact (hframe "tick").attempt hs
  | run most => exact (run_leads hblind (fun _ _ _ h _ => h) (frames_keeps (hframe "run") _)).attempt hs
  | _ => cases hop

/-- An invariant of the intents and the frames is one of every operation but the end
of the session. -/
theorem perform_keeps (hblind : Blind inv)
    (hintent : ∀ ⦃s t : Session⦄ ⦃i : Intent⦄, Follows s i t → inv s → inv t)
    (hframe : ∀ caller, Keeps inv (frame caller)) {op : SessionOp}
    (hclosed : op = .close → ∀ ⦃s⦄, inv s → inv s.closed) (hs : inv s) : inv (s.perform op).1 := by
  by_cases hframes : op.runsFrames = true
  · exact perform_frames hblind hframe hframes hs
  · by_cases hclose : op = .close
    · subst hclose
      rw [perform_close]
      exact hclosed rfl hs
    · exact (perform_edits s (Bool.not_eq_true _ ▸ hframes) hclose).keeps hblind hintent hs

/-- What every operation of a history keeps holds after it. -/
theorem after_keeps {ops : List SessionOp} (h : ∀ op ∈ ops, ∀ ⦃s : Session⦄, inv s → inv (s.perform op).1)
    (hs : inv s) : inv (s.after ops) := by
  induction ops generalizing s with
  | nil => exact hs
  | cons op ops ih =>
    exact ih (fun op' hop' => h op' (List.mem_cons_of_mem op hop')) (h op List.mem_cons_self hs)

/-- The intents that a frame applies of its own accord. -/
def inFrames : Intent → Bool
  | .updateActor _ _ | .handleCollision _ _ | .stopRun => true
  | _ => false

/-- A property that bears all that happens in frames, and has nothing to do with the frame host. -/
structure Framed (inv : Session → Prop) : Prop where
  blind : Blind inv
  hosted : ∀ ⦃s : Session⦄ (host : SessionHost) (awaited : Option Nat), inv s →
    inv { s with host := host, awaited := awaited }
  intent : ∀ ⦃s t : Session⦄ ⦃i : Intent⦄, inFrames i = true → Follows s i t → inv s → inv t
  look : ∀ ⦃s : Session⦄ (m m' : CollisionMonitor), s.monitor = some m → s.stage.running = true → inv s →
    inv { s with monitor := some m' }
  played : ∀ ⦃s : Session⦄ ⦃r : Round⦄, inv s → s.stage.running = true →
    (Round.play s.interpreter s.stage.actors s.executions).2 = .ok r → inv { s with executions := r.states }

namespace Framed

theorem asking (h : Framed inv) (hs : inv s) : inv s.asking :=
  h.hosted (s := s) s.withdrawn.host.request.1 (some s.withdrawn.host.request.2) hs

theorem dispatch (h : Framed inv) {i : Intent} (hi : inFrames i = true) : Keeps inv (dispatch i) :=
  h.blind.dispatch fun _ _ hfollows => h.intent hi hfollows

theorem steady (h : Framed inv) : Steady inv :=
  ⟨h.blind, fun _ _ => h.dispatch rfl, fun _ _ => h.dispatch rfl, h.look⟩

/-- A round under way bears the count and the note of its turns. -/
theorem counted (h : Framed inv) {j : Journal} (hj : j.settings = s.journal.settings) (hs : inv s) :
    inv { s with awaited := none, ticks := s.ticks + 1, journal := j } :=
  h.hosted s.host none (h.blind ⟨j, s.recorder, s.factory, s.handled, s.ticks + 1, s.bus.history,
    hj, rfl, rfl⟩ hs)

theorem concludeRound (h : Framed inv) (r : Round) : Keeps inv (concludeRound r) :=
  h.steady.concludeRound (fun _ hs => hs) (h.dispatch rfl) (fun _ hs _ => h.asking hs) (fun _ hs _ => hs) r

theorem tick (h : Framed inv) : Keeps inv tick := by
  refine h.steady.tick (fun s hs _ => h.hosted s.host none hs) (fun s j hj hs _ => h.counted hj hs)
    (fun s r j hj hs hrun hr => ?_) (fun _ hs => hs) (h.dispatch rfl) (fun s hs _ => h.asking hs)
    fun _ hs _ => hs
  exact h.counted (s := { s with executions := r.states }) hj (h.played hs hrun hr)

theorem answerRequests (h : Framed inv) : ∀ requests, Keeps inv (answerRequests requests)
  | [] => .pure ()
  | .tick :: rest => by
    unfold Session.answerRequests
    exact .bind h.tick fun _ => answerRequests h rest

theorem frame (h : Framed inv) (caller : String) : Keeps inv (frame caller) := by
  unfold Session.frame
  refine .bind (.read _) fun host => ?_
  cases host with
  | outside n handle => exact .stop _
  | manual host =>
    simp only
    split
    · exact .pure false
    · exact .bind (.change fun s hs => h.hosted _ s.awaited hs) fun _ => .bind (h.answerRequests _) fun _ =>
        .bind (.change fun s hs => h.hosted _ s.awaited hs) fun _ => .pure true

theorem perform (h : Framed inv) {op : SessionOp} (hop : op.runsFrames = true) (hs : inv s) :
    inv (s.perform op).1 :=
  perform_frames h.blind h.frame hop hs

end Framed

/-- A property that bears all that happens to a session before its end, and has nothing to do
with its frame host. -/
structure Lasting (inv : Session → Prop) : Prop where
  blind : Blind inv
  hosted : ∀ ⦃s : Session⦄ (host : SessionHost) (awaited : Option Nat), inv s →
    inv { s with host := host, awaited := awaited }
  intent : ∀ ⦃s t : Session⦄ ⦃i : Intent⦄, Follows s i t → inv s → inv t
  look : ∀ ⦃s : Session⦄ (m m' : CollisionMonitor), s.monitor = some m → s.stage.running = true → inv s →
    inv { s with monitor := some m' }
  played : ∀ ⦃s : Session⦄ ⦃r : Round⦄, inv s → s.stage.running = true →
    (Round.play s.interpreter s.stage.actors s.executions).2 = .ok r → inv { s with executions := r.states }

namespace Lasting

theorem framed (h : Lasting inv) : Framed inv :=
  ⟨h.blind, h.hosted, fun _ _ _ _ hf hs => h.intent hf hs, h.look, h.played⟩

theorem frame (h : Lasting inv) (caller : String) : Keeps inv (frame caller) := h.framed.frame caller

theorem after (h : Lasting inv) {ops : List SessionOp} (hopen : .close ∉ ops) (hs : inv s) :
    inv (s.after ops) := by
  refine after_keeps (fun op hop s hs => ?_) hs
  refine perform_keeps h.blind h.intent h.frame (fun hclose => ?_) hs
  subst hclose
  exact absurd hop hopen

end Lasting

theorem lasting_following {b : Bool} : Lasting fun s => s.following = b where
  blind s t ht hs := by
    obtain ⟨j, r, f, handled, ticks, history, -, -, rfl⟩ := ht
    exact hs
  hosted s _ _ hs := hs
  intent s t i hf hs := by cases hf <;> exact hs
  look s _ _ _ _ hs := hs
  played s _ hs _ _ := hs

/-! ## The beginning of a history -/

/-- A new session is as prepared, and waits for the first frame of a run that is on already. -/
theorem create_begins (o : SessionOptions) :
    ∃ j : Journal, j.settings = o.journal.settings ∧
      create o =
        { (if o.initial.running then { prepared o with executions := .rewind o.initial.actors }.asking
            else prepared o) with
          journal := j, recording := o.recording.isSome } := by
  unfold create setUp
  rw [Act.read_bind]
  obtain ⟨rules, ⟨actors, selected, running⟩, host, collisions, recording, journal⟩ := o
  cases running with
  | false =>
    cases recording with
    | none => exact ⟨journal, rfl, rfl⟩
    | some r => exact ⟨_, journal.settle_settings _, rfl⟩
  | true =>
    obtain ⟨j, hj, hbegin⟩ :=
      beginRun_journal (prepared ⟨rules, ⟨actors, selected, true⟩, host, collisions, recording, journal⟩)
    have hbranch : (prepared ⟨rules, ⟨actors, selected, true⟩, host, collisions, recording,
        journal⟩).stage.running = true := rfl
    rw [if_pos hbranch, Act.bind_of_ok hbegin]
    cases recording with
    | none => exact ⟨j, hj, rfl⟩
    | some r => exact ⟨_, (j.settle_settings _).trans hj, rfl⟩

/-- A run that is on already changes neither the stage nor the monitor of a new session. -/
theorem create_prepared (o : SessionOptions) :
    (create o).stage = o.initial ∧ (create o).monitor = (prepared o).monitor := by
  obtain ⟨j, -, heq⟩ := create_begins o
  rw [heq]
  split
  · exact ⟨rfl, rfl⟩
  · exact ⟨rfl, rfl⟩

end Session

end ScriptedStage
