import ScriptedStage.Proofs.EditedRuns

/-!
Scripts that get their trigger late. A script that can run starts behind its trigger, in slot 1.
One that cannot run starts in slot 0, and when an edit gives it a trigger it stays there, since
edits keep the pointers. So the trigger of a script can come to be executed: it does nothing,
but it takes up a frame.

This is the only way to it. Which actors are where is known from the history alone: the pointer of
an actor is in slot 0 exactly if its script could not run when it came to the stage or, later, when
the last run started, and it has had no turn since.

What is proved, over all histories, failed operations and closed sessions included:
  1. `Follows.pointer`: what an intent does to a pointer;
  2. `Fit.pointer_round`: a round takes a pointer out of slot 0 exactly if the script can
     run, and never into it;
  3. `at_trigger_iff_unbegun`: where the pointers are, and what a turn in slot 0 comes to;
  4. `late_trigger_runs`: a trigger that is executed.
-/
namespace ScriptedStage

open Block

/-! ## A turn -/

theorem BlockType.eq_of_isTrigger {type : String} (h : isTrigger type = true) : type = flagClicked := by
  simp only [isTrigger, definition?, palette, Assoc.get?] at h
  repeat' split at h
  all_goals simp_all

/-- A trigger does nothing but let its script go on. -/
theorem Interpreter.execute_trigger {i : Interpreter} (hi : i.behaviours = builtInBehaviours) {b : Block}
    (hb : b.isTrigger = true) (a : Actor) (e : Execution) : i.execute a e b = .ok ⟨none, true, e, []⟩ := by
  obtain ⟨id, type, values, children⟩ := b
  obtain rfl : type = BlockType.flagClicked := BlockType.eq_of_isTrigger hb
  have hget : i.behaviours.get? BlockType.flagClicked = some .nothing := by rw [hi]; rfl
  rw [Interpreter.execute, hget]

theorem Script.head_of_isEligible {s : Script} (h : s.isEligible = true) {b : Block} (hb : s[0]? = some b) :
    b.isTrigger = true := by
  cases s with
  | nil => cases h
  | cons c rest =>
    obtain rfl := Option.some.inj hb
    exact h

namespace Round

variable {i : Interpreter} {a : Actor} {e : Execution} {b : Block} {step : StepResult} {states : Executions}

/-- A turn leaves the pointer behind the trigger. -/
theorem pointer_turn (hi : i.behaviours = builtInBehaviours) (hnodup : a.script.ids.Nodup) (he : e.Orderly)
    (helig : e.eligible = a.script.isEligible) (hnext : nextBlock? a states = some (e, b))
    (hstep : i.execute a e b = .ok step) : 1 ≤ (stateAfter a e.pointer step).pointer := by
  obtain ⟨-, hcan, -, -, hget⟩ := nextBlock?_eq_some.mp hnext
  have hpos := he.pointer
  have hrepeats : (repeatIdsAll a.script).Nodup := hnodup.sublist (repeatIdsAll_sublist _)
  have hmem : b ∈ a.script := List.mem_of_getElem? hget
  have hcall := Interpreter.lowers (Interpreter.regular_of_builtIn hi)
    (hrepeats.sublist (repeatIds_sublist_of_mem hmem)) he.loops hstep
  have hpointer : step.state.pointer = e.pointer := by rw [hcall.state]
  have heligible : step.state.eligible = true := by rw [hcall.state]; exact hcan
  unfold stateAfter
  cases hadvance : step.advance with
  | true =>
    simp only [if_true]
    split
    · -- a script that is rewound starts behind its trigger again
      simp only [Execution.rewound, Execution.startPointer, heligible, if_true, Int.le_refl]
    · show 1 ≤ e.pointer + 1
      omega
  | false =>
    -- the trigger would have let the script go on
    simp only [Bool.false_eq_true, if_false, hpointer]
    by_contra hlow
    have hzero : e.pointer.toNat = 0 := by omega
    rw [hzero] at hget
    have htrigger := Script.head_of_isEligible (helig.symm.trans hcan) hget
    rw [Interpreter.execute_trigger hi htrigger] at hstep
    obtain rfl := Except.ok.inj hstep
    cases hadvance

end Round

/-- A round takes the pointer out of slot 0 exactly if the script can run, and never into it. -/
theorem Executions.Fit.pointer_round {i : Interpreter} {actors : List Actor} {states : Executions}
    {r : Round} (h : Fit states actors) (hi : i.behaviours = builtInBehaviours)
    (hnodup : (actors.map (·.id)).Nodup) (hblocks : ∀ a ∈ actors, a.script.ids.Nodup)
    (hr : (Round.play i actors states).2 = .ok r) {a : Actor} (ha : a ∈ actors) {e e' : Execution}
    (he : states.get? a.id = some e) (he' : r.states.get? a.id = some e') :
    e'.pointer = 0 ↔ e.pointer = 0 ∧ ¬a.script.Runnable := by
  have hextends := Round.play_ok hnodup hr
  have horderly := h.orderly a.id e he
  obtain ⟨e₁, he₁, helig⟩ := h.mirrored a ha
  obtain rfl : e = e₁ := Option.some.inj (he.symm.trans he₁)
  have hpos := horderly.pointer
  cases hnext : Round.nextBlock? a states with
  | none =>
    rw [hextends.states a ha, Round.taken_of_none hnext] at he'
    obtain rfl : e = e' := Option.some.inj (he.symm.trans he')
    refine ⟨fun hzero => ⟨hzero, fun hrun => ?_⟩, And.left⟩
    -- a script that can run has a block in slot 0
    have hin : e.pointer.toNat < a.script.length := by
      have := hrun.2
      omega
    have hsome : Round.nextBlock? a states = some (e, a.script[e.pointer.toNat]) :=
      Round.nextBlock?_eq_some.mpr
        ⟨he, helig.trans hrun.1, hrun.2, by omega, List.getElem?_eq_getElem hin⟩
    rw [hnext] at hsome
    cases hsome
  | some p =>
    obtain ⟨e₁, b⟩ := p
    obtain ⟨he₁, hcan, hlong, -, -⟩ := Round.nextBlock?_eq_some.mp hnext
    obtain rfl : e = e₁ := Option.some.inj (he.symm.trans he₁)
    obtain ⟨step, hstep⟩ := hextends.steps a ha e b hnext
    rw [hextends.states a ha, Round.taken_of_some hnext hstep] at he'
    obtain rfl : Round.stateAfter a e.pointer step = e' := Option.some.inj he'
    have hpast := Round.pointer_turn hi (hblocks a ha) horderly helig hnext hstep
    refine ⟨fun hzero => ?_, fun hidle => ?_⟩
    · omega
    · exact absurd ⟨helig.symm.trans hcan, hlong⟩ hidle.2

/-- The most frames that an operation runs. -/
def SessionOp.mostFrames : SessionOp → Nat
  | .step => 1
  | .run most => most.toNat
  | _ => 0

theorem SessionOp.mostFrames_eq_zero {op : SessionOp} (h : op.runsFrames = false) : op.mostFrames = 0 := by
  cases op with
  | step => cases h
  | run most => cases h
  | _ => rfl

namespace Session

open Act (Leads)

variable {s t : Session} {id : String} {unbegun : Bool}

/-! ## What intents do to a pointer -/

/-- Whether the script of an actor can run. -/
def canRun (s : Session) (id : String) : Bool := (s.stage.actor? id).any (·.script.isEligible)

/-- Whether a script starts anew between two states of a session: a run starts, or the actor
was not there before. -/
def startsAnew (s t : Session) (id : String) : Bool :=
  !s.stage.running && t.stage.running || !decide (id ∈ s.stage.ids)

/-- Where an edit puts a pointer: behind the trigger, if there is one, where the script starts anew,
and else where it was. -/
def PlacedBy (s t : Session) (id : String) (e : Execution) : Prop :=
  (s.startsAnew t id = true ∧ e.pointer = if t.canRun id then 1 else 0) ∨
    (s.startsAnew t id = false ∧ ∃ e₀, s.executions.get? id = some e₀ ∧ e.pointer = e₀.pointer)

theorem canRun_of_mem (h : s.stage.ids.Nodup) {a : Actor} (ha : a ∈ s.stage.actors) :
    s.canRun a.id = a.script.isEligible := by
  rw [canRun, Stage.actor?_of_mem h ha]
  rfl

/-- The state of a script that starts is behind its trigger, if it has one. -/
theorem canRun_initial (h : s.stage.ids.Nodup) {a : Actor} (ha : a ∈ s.stage.actors) :
    (Execution.initial a.script).pointer = if s.canRun a.id then 1 else 0 := by
  rw [canRun_of_mem h ha]
  rfl

/-- Only an actor that is there has a state. -/
theorem Orderly.mem_of_get? (h : s.Orderly) {e : Execution} (he : s.executions.get? id = some e) :
    id ∈ s.stage.ids := by
  by_contra hid
  rw [h.states.others id hid] at he
  cases he

/-- An intent puts the pointer of a script that starts anew behind its trigger, if it has one, and
leaves the others where they are. -/
theorem Follows.pointer {i : Intent} (h : s.Orderly) (hf : Follows s i t) {e : Execution}
    (he : t.executions.get? id = some e) : PlacedBy s t id e := by
  have hkept : t.stage.running = s.stage.running → t.executions = s.executions →
      s.startsAnew t id = false ∧ ∃ e₀, s.executions.get? id = some e₀ ∧ e.pointer = e₀.pointer := by
    intro hrun hsame
    rw [hsame] at he
    exact ⟨by simp [startsAnew, hrun, h.mem_of_get? he], e, he, rfl⟩
  cases hf with
  | nothing => exact .inr (hkept rfl rfl)
  | alone hclosed hafter =>
    rw [h.following] at hclosed
    cases hclosed
  | edited hfollow hafter hrun =>
    rename_i after
    cases htouch : touchesActors i with
    | false => exact .inr (hkept hrun (by simp [htouch]))
    | true =>
      have hwf := h.wellFormed.reduce hafter
      simp only [htouch, if_true] at he
      have hmem : id ∈ after.ids := by
        by_contra hid
        rw [Executions.reconcile, Executions.get?_foldl_other _ _ [] hid] at he
        cases he
      obtain ⟨a, ha, rfl⟩ := List.mem_map.mp hmem
      rw [Executions.reconcile, Executions.get?_foldl_set _ _ [] hwf.actorIds ha] at he
      obtain rfl := Option.some.inj he
      by_cases hid : a.id ∈ s.stage.ids
      · obtain ⟨b, hb, hbid⟩ := List.mem_map.mp hid
        obtain ⟨e₀, he₀, -⟩ := h.states.mirrored b hb
        rw [hbid] at he₀
        exact .inr ⟨by simp [startsAnew, hrun, hid], e₀, he₀, by rw [he₀]⟩
      · refine .inl ⟨by simp [startsAnew, hid], ?_⟩
        rw [h.states.others a.id hid]
        exact canRun_initial (s := { s with stage := after, executions := _ }) hwf.actorIds ha
  | started hfollow hrest =>
    left
    have hmem : id ∈ s.stage.ids := by
      by_contra hid
      change (Executions.rewind s.stage.actors).get? id = some e at he
      rw [Executions.rewind, Executions.get?_foldl_other _ _ [] hid] at he
      cases he
    obtain ⟨a, ha, rfl⟩ := List.mem_map.mp hmem
    change (Executions.rewind s.stage.actors).get? a.id = some e at he
    rw [Executions.rewind, Executions.get?_foldl_set _ _ [] h.wellFormed.actorIds ha] at he
    obtain rfl := Option.some.inj he
    refine ⟨?_, canRun_initial (s := s) h.wellFormed.actorIds ha⟩
    rw [startsAnew, hrest]
    rfl
  | stopped hfollow hrun =>
    right
    change s.executions.get? id = some e at he
    exact ⟨by simp [startsAnew, hrun, h.mem_of_get? he], e, he, rfl⟩

/-! ## What frames do to a pointer -/

/-- In frames a pointer stays out of slot 0; it stays in it too if the script cannot run. -/
structure Stands (id : String) (unbegun : Bool) (s : Session) : Prop where
  orderly : s.Orderly
  idle : unbegun = true → ∀ a ∈ s.stage.actors, a.id = id → ¬a.script.Runnable
  pointer : ∀ e, s.executions.get? id = some e → (e.pointer = 0 ↔ unbegun = true)

theorem Stands.follows {i : Intent} (h : Stands id unbegun s) (hi : inFrames i = true)
    (hf : Follows s i t) :
    Stands id unbegun t := by
  have hshapes := hf.shapes h.orderly hi
  refine ⟨h.orderly.follows hf, fun hidle a ha hid => ?_, fun e he => ?_⟩
  · obtain ⟨b, hb, hbid, hskel⟩ := Stage.exists_of_shapes hshapes ha
    rw [← Script.runnable_congr hskel]
    exact h.idle hidle b hb (hbid.trans hid)
  · -- no script starts anew, as the roster is the same and no run starts
    have hmem : id ∈ s.stage.ids := Stage.ids_eq_of_shapes hshapes ▸ (h.orderly.follows hf).mem_of_get? he
    rcases hf.pointer h.orderly he with ⟨hanew, -⟩ | ⟨-, e₀, he₀, hsame⟩
    · cases hf with
      | started => cases hi
      | alone hclosed => exact absurd (hclosed.symm.trans h.orderly.following) Bool.false_ne_true
      | edited _ _ hrun => simp [startsAnew, hrun, hmem] at hanew
      | _ => simp [startsAnew, hmem] at hanew
    · rw [hsame]
      exact h.pointer e₀ he₀

/-- A round that is played leaves the pointer of a script that can run out of slot 0. -/
theorem Orderly.stands_played (h : s.Orderly) {r : Round}
    (hr : (Round.play s.interpreter s.stage.actors s.executions).2 = .ok r)
    (hbefore : ∀ a ∈ s.stage.actors, a.id = id → ∀ e, s.executions.get? id = some e →
      (e.pointer = 0 ∧ ¬a.script.Runnable ↔ unbegun = true)) :
    Stands id unbegun { s with executions := r.states } := by
  have hfit := h.states.round h.behaviours h.wellFormed.actorIds h.wellFormed.blockIds hr
  refine ⟨⟨h.wellFormed, h.following, h.behaviours, hfit⟩, fun hidle a ha hid => ?_, fun e' he' => ?_⟩
  · obtain ⟨e, he, -⟩ := h.states.mirrored a ha
    exact ((hbefore a ha hid e (hid ▸ he)).mpr hidle).2
  · have hmem : id ∈ s.stage.ids := by
      by_contra hid
      rw [hfit.others id hid] at he'
      cases he'
    obtain ⟨a, ha, rfl⟩ := List.mem_map.mp hmem
    obtain ⟨e, he, -⟩ := h.states.mirrored a ha
    rw [h.states.pointer_round h.behaviours h.wellFormed.actorIds h.wellFormed.blockIds hr ha he he']
    exact hbefore a ha rfl e he

theorem stands_framed (id : String) (unbegun : Bool) : Framed (Stands id unbegun) where
  blind s t ht hs := by
    have horderly := lasting_orderly.blind ht hs.orderly
    obtain ⟨j, r, f, handled, ticks, history, -, -, rfl⟩ := ht
    exact ⟨horderly, hs.idle, hs.pointer⟩
  hosted s host awaited hs := ⟨lasting_orderly.hosted host awaited hs.orderly, hs.idle, hs.pointer⟩
  intent s t i hi hf hs := hs.follows hi hf
  look s m m' hm hrun hs := ⟨lasting_orderly.look m m' hm hrun hs.orderly, hs.idle, hs.pointer⟩
  played s r hs hrun hr := by
    refine hs.orderly.stands_played hr fun a ha hid e he => ?_
    rw [hs.pointer e he]
    exact ⟨And.left, fun hidle => ⟨hidle, hs.idle hidle a ha hid⟩⟩

/-- The turns of a round, and the account that is given of them. -/
def turns (s : Session) : Journal × Except Fault Round :=
  s.journal.settle (Round.play s.interpreter s.stage.actors s.executions)

/-- A round that gets through the turns leaves the pointer of a script that can run out of slot
0, however it ends. -/
theorem Orderly.tick_stands (h : s.Orderly) (hrun : s.stage.running = true) {r : Round}
    (hr : s.turns.2 = .ok r) (hcan : ∀ a ∈ s.stage.actors, a.id = id → a.script.Runnable) :
    Leads (· = s) tick (fun _ => Stands id false) (Stands id false) := by
  have htick : tick s = concludeRound r (s.afterRound r s.turns.1) := by
    rw [tick_eq, Act.change_bind, Act.read_bind, if_pos hrun, Act.change_bind]
    refine (Act.bind_of_ok (Prod.ext rfl hr)).trans ?_
    rw [Act.change_bind]
    rfl
  have hround : (Round.play s.interpreter s.stage.actors s.executions).2 = .ok r :=
    Journal.settle_ok (Prod.ext rfl hr)
  have hplayed : Stands id false { s with executions := r.states } := by
    refine h.stands_played hround fun a ha hid e he => ?_
    simp [hcan a ha hid]
  rintro _ rfl
  rw [htick]
  apply (stands_framed id false).concludeRound r
  exact (stands_framed id false).counted (Journal.settle_settings _ _) hplayed

/-- A round that does not get through the turns fails with the states as they were. -/
theorem tick_spoilt (hrun : s.stage.running = true) {fault : Fault} (hr : s.turns.2 = .error fault) :
    Leads (· = s) tick (fun _ _ => False) (fun t => t.executions = s.executions) := by
  have hsettled : (s.journal.settle (Round.play s.interpreter s.stage.actors s.executions)).2 =
      .error fault := hr
  have htick : tick s = ({ s with awaited := none, ticks := s.ticks + 1, journal := s.turns.1 },
    .error fault) := by
    rw [tick_eq, Act.change_bind, Act.read_bind, if_pos hrun, Act.change_bind]
    simp only [bind, Act.report, hsettled]
    rfl
  rintro _ rfl
  rw [htick]
  refine ⟨fun t u hok => (by cases hok), fun t e herror => ?_⟩
  cases herror
  rfl

variable {post stopped : Session → Prop}

/-- A frame that waits leads where its round leads. -/
theorem frame_leads (caller : String) (hw : s.HostWaits)
    (hhosted : ∀ (t : Session) (host : SessionHost), post t → post { t with host := host })
    (htick : ∀ host, Leads (· = { s with host := host }) tick (fun _ => post) stopped) :
    Leads (· = s) (frame caller) (fun _ => post) stopped := by
  rintro _ rfl
  obtain ⟨host, n, hhost, hpending⟩ := hw
  rw [frame_eq caller hhost hpending]
  have hdone : Leads post (Act.change frameDone) (fun _ => post) stopped :=
    .change fun t ht => hhosted t _ ht
  exact Leads.bind (htick _) (fun _ => Leads.bind hdone fun _ => .pure true fun _ ht => ht) rfl

/-! ## What an operation does to a pointer -/

/-- An operation that has no frame to run prints something and does nothing else. -/
theorem perform_unmoved {op : SessionOp} (hop : op.runsFrames = true) (h : s.HostIdle ∨ op.mostFrames = 0) :
    Unmoved s (s.perform op).1 := by
  cases op with
  | step =>
    rcases h with hidle | hnone
    · show Unmoved s (Act.attempt (frame "tick") s).1
      rw [Act.attempt, frame_of_idle hidle]
      exact .refl s
    · cases hnone
  | run most =>
    have hframes : frames "run" most.toNat s = (s, .ok 0) := by
      rcases h with hidle | hnone
      · exact frames_of_idle hidle "run" _
      · rw [show most.toNat = 0 from hnone]
        rfl
    have hrun : Leads (· = s) (frames "run" most.toNat) (fun _ => Unmoved s) (Unmoved s) := by
      rintro _ rfl
      rw [hframes]
      exact Leads.pure 0 (fun _ ht => ht) (Unmoved.refl _)
    refine Leads.attempt (run_leads (Unmoved.blind s) (fun t n handle ht _ => ?_) hrun) rfl
    exact ht ▸ .refl s
  | _ => cases hop

/-- Where the first frame of an operation leads and the others stay, the operation leads. -/
theorem perform_leads {inv : Session → Prop} (hw : s.HostWaits) (hblind : Blind inv)
    (hfirst : ∀ caller, Leads (· = s) (frame caller) (fun _ => post) inv) (hpost : ∀ t, post t → inv t)
    (hrest : ∀ caller n, Leads post (frames caller n) (fun _ => inv) inv) {op : SessionOp}
    (hop : 0 < op.mostFrames) :
    inv (s.perform op).1 := by
  cases op with
  | step =>
    exact ((hfirst "tick").weaken (fun _ ht => ht) (fun _ t ht => hpost t ht) fun _ ht =>
      ht).attempt rfl
  | run most =>
    obtain ⟨n, hn⟩ := Nat.exists_eq_succ_of_ne_zero (Nat.ne_of_gt hop)
    have hframes : Leads (· = s) (frames "run" most.toNat) (fun _ => inv) inv := by
      rw [show most.toNat = n + 1 from hn]
      unfold frames
      refine Leads.bind (hfirst "run") fun ran => ?_
      split
      · exact Leads.bind (hrest "run" n) fun _ => .pure _ fun _ ht => ht
      · exact .pure 0 hpost
    refine Leads.attempt (run_leads hblind (fun t m handle ht hforeign => ?_) hframes) rfl
    obtain ⟨host, k, hhost, -⟩ := hw
    rw [ht, hhost] at hforeign
    cases hforeign
  | _ => cases hop

/-- An operation whose first frame gets through the turns leaves the pointer of a script that
can run out of slot 0. -/
theorem Orderly.perform_stands (h : s.Orderly) (hw : s.HostWaits) (hrun : s.stage.running = true)
    {r : Round} (hr : s.turns.2 = .ok r)
    (hcan : ∀ a ∈ s.stage.actors, a.id = id → a.script.Runnable) {op : SessionOp}
    (hop : 0 < op.mostFrames) : Stands id false (s.perform op).1 := by
  have hframed := stands_framed id false
  refine perform_leads hw hframed.blind (fun caller => ?_) (fun _ ht => ht)
    (fun caller n => frames_keeps (hframed.frame caller) n) hop
  apply frame_leads caller hw (fun t host ht => hframed.hosted host t.awaited ht)
  intro host
  have hhosted : Orderly { s with host := host } := lasting_orderly.hosted host s.awaited h
  exact hhosted.tick_stands hrun hr hcan

theorem perform_spoilt (hw : s.HostWaits) (hrun : s.stage.running = true) {fault : Fault}
    (hr : s.turns.2 = .error fault) {op : SessionOp} (hop : 0 < op.mostFrames) :
    (s.perform op).1.executions = s.executions := by
  have hblind : Blind fun t => t.executions = s.executions := by
    rintro t _ ⟨j, r, f, handled, ticks, history, -, -, rfl⟩ ht
    exact ht
  have hfirst : ∀ caller, Leads (· = s) (frame caller) (fun _ _ => False)
      (fun t => t.executions = s.executions) := by
    intro caller
    apply frame_leads caller hw (fun _ _ hfalse => hfalse)
    intro host
    exact tick_spoilt (s := { s with host := host }) hrun hr
  -- no frame comes after the first, which fails
  exact perform_leads hw hblind hfirst (fun _ hfalse => hfalse.elim) (fun _ _ _ hfalse => hfalse.elim) hop

/-- Whether an operation gets the actors through their turns: it runs the frame that waits, and that
frame can play its round and tell of it. -/
def plays (s : Session) (op : SessionOp) : Bool :=
  decide (0 < op.mostFrames) && s.awaited.isSome && s.turns.2.isOk

/-- Whether an actor takes a turn when one is played. -/
def canPlay (s : Session) (id : String) : Bool := (s.stage.actor? id).any fun a => decide a.script.Runnable

/-- Whether an actor has had no turn after an operation, counted from where its script last started,
if that was at a time when the script could not run. A session that is closed stays as it is. -/
def unbegunAfter (s : Session) (id : String) (unbegun : Bool) (op : SessionOp) : Bool :=
  if !s.following then unbegun
  else if s.startsAnew (s.perform op).1 id then !(s.perform op).1.canRun id
  else unbegun && !(s.plays op && s.canPlay id)

/-- The same after a history; `unbegun` says it of the beginning. -/
def unbegunIn (s : Session) (id : String) (unbegun : Bool) : List SessionOp → Bool
  | [] => unbegun
  | op :: ops => (s.perform op).1.unbegunIn id (s.unbegunAfter id unbegun op) ops

/-- The pointer of an actor is in slot 0 exactly if it is known to have had no turn. -/
structure Located (id : String) (s : Session) (unbegun : Bool) : Prop where
  scheduled : Scheduled s
  orderly : s.following = true → s.Orderly
  positive : ∀ e, s.executions.get? id = some e → 0 ≤ e.pointer
  pointer : ∀ e, s.executions.get? id = some e → (e.pointer = 0 ↔ unbegun = true)

/-- A closed session keeps its states. -/
theorem perform_closed (h : Scheduled s) (hclosed : s.following = false) (op : SessionOp) :
    (s.perform op).1.executions = s.executions := by
  cases hop : op.runsFrames with
  | true =>
    have hnone : s.awaited = none := by
      rw [← Option.not_isSome_iff_eq_none]
      intro hsome
      rw [(h.running hsome).2] at hclosed
      cases hclosed
    obtain ⟨j, r, f, handled, ticks, history, -, -, heq⟩ :=
      perform_unmoved hop (.inl (.of_scheduled h hnone))
    rw [heq]
  | false =>
    by_cases hclose : op = .close
    · subst hclose
      rw [perform_close]
      rfl
    · obtain ⟨s₁, i, t₁, hbefore, hfollows, hafter⟩ := perform_edits s hop hclose
      obtain ⟨j, r, f, handled, ticks, history, -, -, rfl⟩ := hbefore
      obtain ⟨j', r', f', handled', ticks', history', -, -, heq⟩ := hafter
      rw [heq]
      cases hfollows with
      | nothing => rfl
      | alone => rfl
      | edited hfollow => exact absurd (hclosed.symm.trans hfollow) Bool.false_ne_true
      | started hfollow => exact absurd (hclosed.symm.trans hfollow) Bool.false_ne_true
      | stopped hfollow => exact absurd (hclosed.symm.trans hfollow) Bool.false_ne_true

theorem canPlay_of_mem (h : s.stage.ids.Nodup) {a : Actor} (ha : a ∈ s.stage.actors) :
    s.canPlay a.id = decide a.script.Runnable := by
  rw [canPlay, Stage.actor?_of_mem h ha]
  rfl

/-- What intents do to a pointer, edits do. -/
theorem Edit.pointer (h : s.Orderly) (hedit : Edit s t) {e : Execution}
    (he : t.executions.get? id = some e) :
    PlacedBy s t id e := by
  obtain ⟨s₁, i, t₁, hbefore, hfollows, hafter⟩ := hedit
  have h₁ : s₁.Orderly := lasting_orderly.blind hbefore h
  obtain ⟨j, r, f, handled, ticks, history, -, -, rfl⟩ := hbefore
  obtain ⟨j', r', f', handled', ticks', history', -, -, rfl⟩ := hafter
  exact hfollows.pointer h₁ he

namespace Located

variable {op : SessionOp} {e : Execution}

/-- Without a turn, a pointer is as its script starts or as it was. -/
theorem pointer_unplayed (h : Located id s unbegun) (hfollow : s.following = true)
    (hplays : s.plays op = false) (hpointer : PlacedBy s (s.perform op).1 id e) :
    e.pointer = 0 ↔ s.unbegunAfter id unbegun op = true := by
  rw [unbegunAfter, hfollow, hplays]
  rcases hpointer with ⟨hanew, hstart⟩ | ⟨hkept, e₀, he₀, hsame⟩
  · rw [hanew, hstart]
    cases (s.perform op).1.canRun id <;> simp
  · rw [hkept, hsame, h.pointer e₀ he₀]
    simp

/-- Frames take the pointers of the scripts that can run out of slot 0, if the first of them
gets through the turns. -/
theorem pointer_frames (h : Located id s unbegun) (hs : s.Orderly) (hsome : s.awaited.isSome = true)
    (hop : 0 < op.mostFrames) (he : (s.perform op).1.executions.get? id = some e) :
    e.pointer = 0 ↔ s.unbegunAfter id unbegun op = true := by
  have hrun := (h.scheduled.running hsome).1
  have hwaits := HostWaits.of_scheduled h.scheduled hsome
  have hframes : op.runsFrames = true := by
    by_contra hnot
    rw [SessionOp.mostFrames_eq_zero (Bool.not_eq_true _ ▸ hnot)] at hop
    cases hop
  by_cases hid : id ∈ s.stage.ids
  · obtain ⟨a, ha, rfl⟩ := List.mem_map.mp hid
    have hafter : s.unbegunAfter a.id unbegun op =
        (unbegun && !(s.turns.2.isOk && decide a.script.Runnable)) := by
      simp [unbegunAfter, startsAnew, plays, hs.following, hrun, hid, hop, hsome,
        canPlay_of_mem hs.wellFormed.actorIds ha]
    have hself : ∀ b ∈ s.stage.actors, b.id = a.id → b = a := fun b hb hbid =>
      List.inj_on_of_nodup_map hs.wellFormed.actorIds hb ha hbid
    rw [hafter]
    by_cases hidle : unbegun = true → ¬a.script.Runnable
    · -- the pointer stays where it is
      have hstands : Stands a.id unbegun s :=
        ⟨hs, fun hu b hb hbid => hself b hb hbid ▸ hidle hu, h.pointer⟩
      rw [((stands_framed a.id unbegun).perform hframes hstands).pointer e he]
      cases unbegun with
      | false => simp
      | true => simp [hidle rfl]
    · obtain ⟨rfl, hcan⟩ := Classical.not_imp.mp hidle
      rw [not_not] at hcan
      cases hturns : s.turns.2 with
      | ok r =>
        have hstands := hs.perform_stands hwaits hrun hturns (fun b hb hbid => hself b hb hbid ▸ hcan) hop
        rw [hstands.pointer e he]
        simp [Except.isOk, Except.toBool, hcan]
      | error fault =>
        rw [perform_spoilt hwaits hrun hturns hop] at he
        rw [h.pointer e he]
        simp [Except.isOk, Except.toBool]
  · -- an actor that is not there does not come in frames: its state would have to be in two places
    have hboth : ∀ b, Stands id b s := fun b =>
      ⟨hs, fun _ a ha haid => absurd (haid ▸ List.mem_map_of_mem ha) hid,
        fun e he => absurd (hs.mem_of_get? he) hid⟩
    have hzero := ((stands_framed id true).perform hframes (hboth true)).pointer e he
    have hpast := ((stands_framed id false).perform hframes (hboth false)).pointer e he
    simp [hzero] at hpast

theorem orderly_perform (h : Located id s unbegun) (op : SessionOp)
    (hopen : (s.perform op).1.following = true) :
    (s.perform op).1.Orderly := by
  have hfollow : s.following = true := by
    by_contra hclosed
    have hlasts := lasting_following (b := false)
    have hstays : (s.perform op).1.following = false :=
      perform_keeps hlasts.blind hlasts.intent hlasts.frame (fun _ _ _ => rfl)
      (Bool.not_eq_true _ ▸ hclosed)
    rw [hopen] at hstays
    cases hstays
  have hnot : .close ∉ [op] := by
    rw [List.mem_singleton]
    rintro rfl
    rw [perform_close] at hopen
    cases hopen
  exact lasting_orderly.after hnot (h.orderly hfollow)

/-- The end of a session leaves the states as they are, and so does all that comes after it. -/
theorem executions_perform (h : Located id s unbegun) (hclosed : (s.perform op).1.following = false) :
    (s.perform op).1.executions = s.executions := by
  cases hfollow : s.following with
  | false => exact perform_closed h.scheduled hfollow op
  | true =>
    have hend : op = .close := by
      by_contra hne
      have hlasts : (s.after [op]).following = true :=
        lasting_following.after (by simpa using Ne.symm hne) hfollow
      rw [show s.after [op] = (s.perform op).1 from rfl, hclosed] at hlasts
      cases hlasts
    rw [hend, perform_close]
    rfl

theorem perform (h : Located id s unbegun) (op : SessionOp) :
    Located id (s.perform op).1 (s.unbegunAfter id unbegun op) := by
  refine ⟨h.scheduled.perform op, h.orderly_perform op, fun e he => ?_, fun e he => ?_⟩
  · cases hopen : (s.perform op).1.following with
    | true => exact ((h.orderly_perform op hopen).states.orderly id e he).pointer
    | false => exact h.positive e (h.executions_perform hopen ▸ he)
  · cases hfollow : s.following with
    | false =>
      rw [perform_closed h.scheduled hfollow op] at he
      simp [unbegunAfter, hfollow, h.pointer e he]
    | true =>
      have hs := h.orderly hfollow
      cases hframes : op.runsFrames with
      | true =>
        by_cases hruns : s.awaited.isSome = true ∧ 0 < op.mostFrames
        · exact h.pointer_frames hs hruns.1 hruns.2 he
        · have hnone : s.awaited = none ∨ op.mostFrames = 0 := by
            rcases not_and_or.mp hruns with hwait | hmost
            · exact .inl (Option.not_isSome_iff_eq_none.mp hwait)
            · exact .inr (by omega)
          have hplays : s.plays op = false := by
            rcases hnone with hnone | hnone <;> simp [plays, hnone]
          have hunmoved := perform_unmoved hframes (hnone.imp_left (.of_scheduled h.scheduled))
          exact h.pointer_unplayed hfollow hplays (hunmoved.edit.pointer hs he)
      | false =>
        have hplays : s.plays op = false := by
          rw [plays, SessionOp.mostFrames_eq_zero hframes]
          rfl
        refine h.pointer_unplayed hfollow hplays ?_
        by_cases hclose : op = .close
        · subst hclose
          rw [perform_close] at he ⊢
          change s.executions.get? id = some e at he
          refine .inr ⟨?_, e, he, rfl⟩
          show (!s.stage.running && s.stage.running || !decide (id ∈ s.stage.ids)) = false
          simp [hs.mem_of_get? he]
        · exact (perform_edits s hframes hclose).pointer hs he

theorem after (ops : List SessionOp) (h : Located id s unbegun) :
    Located id (s.after ops) (s.unbegunIn id unbegun ops) := by
  induction ops generalizing s unbegun with
  | nil => exact h
  | cons op ops ih => exact ih (h.perform op)

end Located

theorem create_located {o : SessionOptions} {h : FrameHost FrameRequest} (hhost : o.host = .manual h)
    (hpending : h.pending = []) (hinitial : o.initial.WellFormed) (id : String) :
    Located id (create o) (!(create o).canRun id) := by
  have horderly := create_orderly hinitial
  refine ⟨(create_attended hhost hpending).scheduled, fun _ => horderly,
    fun e he => (horderly.states.orderly id e he).pointer, fun e he => ?_⟩
  obtain ⟨a, ha, rfl⟩ := List.mem_map.mp (horderly.mem_of_get? he)
  have hpointer := canRun_initial horderly.wellFormed.actorIds ha
  rw [(create_prepared o).1] at ha
  have hfilled := create_executions hinitial ha
  obtain rfl := Option.some.inj (he.symm.trans hfilled)
  rw [hpointer]
  cases (create o).canRun a.id <;> simp

/-- After any history the pointer of an actor is in slot 0 exactly if its script could not run
when it came to the stage or, later, when the last run started, and it has had no turn since;
otherwise it is behind the trigger. A turn in slot 0 executes the trigger, which changes nothing
and lets the script go on. -/
theorem at_trigger_iff_unbegun (o : SessionOptions) {h : FrameHost FrameRequest}
    (hhost : o.host = .manual h) (hpending : h.pending = []) (hinitial : o.initial.WellFormed)
    (ops : List SessionOp) {id : String} {e : Execution}
    (he : ((create o).after ops).executions.get? id = some e) :
    (e.pointer = 0 ↔ (create o).unbegunIn id (!(create o).canRun id) ops = true) ∧ 0 ≤ e.pointer ∧
      (((create o).after ops).following = true → ∀ a ∈ ((create o).after ops).stage.actors, ∀ b,
        Round.nextBlock? a ((create o).after ops).executions = some (e, b) → e.pointer = 0 →
          a.script.head? = some b ∧ b.isTrigger = true ∧
            ((create o).after ops).interpreter.execute a e b = .ok ⟨none, true, e, []⟩) := by
  have hlocated := (create_located hhost hpending hinitial id).after ops
  refine ⟨hlocated.pointer e he, hlocated.positive e he, fun hopen a ha b hnext hzero => ?_⟩
  have horderly := hlocated.orderly hopen
  obtain ⟨hget, hcan, -, -, hblock⟩ := Round.nextBlock?_eq_some.mp hnext
  obtain ⟨e', he', helig⟩ := horderly.states.mirrored a ha
  obtain rfl : e = e' := Option.some.inj (hget.symm.trans he')
  rw [hzero] at hblock
  have htrigger := Script.head_of_isEligible (helig.symm.trans hcan) hblock
  refine ⟨?_, htrigger, Interpreter.execute_trigger horderly.behaviours htrigger a e⟩
  rw [List.head?_eq_getElem?]
  exact hblock

/-- An actor gets its script, trigger first, while a run is on. -/
def lateScript : List SessionOp :=
  [.addActor (.str "cat") (.float 0) (.float 0), .start,
   .addBlock (.str "cat-1") (.record [("id", .str "f"), ("type", .str BlockType.flagClicked)]),
   .addBlock (.str "cat-1")
     (.record [("id", .str "s"), ("type", .str BlockType.say), ("values", .list [.str "hi"])])]

/-- In a run the pointer of a script that can run need not be behind its trigger: the next frame of
this one executes the trigger, and nothing is said in it. -/
theorem late_trigger_runs :
    ((create {}).after lateScript).stage.running = true ∧
      ((create {}).after lateScript).executions.get? "cat-1" = some ⟨0, [], true⟩ ∧
      ((create {}).after lateScript).stage.actors.map
          (fun a => (Round.nextBlock? a ((create {}).after lateScript).executions).map fun p =>
            (p.2.id, p.2.type)) =
        [some ("f", BlockType.flagClicked)] ∧
      ((create {}).after (lateScript ++ [.step])).stage.actors.map (·.message) = [none] ∧
      ((create {}).after (lateScript ++ [.step])).executions.get? "cat-1" = some ⟨1, [], true⟩ := by
  decide +kernel

/-- The script that came late is at its trigger, and behind it after a frame. -/
theorem at_trigger_iff_unbegun_lateScript :
    (∃ e, ((create {}).after lateScript).executions.get? "cat-1" = some e ∧ e.pointer = 0) ∧
      ∃ e, ((create {}).after (lateScript ++ [.step])).executions.get? "cat-1" = some e ∧
        ¬e.pointer = 0 := by
  constructor
  · have hget : ((create {}).after lateScript).executions.get? "cat-1" = some ⟨0, [], true⟩ := by
      decide +kernel
    exact ⟨_, hget, (at_trigger_iff_unbegun {} rfl rfl (by decide) lateScript hget).1.mpr
      (by decide +kernel)⟩
  · have hget : ((create {}).after (lateScript ++ [.step])).executions.get? "cat-1" =
        some ⟨1, [], true⟩ := by
      decide +kernel
    refine ⟨_, hget, ?_⟩
    rw [(at_trigger_iff_unbegun {} rfl rfl (by decide) (lateScript ++ [.step]) hget).1]
    decide +kernel

end Session

end ScriptedStage
