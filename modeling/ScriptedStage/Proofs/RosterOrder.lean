import ScriptedStage.Proofs.CollisionLog

/-!
The order of the roster. The actors of a stage take their turns, get their changes and are compared
in the order in which they stand in the roster, and the collisions of a round are answered in an
order that follows from it. None of this can be seen: two sessions that are made alike over the same
actors in different orders go through the same states of each actor.

For the turns this holds because an actor reads its own state only, and for the changes
because each is for one actor. The collisions of a round come in another order and, of two
sessions, at different ticks, but the pairs are the same, and an actor is reversed as often as
it is named, whatever the order.

What is proved, for rounds that fail on neither side:
  1. `Looks.shuffled`: two looks at a roster in different orders tell of the same pairs;
  2. `Shuffled.played`: a round leaves two sessions alike but for the order;
  3. `roster_order_unseen`: so does any history of starts, stops and frames.
-/
namespace ScriptedStage

/-! ## Collisions in a different order -/

namespace CollisionMonitor

theorem Overlap.of_perm {actors actors' : List Actor} (h : actors.Perm actors')
    {first second : String} (hover : Overlap actors first second) :
    Overlap actors' first second := by
  obtain ⟨a, ha, b, hb, hboth⟩ := hover
  exact ⟨a, h.subset ha, b, h.subset hb, hboth⟩

theorem overlap_perm {actors actors' : List Actor} (h : actors.Perm actors')
    {first second : String} :
    Overlap actors first second ↔ Overlap actors' first second :=
  ⟨.of_perm h, .of_perm h.symm⟩

end CollisionMonitor

/-- An actor is found by its id, wherever it stands. -/
theorem Stage.actor?_of_perm {s t : Stage} (h : s.actors.Perm t.actors) (ht : t.ids.Nodup)
    (id : String) :
    s.actor? id = t.actor? id := by
  cases hs : s.actor? id with
  | none =>
    symm
    apply List.find?_eq_none.mpr
    intro a ha
    exact List.find?_eq_none.mp hs a (h.symm.subset ha)
  | some a =>
    obtain ⟨ha, rfl⟩ := actor?_mem hs
    exact (actor?_of_mem ht (h.subset ha)).symm

namespace Session

/-- Two monitors that remember the same pairs, or none on both sides. -/
def SameOverlaps : Option CollisionMonitor → Option CollisionMonitor → Prop
  | none, none => True
  | some m, some n => ∀ p, p ∈ m.overlapping ↔ p ∈ n.overlapping
  | _, _ => False

theorem SameOverlaps.refl (m : Option CollisionMonitor) : SameOverlaps m m := by
  cases m with
  | none => trivial
  | some m => exact fun p => Iff.rfl

theorem SameOverlaps.reset {m n : Option CollisionMonitor} (h : SameOverlaps m n) :
    SameOverlaps (m.map (·.reset)) (n.map (·.reset)) := by
  cases m <;> cases n
  · trivial
  · exact h.elim
  · exact h.elim
  · exact fun p => Iff.rfl

/-- Two looks at a roster in different orders tell of the same pairs, so each actor is
named as often in both. -/
theorem Looks.shuffled {actors actors' : List Actor} {m m' n n' : Option CollisionMonitor}
    {k k' : Int} {es fs : List CollisionEvent} (hperm : actors.Perm actors')
    (hsame : SameOverlaps m n) (h : Looks m actors k m' es) (h' : Looks n actors' k' n' fs) :
    SameOverlaps m' n' ∧ ∀ id, es.countP (·.names id) = fs.countP (·.names id) := by
  cases m with
  | none =>
    cases n with
    | some n => exact hsame.elim
    | none =>
      cases m' with
      | some m' => exact h.elim
      | none =>
        cases n' with
        | some n' => exact h'.elim
        | none =>
          obtain rfl : es = [] := h
          obtain rfl : fs = [] := h'
          exact ⟨trivial, fun id => rfl⟩
  | some m =>
    cases n with
    | none => exact hsame.elim
    | some n =>
      cases m' with
      | none => exact h.elim
      | some m' =>
        cases n' with
        | none => exact h'.elim
        | some n' =>
          have htold := CollisionMonitor.told_of_check h
          have htold' := CollisionMonitor.told_of_check h'
          have hover : ∀ p : IdPair,
              CollisionMonitor.Overlap actors p.1 p.2 ↔
                CollisionMonitor.Overlap actors' p.1 p.2 := by
            intro p
            exact CollisionMonitor.overlap_perm hperm
          constructor
          · intro p
            rw [htold.mem_overlapping, htold'.mem_overlapping, hover]
          · -- the pairs are the same and occur once, so they differ in their order only
            have hpairs : (es.map fun e => (e.first, e.second)).Perm
                (fs.map fun e => (e.first, e.second)) := by
              apply (List.perm_ext_iff_of_nodup htold.once htold'.once).mpr
              intro p
              rw [htold.mem_events, htold'.mem_events, hover, hsame p]
            intro id
            have hcount := hpairs.countP_eq fun p => decide (p.1 = id) || decide (p.2 = id)
            rw [List.countP_map, List.countP_map] at hcount
            exact hcount

/-! ## Rounds in a different order -/

variable {s s' t t' : Session}

/-- Two sessions alike in all that a run depends on, except for the order of the roster. -/
structure Shuffled (s t : Session) : Prop where
  actors : s.stage.actors.Perm t.stage.actors
  running : s.stage.running = t.stage.running
  states : ∀ id ∈ s.stage.ids, s.executions.get? id = t.executions.get? id
  overlaps : SameOverlaps s.monitor t.monitor

namespace Shuffled

variable {r r' : Round} {g g' : Actor → Actor}

theorem taken (h : Shuffled s t) (hi : s.interpreter = t.interpreter) {a : Actor}
    (ha : a ∈ s.stage.actors) :
    Round.taken s.interpreter s.executions a = Round.taken t.interpreter t.executions a := by
  rw [hi]
  exact Round.taken_congr (h.states a.id (List.mem_map_of_mem ha))

/-- The scripts make the same of an actor on both sides. -/
theorem patched (h : Shuffled s t) (hs : s.Orderly) (ht : t.Orderly)
    (hi : s.interpreter = t.interpreter)
    (hr : (Round.play s.interpreter s.stage.actors s.executions).2 = .ok r)
    (hr' : (Round.play t.interpreter t.stage.actors t.executions).2 = .ok r')
    (hg : ∀ a ∈ s.stage.actors, a.changedBy r.deltas = .ok (g a))
    (hg' : ∀ a ∈ t.stage.actors, a.changedBy r'.deltas = .ok (g' a)) {a : Actor}
    (ha : a ∈ s.stage.actors) :
    g a = g' a := by
  have hchange : Assoc.get? r.deltas a.id = Assoc.get? r'.deltas a.id := by
    rw [(Round.play_ok hs.wellFormed.actorIds hr).deltas,
      (Round.play_ok ht.wellFormed.actorIds hr').deltas]
    rw [List.nil_append, List.nil_append, get?_changes hs.wellFormed.actorIds ha,
      get?_changes ht.wellFormed.actorIds (h.actors.subset ha)]
    simp only [Round.changeBy, h.taken hi ha]
  have hsame : a.changedBy r.deltas = a.changedBy r'.deltas := by
    rw [Actor.changedBy, hchange, Actor.changedBy]
  rw [hg a ha, hg' a (h.actors.subset ha)] at hsame
  exact Except.ok.inj hsame

/-- The same actors finish their scripts on both sides. -/
theorem completed (h : Shuffled s t) (hs : s.Orderly) (ht : t.Orderly)
    (hi : s.interpreter = t.interpreter)
    (hr : (Round.play s.interpreter s.stage.actors s.executions).2 = .ok r)
    (hr' : (Round.play t.interpreter t.stage.actors t.executions).2 = .ok r') :
    r.completed.isEmpty = r'.completed.isEmpty := by
  have hends : t.stage.actors.filter (Round.endsBy t.interpreter t.executions) =
      t.stage.actors.filter (Round.endsBy s.interpreter s.executions) := by
    apply List.filter_congr
    intro a ha
    simp only [Round.endsBy, h.taken hi (h.actors.symm.subset ha)]
  rw [(Round.play_ok hs.wellFormed.actorIds hr).completed,
    (Round.play_ok ht.wellFormed.actorIds hr').completed]
  rw [List.nil_append, List.nil_append, hends]
  apply List.Perm.isEmpty_eq
  exact (h.actors.filter _).map _

theorem states_round (h : Shuffled s t) (hs : s.Orderly) (ht : t.Orderly)
    (hi : s.interpreter = t.interpreter)
    (hr : (Round.play s.interpreter s.stage.actors s.executions).2 = .ok r)
    (hr' : (Round.play t.interpreter t.stage.actors t.executions).2 = .ok r') {id : String}
    (hid : id ∈ s.stage.ids) : r.states.get? id = r'.states.get? id := by
  have hbefore := h.states id hid
  obtain ⟨a, ha, rfl⟩ := List.mem_map.mp hid
  rw [(Round.play_ok hs.wellFormed.actorIds hr).states a ha,
    (Round.play_ok ht.wellFormed.actorIds hr').states a (h.actors.subset ha)]
  simp only [h.taken hi ha, hbefore]

/-- A round of two sessions alike but for the order leaves them so. -/
theorem played {m m' : Option CollisionMonitor} {es fs : List CollisionEvent} (h : Shuffled s t)
    (hs : s.Orderly) (ht : t.Orderly) (hi : s.interpreter = t.interpreter)
    (hp : Played s s' r g m es) (hq : Played t t' r' g' m' fs) :
    Shuffled s' t' := by
  have hg : ∀ a ∈ s.stage.actors, g a = g' a := by
    intro a ha
    exact h.patched hs ht hi hp.round hq.round hp.patched hq.patched ha
  have hpatched : (s.stage.actors.map g).Perm (t.stage.actors.map g') := by
    rw [List.map_congr_left fun a ha => (hg a (h.actors.symm.subset ha)).symm]
    exact h.actors.map g
  -- the monitor sees the same actors, so it names each of them as often
  obtain ⟨hoverlaps, hnamed⟩ := hp.looks.shuffled hpatched h.overlaps hq.looks
  have hcompleted := h.completed hs ht hi hp.round hq.round
  have hids : s'.stage.ids = s.stage.ids := by
    rw [Stage.ids, hp.actors, List.map_map]
    apply List.map_congr_left
    intro a ha
    exact (Actor.changedBy_keeps (hp.patched a ha)).1
  refine ⟨?actors, ?running, ?states, ?overlaps⟩
  case actors =>
    have hafter : t'.stage.actors = t.stage.actors.map fun a =>
      (g a).reversed (es.countP (·.names a.id)) := by
      rw [hq.actors]
      apply List.map_congr_left
      intro a ha
      rw [hg a (h.actors.symm.subset ha), hnamed]
    rw [hp.actors, hafter]
    exact h.actors.map _
  case running => rw [hp.running, hq.running, hcompleted]
  case states =>
    intro id hid
    rw [hids] at hid
    have hid' : id ∈ t.stage.ids := (h.actors.map _).subset hid
    rw [hp.states id hid, hq.states id hid']
    exact h.states_round hs ht hi hp.round hq.round hid
  case overlaps =>
    rw [hp.monitor, hq.monitor, hcompleted]
    split
    · exact hoverlaps
    · exact hoverlaps.reset

end Shuffled

/-! ## Operations -/

end Session

/-- The end of a run is told in notes that can be printed. -/
theorem Stage.dispatch_stopRun {s : Stage} (h : s.running = true) (rules : StageRules) :
    ∃ notes, s.dispatch rules .stopRun = (notes, some { s with running := false }) ∧
      ∀ n ∈ notes, ∃ t, n.text = .ok t := by
  refine ⟨[.form "store" .debug "Intent dispatched: %s %s" [.str Intent.stopRun.action,
    Intent.stopRun.dump], storeNote .info "Run stopped"], by simp [dispatch, reduce, stopRun, h],
    fun n hn => ?_⟩
  rcases List.mem_cons.mp hn with rfl | hn
  · exact ⟨"Intent dispatched: STOP_RUN {}", rfl⟩
  · obtain rfl := List.mem_singleton.mp hn
    exact ⟨_, rfl⟩

namespace Session

variable {s t : Session} {o o' : SessionOptions}

/-- A stop of a run does not fail. -/
theorem perform_halt (hrun : s.stage.running = true) (hfollow : s.following = true) :
    ∃ j : Journal, s.perform .halt =
      ({ s.withdrawn with
          stage := { s.stage with running := false }
          monitor := s.monitor.map (·.reset)
          journal := j }, none) := by
  obtain ⟨notes, hstage, htexts⟩ := Stage.dispatch_stopRun hrun s.rules
  obtain ⟨j, -, hdispatch⟩ := dispatch_of_texts hstage htexts hfollow
  obtain ⟨j', -, hend⟩ :=
    endRun_journal { s with journal := j, stage := { s.stage with running := false } }
  rw [Act.bind_of_ok ((follow_stop hrun rfl _).trans hend)] at hdispatch
  refine ⟨j', ?_⟩
  show Act.attempt halt s = _
  unfold Act.attempt halt
  rw [Act.bind_of_ok hdispatch]
  rfl

/-- A start while a run is on, and a stop while none is, print something and do nothing else. -/
theorem Follows.idle {i : Intent} (h : Follows s i t) (hi : (s.stage.reduce s.rules i).1 = none) :
    t = s := by
  cases h with
  | nothing => rfl
  | alone _ hafter => rw [hi] at hafter; cases hafter
  | edited _ hafter _ => rw [hi] at hafter; cases hafter
  | started _ hrest => simp [Stage.reduce, Stage.startRun, hrest] at hi
  | stopped _ hrun => simp [Stage.reduce, Stage.stopRun, hrun] at hi

theorem Shuffled.start (h : Shuffled s t) (hs : Driven o s) (ht : Driven o' t) :
    Shuffled (s.perform .start).1 (t.perform .start).1 := by
  cases hrun : s.stage.running with
  | true =>
    have hrun' : t.stage.running = true := by rw [← h.running, hrun]
    obtain ⟨s₁, j, hfollows, heq⟩ := attempt_follows s .startRun (·.isSome)
    obtain ⟨t₁, j', hfollows', heq'⟩ := attempt_follows t .startRun (·.isSome)
    obtain rfl := hfollows.idle (by simp [Stage.reduce, Stage.startRun, hrun])
    obtain rfl := hfollows'.idle (by simp [Stage.reduce, Stage.startRun, hrun'])
    rw [show (s₁.perform .start).1 = _ from heq, show (t₁.perform .start).1 = _ from heq']
    exact { h with }
  | false =>
    have hrest : t.stage.running = false := by rw [← h.running, hrun]
    obtain ⟨j, -, heq⟩ := perform_start hrun hs.wired.following
    obtain ⟨j', -, heq'⟩ := perform_start hrest ht.wired.following
    rw [heq, heq']
    refine ⟨h.actors, rfl, ?_, h.overlaps⟩
    -- every actor starts from the beginning of its script
    intro id hid
    obtain ⟨a, ha, rfl⟩ := List.mem_map.mp hid
    show (Executions.rewind s.stage.actors).get? a.id = (Executions.rewind t.stage.actors).get? a.id
    rw [Executions.rewind, Executions.rewind,
      Executions.get?_foldl_set _ _ [] hs.orderly.wellFormed.actorIds ha,
      Executions.get?_foldl_set _ _ [] ht.orderly.wellFormed.actorIds (h.actors.subset ha)]

theorem Shuffled.halt (h : Shuffled s t) (hs : Driven o s) (ht : Driven o' t) :
    Shuffled (s.perform .halt).1 (t.perform .halt).1 := by
  cases hrun : s.stage.running with
  | false =>
    have hrest : t.stage.running = false := by rw [← h.running, hrun]
    obtain ⟨s₁, j, hfollows, heq⟩ := attempt_follows s .stopRun (·.isSome)
    obtain ⟨t₁, j', hfollows', heq'⟩ := attempt_follows t .stopRun (·.isSome)
    obtain rfl := hfollows.idle (by simp [Stage.reduce, Stage.stopRun, hrun])
    obtain rfl := hfollows'.idle (by simp [Stage.reduce, Stage.stopRun, hrest])
    rw [show (s₁.perform .halt).1 = _ from heq, show (t₁.perform .halt).1 = _ from heq']
    exact { h with }
  | true =>
    have hrun' : t.stage.running = true := by rw [← h.running, hrun]
    obtain ⟨j, heq⟩ := perform_halt hrun hs.wired.following
    obtain ⟨j', heq'⟩ := perform_halt hrun' ht.wired.following
    rw [heq, heq']
    exact ⟨h.actors, rfl, h.states, h.overlaps.reset⟩

/-- A frame runs on both sides or on none. -/
theorem Shuffled.step (h : Shuffled s t) (hs : Driven o s) (ht : Driven o' t)
    (hsettings : o'.rules.settings = o.rules.settings) (hok : (s.perform .step).2 = none)
    (hok' : (t.perform .step).2 = none) :
    Shuffled (s.perform .step).1 (t.perform .step).1 := by
  have hi : s.interpreter = t.interpreter := by
    rw [hs.wired.interpreter, ht.wired.interpreter]
    simp only [prepared, hsettings]
  have hwaits : t.awaited.isSome = s.awaited.isSome := by
    rw [hs.tracked.isSome_awaited, ht.tracked.isSome_awaited, hs.wired.following,
      ht.wired.following, h.running]
  have hleft := step_played hs.tracked.scheduled hs.orderly hs.wired.reacts hok
  have hright := step_played ht.tracked.scheduled ht.orderly ht.wired.reacts hok'
  rw [hwaits] at hright
  split at hleft
  · rename_i hsome
    rw [if_pos hsome] at hright
    obtain ⟨-, r, g, m, hp⟩ := hleft
    obtain ⟨-, r', g', m', hq⟩ := hright
    exact h.played hs.orderly ht.orderly hi hp hq
  · rename_i hnone
    rw [if_neg hnone] at hright
    rw [hleft.1, hright.1]
    exact h

theorem Shuffled.after {ops : List SessionOp} (h : Shuffled s t) (hs : Driven o s)
    (ht : Driven o' t) (hsettings : o'.rules.settings = o.rules.settings)
    (hops : ∀ op ∈ ops, op.drives = true) (hframes : s.unfailing ops = true)
    (hframes' : t.unfailing ops = true) :
    Shuffled (s.after ops) (t.after ops) ∧ Driven o (s.after ops) ∧ Driven o' (t.after ops) := by
  induction ops generalizing s t with
  | nil => exact ⟨h, hs, ht⟩
  | cons op ops ih =>
    obtain ⟨hop, hrest⟩ := List.forall_mem_cons.mp hops
    obtain ⟨hok, hlater⟩ := unfailing_cons.mp hframes
    obtain ⟨hok', hlater'⟩ := unfailing_cons.mp hframes'
    refine ih ?_ (hs.perform hop hok) (ht.perform hop hok') hrest hlater hlater'
    cases op with
    | start => exact h.start hs ht
    | halt => exact h.halt hs ht
    | step => exact h.step hs ht hsettings (hok rfl) (hok' rfl)
    | _ => cases hop

theorem create_shuffled (hinitial : o.initial.WellFormed) (hinitial' : o'.initial.WellFormed)
    (hcollisions : o'.collisions = o.collisions) (hrunning : o'.initial.running = o.initial.running)
    (hroster : o.initial.actors.Perm o'.initial.actors) : Shuffled (create o) (create o') := by
  have hmonitor : (prepared o).monitor = (prepared o').monitor := by
    simp only [prepared, hcollisions]
  obtain ⟨hstage, hmade⟩ := create_prepared o
  obtain ⟨hstage', hmade'⟩ := create_prepared o'
  refine ⟨by rw [hstage, hstage']; exact hroster, by rw [hstage, hstage', hrunning],
    fun id hid => ?_, ?_⟩
  · rw [hstage] at hid
    obtain ⟨a, ha, rfl⟩ := List.mem_map.mp hid
    rw [create_executions hinitial ha, create_executions hinitial' (hroster.subset ha)]
  · rw [hmade, hmade', hmonitor]
    exact .refl _

/-- The order of the roster is not seen in what becomes of the actors: of two sessions that are made
alike over the same actors in different orders, each goes through the same states of each actor, its
script among them, as long as no frame fails. -/
theorem roster_order_unseen (o o' : SessionOptions) {h h' : FrameHost FrameRequest}
    (hhost : o.host = .manual h) (hpending : h.pending = []) (hhost' : o'.host = .manual h')
    (hpending' : h'.pending = []) (hinitial : o.initial.WellFormed)
    (hinitial' : o'.initial.WellFormed) (hsettings : o'.rules.settings = o.rules.settings)
    (hcollisions : o'.collisions = o.collisions) (hrunning : o'.initial.running = o.initial.running)
    (hroster : o.initial.actors.Perm o'.initial.actors) {ops : List SessionOp}
    (hops : ∀ op ∈ ops, op.drives = true) (hframes : (create o).unfailing ops = true)
    (hframes' : (create o').unfailing ops = true) :
    ((create o).after ops).stage.running = ((create o').after ops).stage.running ∧
      ∀ id : String, ((create o).after ops).stage.actor? id =
        ((create o').after ops).stage.actor? id ∧
        ((create o).after ops).executions.get? id = ((create o').after ops).executions.get? id := by
  obtain ⟨hshuffled, hdriven, hdriven'⟩ :=
    (create_shuffled hinitial hinitial' hcollisions hrunning hroster).after
    (create_driven hhost hpending hinitial)
      (create_driven hhost' hpending' hinitial') hsettings hops hframes hframes'
  refine ⟨hshuffled.running, fun id => ⟨?actor, ?state⟩⟩
  case actor => exact Stage.actor?_of_perm hshuffled.actors hdriven'.orderly.wellFormed.actorIds id
  case state =>
    by_cases hid : id ∈ ((create o).after ops).stage.ids
    · exact hshuffled.states id hid
    · -- no state is kept of an actor that is not there
      have hid' : id ∉ ((create o').after ops).stage.ids :=
        fun hmem => hid ((hshuffled.actors.map _).symm.subset hmem)
      rw [hdriven.orderly.states.others id hid, hdriven'.orderly.states.others id hid']

/-- The crowded stage with its roster turned round. -/
def turnedStage : SessionOptions :=
  { crowdedStage with initial := { actors := crowdedStage.initial.actors.reverse } }

/-- The dog is in both collisions of the first round, which are answered in different orders. -/
theorem roster_order_unseen_turnedStage :
    (((create crowdedStage).collisionLog twoRuns).take 2).map (fun e => (e.first, e.second)) =
        [("cat-1", "dog-1"), ("dog-1", "owl-1")] ∧
      (((create turnedStage).collisionLog twoRuns).take 2).map (fun e => (e.first, e.second)) =
        [("dog-1", "owl-1"), ("cat-1", "dog-1")] ∧
      ((create crowdedStage).after twoRuns).stage.running =
        ((create turnedStage).after twoRuns).stage.running ∧
      ∀ id : String,
        ((create crowdedStage).after twoRuns).stage.actor? id =
          ((create turnedStage).after twoRuns).stage.actor? id ∧
          ((create crowdedStage).after twoRuns).executions.get? id =
            ((create turnedStage).after twoRuns).executions.get? id := by
  refine ⟨by decide +kernel, by decide +kernel, ?_⟩
  have hroster : crowdedStage.initial.actors.Perm turnedStage.initial.actors :=
    (List.reverse_perm _).symm
  exact roster_order_unseen crowdedStage turnedStage rfl rfl rfl rfl (by decide)
    (by decide) rfl rfl rfl hroster
    (by decide : ∀ op ∈ twoRuns, op.drives = true) (by decide +kernel) (by decide +kernel)

end Session

end ScriptedStage
