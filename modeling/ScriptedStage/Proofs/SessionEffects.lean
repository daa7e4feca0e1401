import ScriptedStage.Proofs.StageShape
import ScriptedStage.Session.Operations

/-!
What the parts of a frame leave alone. A patch of an actor and the reversal of a move after a
collision change neither the ids of the actors nor the shape of their scripts, and the scheduler,
which follows each of these changes, keeps the execution state of every actor as it is.

What is proved, for a session with distinct ids whose scheduler knows all actors (`Session.Tidy`):
  1. `Calm.dispatch`: such an intent leaves the run undisturbed (`Session.Undisturbed`);
  2. `Calm.applyDeltas`, `Calm.watch`: so do the changes of a round, and looking for collisions with
     all that follows from them.
-/
namespace ScriptedStage

/-! ## Actions that end well -/

namespace Act

variable {α β : Type} {s s' : Session}

theorem bind_ok {m : Act α} {f : α → Act β} {b : β} :
    (m >>= f) s = (s', .ok b) ↔ ∃ s₁ a, m s = (s₁, .ok a) ∧ f a s₁ = (s', .ok b) := by
  simp only [bind]
  rcases hm : m s with ⟨s₁, _ | a⟩ <;> simp

theorem bind_of_ok {m : Act α} {f : α → Act β} {a : α} (h : m s = (s', .ok a)) : (m >>= f) s = f a s' := by
  simp only [bind]
  rw [h]

theorem read_bind (f : Session → α) (g : α → Act β) (s : Session) : (Act.read f >>= g) s = g (f s) s := rfl

theorem change_bind (f : Session → Session) (g : Unit → Act β) (s : Session) :
    (Act.change f >>= g) s = g () (f s) := rfl

theorem pure_ok {a b : α} : (pure a : Act α) s = (s', .ok b) ↔ s = s' ∧ a = b := by
  show (s, Except.ok a) = (s', .ok b) ↔ _
  simp

theorem read_ok {f : Session → α} {a : α} : Act.read f s = (s', .ok a) ↔ s = s' ∧ f s = a := by
  simp [Act.read]

theorem change_ok {f : Session → Session} {u : Unit} : Act.change f s = (s', .ok u) ↔ f s = s' := by
  simp [Act.change]

theorem report_ok {reported : List Note × Except Fault α} {a : α}
    (h : Act.report reported s = (s', .ok a)) :
    (∃ j, s' = { s with journal := j }) ∧ reported.2 = .ok a := by
  simp only [Act.report, Prod.mk.injEq] at h
  exact ⟨⟨_, h.1.symm⟩, Journal.settle_ok (Prod.ext rfl h.2)⟩

theorem ofExcept_ok {r : Except Fault α} {a : α} (h : Act.ofExcept r s = (s', .ok a)) :
    s = s' ∧ r = .ok a := by
  cases r with
  | error e => cases h
  | ok b => cases h; exact ⟨rfl, rfl⟩

theorem ofChecked_ok {c : Checked α} {a : α} (h : Act.ofChecked c s = (s', .ok a)) :
    s = s' ∧ c = .ok a := by
  obtain ⟨hs, hc⟩ := ofExcept_ok h
  cases c with
  | error e => cases hc
  | ok b => cases hc; exact ⟨hs, rfl⟩

end Act

/-! ## The shape of a stage -/

/-- An actor without what a patch or a reversed move changes. -/
def Actor.shape (a : Actor) : String × Script := (a.id, Block.skeletonAll a.script)

namespace Stage

variable {s s' : Stage}

/-- No two actors have one id, and no two blocks of one script have one id. -/
structure Distinct (s : Stage) : Prop where
  actorIds : s.ids.Nodup
  blockIds : ∀ a ∈ s.actors, a.script.ids.Nodup

instance (s : Stage) : Decidable s.Distinct :=
  decidable_of_iff (s.ids.Nodup ∧ ∀ a ∈ s.actors, a.script.ids.Nodup)
    ⟨fun h => ⟨h.1, h.2⟩, fun h => ⟨h.actorIds, h.blockIds⟩⟩

/-- The actors without what a patch or a reversed move changes. -/
def shapes (s : Stage) : List (String × Script) := s.actors.map Actor.shape

theorem ids_eq_of_shapes (h : s'.shapes = s.shapes) : s'.ids = s.ids := by
  have hids : ∀ t : Stage, t.ids = t.shapes.map (·.1) := fun t => by simp [ids, shapes, Actor.shape]
  rw [hids, hids, h]

/-- Every actor of a stage with the same shapes has a counterpart. -/
theorem exists_of_shapes (h : s'.shapes = s.shapes) {a : Actor} (ha : a ∈ s'.actors) :
    ∃ b ∈ s.actors, b.id = a.id ∧ Block.skeletonAll b.script = Block.skeletonAll a.script := by
  have hmem : a.shape ∈ s.shapes := h ▸ List.mem_map_of_mem ha
  obtain ⟨b, hb, hshape⟩ := List.mem_map.mp hmem
  simp only [Actor.shape, Prod.mk.injEq] at hshape
  exact ⟨b, hb, hshape⟩

theorem Distinct.of_shapes (h : s.Distinct) (hs : s'.shapes = s.shapes) : s'.Distinct := by
  refine ⟨ids_eq_of_shapes hs ▸ h.actorIds, fun a ha => ?_⟩
  obtain ⟨b, hb, -, hskel⟩ := exists_of_shapes hs ha
  rw [← Block.ids_skeletonAll, ← hskel, Block.ids_skeletonAll]
  exact h.blockIds b hb

theorem Distinct.eq_of_id (h : s.Distinct) {a b : Actor} (ha : a ∈ s.actors) (hb : b ∈ s.actors)
    (hid : a.id = b.id) : a = b :=
  List.inj_on_of_nodup_map h.actorIds ha hb hid

theorem updateActor_keeps (h : s.Distinct) {id : String} {patch : ActorPatch}
    (hs : (s.updateActor id patch).1 = some s') : s'.shapes = s.shapes ∧ s'.running = s.running := by
  simp only [updateActor] at hs
  split at hs
  · cases hs
  · split at hs
    · cases hs
    · rename_i a ha
      obtain ⟨hmem, rfl⟩ := actor?_mem ha
      obtain rfl := Option.some.inj hs
      refine ⟨?_, rfl⟩
      simp only [shapes, putActor, List.map_map]
      refine List.map_congr_left fun b hb => ?_
      simp only [Function.comp_apply]
      split
      · rename_i hid
        rw [h.eq_of_id hb hmem hid]
        rfl
      · rfl

theorem handleCollision_keeps (h : s.Distinct) {first second : String}
    (hs : (s.handleCollision first second).1 = some s') :
    s'.shapes = s.shapes ∧ s'.running = s.running := by
  simp only [handleCollision] at hs
  split at hs
  · rename_i a b ha hb
    split at hs
    · cases hs
    · obtain rfl := Option.some.inj hs
      refine ⟨?_, rfl⟩
      simp only [shapes, putScripts, List.map_map]
      refine List.map_congr_left fun c hc => ?_
      simp only [Function.comp_apply]
      split
      · rename_i script hscript
        -- the new script is that of `c` itself with a move reversed, as ids are distinct
        have hneg : c.script.negateFirstMove = some script := by
          rcases WellFormed.reversal_some hscript with ⟨hid, hn⟩ | ⟨hid, hn⟩
          · rwa [← h.eq_of_id (actor?_mem ha).1 hc hid]
          · rwa [← h.eq_of_id (actor?_mem hb).1 hc hid]
        simp only [Actor.shape, Script.negateFirstMove_skeleton (h.blockIds c hc) hneg]
      · rfl
  · cases hs

end Stage

/-! ## The scheduler's states -/

namespace Executions

theorem get?_foldl_other (f : Actor → Execution) (actors : List Actor) (t : Executions) {id : String}
    (h : id ∉ actors.map (·.id)) : (actors.foldl (fun t a => t.set a.id (f a)) t).get? id = t.get? id := by
  induction actors generalizing t with
  | nil => rfl
  | cons a actors ih =>
    simp only [List.map_cons, List.mem_cons, not_or] at h
    rw [List.foldl_cons, ih _ h.2, Assoc.get?_set_ne _ _ h.1]

/-- A table that is filled from a roster with distinct ids has an entry for each actor. -/
theorem get?_foldl_set (f : Actor → Execution) (actors : List Actor) (t : Executions)
    (hnodup : (actors.map (·.id)).Nodup) {a : Actor} (ha : a ∈ actors) :
    (actors.foldl (fun t a => t.set a.id (f a)) t).get? a.id = some (f a) := by
  induction actors generalizing t with
  | nil => cases ha
  | cons b actors ih =>
    rw [List.map_cons, List.nodup_cons] at hnodup
    rw [List.foldl_cons]
    rcases List.mem_cons.mp ha with rfl | hmem
    · rw [get?_foldl_other f actors _ hnodup.1, Assoc.get?_set_self]
    · exact ih _ hnodup.2 hmem

theorem get?_reconcile (previous : Executions) {actors : List Actor} (hnodup : (actors.map (·.id)).Nodup)
    {a : Actor} (ha : a ∈ actors) {e : Execution} (he : previous.get? a.id = some e) :
    (previous.reconcile actors).get? a.id = some { e with eligible := a.script.isEligible } := by
  rw [reconcile, get?_foldl_set _ actors [] hnodup ha, he]

end Executions

namespace Session

variable {s s' : Session}

/-- What applying an intent comes to: nothing but notes, or a new stage that the
scheduler follows. -/
theorem dispatch_ok {i : Intent} {r : Option Stage} (h : dispatch i s = (s', .ok r)) :
    ∃ j, ((s.stage.reduce s.rules i).1 = none ∧ s' = { s with journal := j }) ∨
      ∃ after, (s.stage.reduce s.rules i).1 = some after ∧
        if s.following then follow i s.stage after { s with journal := j, stage := after } = (s', .ok ())
        else s' = { s with journal := j, stage := after } := by
  unfold dispatch at h
  rw [Act.read_bind, Act.read_bind] at h
  obtain ⟨s₂, new, hreport, h⟩ := Act.bind_ok.mp h
  obtain ⟨⟨j, rfl⟩, hnew⟩ := Act.report_ok hreport
  have hreduce : (s.stage.reduce s.rules i).1 = new := Except.ok.inj hnew
  refine ⟨j, ?_⟩
  cases new with
  | none => exact .inl ⟨hreduce, (Act.pure_ok.mp h).1.symm⟩
  | some after =>
    refine .inr ⟨after, hreduce, ?_⟩
    simp only at h
    rw [Act.change_bind, Act.read_bind] at h
    by_cases hf : s.following = true
    · rw [if_pos hf]
      simp only [if_pos hf] at h
      obtain ⟨s₅, _, hfollow, h⟩ := Act.bind_ok.mp h
      obtain ⟨rfl, -⟩ := Act.pure_ok.mp h
      exact hfollow
    · rw [if_neg hf]
      simp only [if_neg hf] at h
      exact (Act.pure_ok.mp h).1.symm

/-- A change of actors while the run goes on or rests only fits the states to the roster. -/
theorem follow_actors {i : Intent} {before after : Stage} (htouch : touchesActors i = true)
    (hrun : after.running = before.running) (s : Session) :
    follow i before after s = ({ s with executions := s.executions.reconcile after.actors }, .ok ()) := by
  unfold follow
  rw [htouch, hrun]
  cases before.running <;> rfl

/-- Ids are distinct, and the scheduler has a state for every actor that knows whether
its script can run. -/
structure Tidy (s : Session) : Prop where
  distinct : s.stage.Distinct
  mirrored : ∀ a ∈ s.stage.actors, ∃ e, s.executions.get? a.id = some e ∧ e.eligible = a.script.isEligible

/-- A run goes on as if nothing had happened: the shapes of the scripts, the scheduler's states of
the actors and the frames it waits for are the same. -/
structure Undisturbed (s s' : Session) : Prop where
  shapes : s'.stage.shapes = s.stage.shapes
  running : s'.stage.running = s.stage.running
  executions : ∀ id ∈ s.stage.ids, s'.executions.get? id = s.executions.get? id
  following : s'.following = s.following
  interpreter : s'.interpreter = s.interpreter
  host : s'.host = s.host
  awaited : s'.awaited = s.awaited
  watching : s'.monitor.isSome = s.monitor.isSome

theorem Undisturbed.refl (s : Session) : Undisturbed s s :=
  ⟨rfl, rfl, fun _ _ => rfl, rfl, rfl, rfl, rfl, rfl⟩

theorem Undisturbed.trans {s₁ s₂ s₃ : Session} (h : Undisturbed s₁ s₂) (h' : Undisturbed s₂ s₃) :
    Undisturbed s₁ s₃ where
  shapes := h'.shapes.trans h.shapes
  running := h'.running.trans h.running
  executions id hid :=
    (h'.executions id (Stage.ids_eq_of_shapes h.shapes ▸ hid)).trans (h.executions id hid)
  following := h'.following.trans h.following
  interpreter := h'.interpreter.trans h.interpreter
  host := h'.host.trans h.host
  awaited := h'.awaited.trans h.awaited
  watching := h'.watching.trans h.watching

theorem Tidy.of_undisturbed (h : s.Tidy) (hu : Undisturbed s s') : s'.Tidy := by
  refine ⟨h.distinct.of_shapes hu.shapes, fun a ha => ?_⟩
  obtain ⟨b, hb, hid, hskel⟩ := Stage.exists_of_shapes hu.shapes ha
  obtain ⟨e, he, helig⟩ := h.mirrored b hb
  refine ⟨e, ?_, ?_⟩
  · rw [← hid, hu.executions b.id (List.mem_map_of_mem hb), he]
  · rw [helig, ← Block.isEligible_skeletonAll, hskel, Block.isEligible_skeletonAll]

/-- An action that leaves a tidy session undisturbed whenever it ends well. -/
def Calm {α : Type} (m : Act α) : Prop :=
  ∀ ⦃s s' : Session⦄ ⦃a : α⦄, s.Tidy → m s = (s', .ok a) → Undisturbed s s'

namespace Calm

variable {α β : Type}

theorem bind {m : Act α} {f : α → Act β} (hm : Calm m) (hf : ∀ a, Calm (f a)) : Calm (m >>= f) := by
  intro s s' b hs h
  obtain ⟨s₁, a, h₁, h₂⟩ := Act.bind_ok.mp h
  have hu := hm hs h₁
  exact hu.trans (hf a (hs.of_undisturbed hu) h₂)

theorem pure (a : α) : Calm (pure a : Act α) := by
  intro s s' b _ h
  obtain ⟨rfl, -⟩ := Act.pure_ok.mp h
  exact .refl s

theorem read (f : Session → α) : Calm (Act.read f) := by
  intro s s' a _ h
  obtain ⟨rfl, -⟩ := Act.read_ok.mp h
  exact .refl s

theorem change {f : Session → Session} (hf : ∀ s, s.Tidy → Undisturbed s (f s)) : Calm (Act.change f) := by
  intro s s' u hs h
  obtain rfl := Act.change_ok.mp h
  exact hf s hs

theorem report (reported : List Note × Except Fault α) : Calm (Act.report reported) := by
  intro s s' a _ h
  obtain ⟨⟨j, rfl⟩, -⟩ := Act.report_ok h
  exact ⟨rfl, rfl, fun _ _ => rfl, rfl, rfl, rfl, rfl, rfl⟩

theorem note (n : Note) : Calm (Act.note n) := report _

theorem ofChecked (c : Checked α) : Calm (Act.ofChecked c) := by
  intro s s' a _ h
  obtain ⟨rfl, -⟩ := Act.ofChecked_ok h
  exact .refl s

theorem emit (source : String) (record : Record) : Calm (emit source record) := by
  intro s s' u _ h
  unfold Session.emit at h
  split at h
  · simp only [Prod.mk.injEq] at h
    obtain ⟨rfl, -⟩ := h
    exact ⟨rfl, rfl, fun _ _ => rfl, rfl, rfl, rfl, rfl, rfl⟩
  · simp only [Prod.mk.injEq] at h
    obtain ⟨rfl, -⟩ := h
    exact .refl s

/-- An intent that keeps the shapes of a stage and does not stop or start the run. -/
theorem dispatch {i : Intent} (htouch : touchesActors i = true)
    (hkeeps : ∀ {rules : StageRules} {stage after : Stage}, stage.Distinct →
      (stage.reduce rules i).1 = some after → after.shapes = stage.shapes ∧ after.running = stage.running) :
    Calm (dispatch i) := by
  intro s s' r hs h
  obtain ⟨j, ⟨-, rfl⟩ | ⟨after, hreduce, h⟩⟩ := dispatch_ok h
  · exact ⟨rfl, rfl, fun _ _ => rfl, rfl, rfl, rfl, rfl, rfl⟩
  · obtain ⟨hshapes, hrun⟩ := hkeeps hs.distinct hreduce
    split at h
    · rw [follow_actors htouch hrun, Prod.mk.injEq] at h
      obtain ⟨rfl, -⟩ := h
      refine ⟨hshapes, hrun, fun id hid => ?_, rfl, rfl, rfl, rfl, rfl⟩
      -- the actor with this id has a state, and fitting it to the roster changes nothing in it
      rw [← Stage.ids_eq_of_shapes hshapes] at hid
      obtain ⟨a, ha, rfl⟩ := List.mem_map.mp hid
      obtain ⟨b, hb, hbid, hskel⟩ := Stage.exists_of_shapes hshapes ha
      obtain ⟨e, he, helig⟩ := hs.mirrored b hb
      rw [hbid] at he
      have hsame : a.script.isEligible = e.eligible := by
        rw [helig, ← Block.isEligible_skeletonAll, ← hskel, Block.isEligible_skeletonAll]
      rw [Executions.get?_reconcile _ (hs.distinct.of_shapes hshapes).actorIds ha he, he, hsame]
    · obtain rfl := h
      exact ⟨hshapes, hrun, fun _ _ => rfl, rfl, rfl, rfl, rfl, rfl⟩

theorem updateActor (id : String) (patch : ActorPatch) : Calm (Session.dispatch (.updateActor id patch)) :=
  Calm.dispatch rfl fun h hs => Stage.updateActor_keeps h hs

theorem handleCollision (first second : String) : Calm (Session.dispatch (.handleCollision first second)) :=
  Calm.dispatch rfl fun h hs => Stage.handleCollision_keeps h hs

/-! ## What happens in a frame after the round -/

theorem applyDeltas : ∀ deltas : List (String × Delta), Calm (applyDeltas deltas)
  | [] => Calm.pure ()
  | (_, _) :: rest => by
    unfold Session.applyDeltas
    exact bind (ofChecked _) fun patch => bind (ofChecked _) fun id =>
      bind (updateActor id patch) fun _ => applyDeltas rest

theorem react (e : CollisionEvent) : Calm (react e) := by
  intro s s' u hs h
  unfold Session.react at h
  obtain ⟨s₁, _, hnote, h⟩ := Act.bind_ok.mp h
  have hu := note _ hs hnote
  obtain ⟨s₂, intent, hintent, h⟩ := Act.bind_ok.mp h
  obtain ⟨rfl, hboth⟩ := Act.ofChecked_ok hintent
  obtain ⟨first, second, -, -, rfl⟩ := Checked.both_ok hboth
  refine hu.trans (bind (handleCollision first second) (fun _ => ?_) (hs.of_undisturbed hu) h)
  exact change fun s _ => ⟨rfl, rfl, fun _ _ => rfl, rfl, rfl, rfl, rfl, rfl⟩

theorem callReactions (e : CollisionEvent) : ∀ reactions, Calm (callReactions e reactions)
  | [] => Calm.pure ()
  | .reverseMoves :: rest => by
    unfold Session.callReactions
    exact bind (react e) fun _ => callReactions e rest

theorem publish (e : CollisionEvent) : Calm (publish e) := by
  unfold Session.publish
  refine bind (read _) fun published => ?_
  refine bind (change fun s _ => ⟨rfl, rfl, fun _ _ => rfl, rfl, rfl, rfl, rfl, rfl⟩) fun _ => ?_
  exact bind (emit _ _) fun _ => bind (report _) fun _ => callReactions e _

theorem announce : ∀ events, Calm (announce events)
  | [] => Calm.pure ()
  | e :: rest => by
    unfold Session.announce
    exact bind (note _) fun _ => bind (publish e) fun _ => announce rest

theorem watch : Calm watch := by
  intro s s' events hs h
  unfold Session.watch at h
  rw [Act.read_bind] at h
  cases hm : s.monitor with
  | none =>
    rw [hm] at h
    obtain ⟨rfl, -⟩ := Act.pure_ok.mp h
    exact .refl s
  | some monitor =>
    simp only [hm] at h
    rw [Act.read_bind] at h
    split at h
    · rw [Act.read_bind, Act.read_bind] at h
      obtain ⟨s₅, found, hreport, h⟩ := Act.bind_ok.mp h
      obtain ⟨⟨j, rfl⟩, -⟩ := Act.report_ok hreport
      rw [Act.change_bind] at h
      -- the monitor is there before and after, so only the announcements are left
      have hu : Undisturbed s { s with journal := j, monitor := some found.1 } :=
        ⟨rfl, rfl, fun _ _ => rfl, rfl, rfl, rfl, rfl, by rw [hm]; rfl⟩
      exact hu.trans (bind (announce _) (fun _ => pure _) (hs.of_undisturbed hu) h)
    · obtain ⟨rfl, -⟩ := Act.pure_ok.mp h
      exact .refl s

end Calm

end Session

end ScriptedStage
