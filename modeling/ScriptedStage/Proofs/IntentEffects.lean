import ScriptedStage.Proofs.Printing
import ScriptedStage.Proofs.StageShape
import ScriptedStage.Stage.Store

/-!
What an intent can do. `Stage.Change` lists the changes of a stage, one for each way in which an
intent is accepted, and `Stage.reduce_change` says that there are no others. What holds of every
change is proved from this list.

A store tells what came to it before it applies an intent. The one note that can fail to be printed
is this announcement: the notes of the intent itself have known texts. So `Store.perform_intent` has
two cases only. An announcement that cannot be printed stops the intent and leaves the store as it
was; otherwise the store goes on with what the stage makes of the intent.
-/
namespace ScriptedStage

/-! ## Notes -/

namespace Script

mutual
theorem insertBelow_plain (container : String) (new : Block) :
    ∀ b : Block, ∀ n ∈ (insertBelow container new b).2, n.Plain
  | ⟨_, _, _, none⟩ => by simp [insertBelow]
  | ⟨_, _, _, some cs⟩ => by
    have hkids := insertAmong_plain container new cs
    simp only [insertBelow]
    split <;> rename_i hcs <;> rw [hcs] at hkids <;> exact hkids
theorem insertAmong_plain (container : String) (new : Block) :
    ∀ bs : List Block, ∀ n ∈ (insertAmong container new bs).notes, n.Plain
  | [] => by simp [insertAmong]
  | b :: bs => by
    have hbelow := insertBelow_plain container new b
    have hrest := insertAmong_plain container new bs
    simp only [insertAmong]
    split
    · split
      · intro n hn
        dsimp only at hn
        split at hn
        · rw [List.mem_singleton.mp hn]
          exact ⟨_, rfl⟩
        · cases hn
      · intro n hn
        rw [List.mem_singleton.mp hn]
        exact ⟨_, rfl⟩
    · split <;> rename_i hb <;> rw [hb] at hbelow
      · exact hbelow
      · split <;> exact List.forall_mem_append.mpr ⟨hbelow, hrest⟩
end

theorem insert_plain (s : Script) (container : String) (new : Block) :
    ∀ n ∈ (s.insert container new).2, n.Plain := by
  have hnotes := insertAmong_plain container new s
  unfold insert
  split <;> rename_i hs <;> rw [hs] at hnotes <;> exact hnotes

end Script

namespace Stage

variable {rules : StageRules} {s t : Stage} {i : Intent}

theorem storeNote_plain (level : Level) (text : String) : (storeNote level text).Plain := ⟨text, rfl⟩

theorem editScript_plain {id : String} {edit : Script → Option Script × List Note}
    (h : ∀ script, ∀ n ∈ (edit script).2, n.Plain) : ∀ n ∈ (s.editScript id edit).2, n.Plain := by
  unfold editScript
  split
  · simp [storeNote_plain]
  · exact h _

theorem guarded_plain {id : String} {new : Block} {edit : Script → Option Script × List Note}
    (h : ∀ script, ∀ n ∈ (edit script).2, n.Plain) (script : Script) :
    ∀ n ∈ (guarded id new edit script).2, n.Plain := by
  unfold guarded
  split
  · exact h script
  · simp [storeNote_plain]

/-- The text of every note that an intent leaves is known. -/
theorem reduce_plain (rules : StageRules) (s : Stage) (i : Intent) :
    ∀ n ∈ (s.reduce rules i).2, n.Plain := by
  cases i with
  | addActor kind x y =>
    simp only [reduce, addActor]
    split <;> simp [storeNote_plain]
  | removeActor id =>
    simp only [reduce, removeActor]
    split <;> simp [storeNote_plain]
  | selectActor id =>
    simp only [reduce, selectActor]
    split
    · simp
    · split
      · simp
      · split <;> simp [storeNote_plain]
  | addBlock id b => exact editScript_plain (guarded_plain fun _ => by simp)
  | addBlockTo id c b =>
    refine editScript_plain (guarded_plain fun script => ?_)
    have hnotes := script.insert_plain c b.prune
    split <;> rename_i hinsert <;> rw [hinsert] at hnotes
    · exact hnotes
    · exact List.forall_mem_append.mpr ⟨hnotes, by simp [storeNote_plain]⟩
  | removeBlock id b => exact editScript_plain fun _ => by simp
  | startRun =>
    simp only [reduce, startRun]
    split <;> simp [storeNote_plain]
  | stopRun =>
    simp only [reduce, stopRun]
    split <;> simp [storeNote_plain]
  | updateActor id p =>
    simp only [reduce, updateActor]
    split
    · simp
    · split <;> simp [storeNote_plain]
  | handleCollision a b =>
    simp only [reduce, handleCollision]
    split
    · split <;> simp [storeNote_plain]
    · simp [storeNote_plain]

/-! ## Changes of a stage -/

/-- An edit of a script is accepted if the actor is there and the edit gives a new script. -/
theorem editScript_eq (s : Stage) (id : String) (edit : Script → Option Script × List Note) :
    (s.editScript id edit).1 =
      (s.actor? id).bind fun a => (edit a.script).1.map fun script =>
        s.putActor id { a with script := script } := by
  unfold editScript
  cases s.actor? id <;> rfl

/-- Where every actor keeps its id, the actor with an id is what became of the one that had it. -/
theorem actor?_map {f : Actor → Actor} (hf : ∀ a ∈ s.actors, (f a).id = a.id)
    (ht : t.actors = s.actors.map f) (id : String) : t.actor? id = (s.actor? id).map f := by
  have hfind : ∀ actors : List Actor, (∀ a ∈ actors, (f a).id = a.id) →
      (actors.map f).find? (fun a => a.id = id) = (actors.find? fun a => a.id = id).map f := by
    intro actors hactors
    induction actors with
    | nil => rfl
    | cons a rest ih =>
      obtain ⟨ha, hrest⟩ := List.forall_mem_cons.mp hactors
      rw [List.map_cons, List.find?_cons, List.find?_cons, ha, ih hrest]
      cases decide (a.id = id) <;> rfl
  unfold actor?
  rw [ht]
  exact hfind s.actors hf

theorem actor?_putActor {id : String} {a b : Actor} (ha : s.actor? id = some a) (hb : b.id = id) :
    (s.putActor id b).actor? id = some b := by
  have hput : ∀ c ∈ s.actors, (if c.id = id then b else c).id = c.id := by
    intro c _
    split
    · rename_i hc
      rw [hb, hc]
    · rfl
  rw [actor?_map (f := fun c => if c.id = id then b else c) hput rfl, ha]
  exact congrArg some (if_pos (actor?_mem ha).2)

end Stage

/-- The actor whose script an intent edits block by block. -/
def Intent.scripted? : Intent → Option String
  | .addBlock id _ | .addBlockTo id _ _ | .removeBlock id _ => some id
  | _ => none

namespace Stage

variable {rules : StageRules} {s t : Stage} {i : Intent}

/-- The ways in which an intent changes a stage. -/
inductive Change (s : Stage) : Intent → Stage → Prop where
  /-- An actor with a new id joins and is selected. -/
  | joined {kind : String} {x y : Float} {a : Actor} (hnew : a.id ∉ s.ids) :
      Change s (.addActor kind x y) { s with actors := s.actors ++ [a], selected := some a.id }
  | gone {id : String} {selected : Option String} (hold : id ∈ s.ids) :
      Change s (.removeActor id)
        { s with actors := s.actors.filter fun a => a.id ≠ id, selected := selected }
  | selected (id : Option String) : Change s (.selectActor id) { s with selected := id }
  | started (hidle : s.running = false) : Change s .startRun { s with running := true }
  | stopped (hrun : s.running = true) : Change s .stopRun { s with running := false }
  | patched {id : String} {p : ActorPatch} {a : Actor} (ha : s.actor? id = some a) :
      Change s (.updateActor id p) (s.putActor id (p.apply a))
  /-- An actor gets a new script, block by block. -/
  | edited {i : Intent} {id : String} {a : Actor} {script : Script} (hi : i.scripted? = some id)
      (ha : s.actor? id = some a) : Change s i (s.putActor id { a with script := script })
  /-- Actors that collided get new scripts. -/
  | reversed {first second : String} {scripts : Assoc Script}
      (hkeys : ∀ id script, scripts.get? id = some script → id = first ∨ id = second) :
      Change s (.handleCollision first second) (s.putScripts scripts)

theorem editScript_change {id : String} {edit : Script → Option Script × List Note}
    (hi : i.scripted? = some id) (h : (s.editScript id edit).1 = some t) : Change s i t := by
  rw [editScript_eq] at h
  obtain ⟨a, ha, hscript⟩ := Option.bind_eq_some_iff.mp h
  obtain ⟨script, -, rfl⟩ := Option.map_eq_some_iff.mp hscript
  exact .edited hi ha

/-- **Every accepted intent makes one of these changes.** -/
theorem reduce_change (h : (s.reduce rules i).1 = some t) : Change s i t := by
  cases i with
  | addActor kind x y =>
    simp only [reduce, addActor] at h
    split at h
    · cases h
    · obtain rfl := Option.some.inj h
      exact .joined (freeActorId_not_mem kind s.ids)
  | removeActor id =>
    simp only [reduce, removeActor] at h
    split at h
    · cases h
    · rename_i a ha
      obtain ⟨hmem, rfl⟩ := actor?_mem ha
      obtain rfl := Option.some.inj h
      exact .gone (List.mem_map_of_mem hmem)
  | selectActor id =>
    simp only [reduce, selectActor] at h
    split at h
    · cases h
    · split at h
      · obtain rfl := Option.some.inj h
        exact .selected none
      · split at h
        · cases h
        · obtain rfl := Option.some.inj h
          exact .selected _
  | addBlock id b => exact editScript_change rfl h
  | addBlockTo id c b => exact editScript_change rfl h
  | removeBlock id b => exact editScript_change rfl h
  | startRun =>
    simp only [reduce, startRun] at h
    split at h
    · cases h
    · rename_i hrun
      obtain rfl := Option.some.inj h
      exact .started (Bool.not_eq_true _ ▸ hrun)
  | stopRun =>
    simp only [reduce, stopRun] at h
    split at h
    · rename_i hrun
      obtain rfl := Option.some.inj h
      exact .stopped hrun
    · cases h
  | updateActor id p =>
    simp only [reduce, updateActor] at h
    split at h
    · cases h
    · split at h
      · cases h
      · rename_i a ha
        obtain rfl := Option.some.inj h
        exact .patched ha
  | handleCollision first second =>
    simp only [reduce, handleCollision] at h
    split at h
    · rename_i a b ha hb
      split at h
      · cases h
      · obtain rfl := Option.some.inj h
        refine .reversed fun id script hget => ?_
        rcases WellFormed.reversal_some hget with ⟨rfl, -⟩ | ⟨rfl, -⟩
        · exact .inl (actor?_mem ha).2
        · exact .inr (actor?_mem hb).2
    · cases h

end Stage

/-! ## Intents at a store -/

/-- The note that tells that an intent came. -/
def Intent.announcement (i : Intent) : Note :=
  .form "store" .debug "Intent dispatched: %s %s" [.str i.action, i.dump]

namespace Journal

/-- Whether a note can be printed, or need not be. -/
def Takes (j : Journal) (n : Note) : Prop := ∃ j', j.write n = .ok j'

theorem takes_congr {j j' : Journal} (h : j.settings = j'.settings) (n : Note) :
    j.Takes n ↔ j'.Takes n := by
  have himp : ∀ {k k' : Journal}, k.settings = k'.settings → k.Takes n → k'.Takes n := by
    rintro k k' hk ⟨k₁, hk₁⟩
    cases hw : k'.write n with
    | error e =>
      rw [write_error hk.symm hw] at hk₁
      cases hk₁
    | ok k₂ => exact ⟨k₂, hw⟩
  exact ⟨himp h, himp h.symm⟩

theorem not_takes_iff {j : Journal} {n : Note} : ¬j.Takes n ↔ ∃ fault, j.write n = .error fault := by
  unfold Takes
  cases j.write n <;> simp

end Journal

namespace Store

variable {s : Store} {i : Intent}

/-- What a store comes to once it has told that an intent came. -/
def settled (s : Store) (i : Intent) (j : Journal) : Store × Except Fault Effect :=
  match (s.stage.reduce s.rules i).1 with
  | none => ({ s with journal := j }, .ok {})
  | some t => ({ s with journal := j, stage := t }, .ok ⟨true, s.active.map (.tell · i.action s.stage t)⟩)

theorem perform_announced (h : s.journal.Takes i.announcement) :
    ∃ j : Journal, j.settings = s.journal.settings ∧ s.perform (.intent i) = s.settled i j := by
  obtain ⟨j₁, hj₁⟩ := h
  obtain ⟨j₂, hj₂⟩ := j₁.writeAll_of_texts (s.stage.reduce_plain s.rules i)
  have hall : s.journal.writeAll (i.announcement :: (s.stage.reduce s.rules i).2) = (j₂, .ok ()) := by
    rw [Journal.writeAll, hj₁]
    exact hj₂
  have hsettle : s.journal.settle ((s.stage.dispatch s.rules i).1, .ok (s.stage.dispatch s.rules i).2) =
      (j₂, .ok (s.stage.reduce s.rules i).1) := by
    rw [Journal.settle_eq]
    exact congrArg (fun r => (r.1, r.2.bind fun _ => .ok (s.stage.reduce s.rules i).1)) hall
  refine ⟨j₂, ?_, ?_⟩
  · have hsettings := s.journal.writeAll_settings (i.announcement :: (s.stage.reduce s.rules i).2)
    rwa [hall] at hsettings
  · simp only [perform, takeUp, settled, hsettle]
    cases (s.stage.reduce s.rules i).1 <;> rfl

theorem perform_unannounced {fault : Fault} (h : s.journal.write i.announcement = .error fault) :
    s.perform (.intent i) = (s, .error fault) := by
  have hall : s.journal.writeAll (i.announcement :: (s.stage.reduce s.rules i).2) =
      (s.journal, .error fault) := by
    rw [Journal.writeAll, h]
  have hsettle : s.journal.settle ((s.stage.dispatch s.rules i).1, .ok (s.stage.dispatch s.rules i).2) =
      (s.journal, .error fault) := by
    rw [Journal.settle_eq]
    exact congrArg (fun r => (r.1, r.2.bind fun _ => .ok (s.stage.reduce s.rules i).1)) hall
  simp only [perform, takeUp, hsettle]

/-- An intent either stops at its announcement, with the store as it was, or is applied. -/
theorem perform_intent (s : Store) (i : Intent) :
    (¬s.journal.Takes i.announcement ∧ ∃ fault, s.perform (.intent i) = (s, .error fault)) ∨
      s.journal.Takes i.announcement ∧
        ∃ j : Journal, j.settings = s.journal.settings ∧ s.perform (.intent i) = s.settled i j := by
  by_cases h : s.journal.Takes i.announcement
  · exact .inr ⟨h, perform_announced h⟩
  · obtain ⟨fault, hfault⟩ := Journal.not_takes_iff.mp h
    exact .inl ⟨h, fault, perform_unannounced hfault⟩

theorem settled_stage (s : Store) (i : Intent) (j : Journal) :
    (s.settled i j).1.stage = (s.stage.reduce s.rules i).1.getD s.stage := by
  unfold settled
  cases (s.stage.reduce s.rules i).1 <;> rfl

end Store

end ScriptedStage
