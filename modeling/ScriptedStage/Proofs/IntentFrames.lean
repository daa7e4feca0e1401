import ScriptedStage.Proofs.IntentEffects

/-!
What an intent leaves alone. An intent names at most two actors, and each reducer rebuilds the whole
roster to change them.

What is proved, for stages whose actors have distinct ids:
  1. `Store.intent_frame`: no intent reaches beyond what it is for. The run, the selection, the list
     of ids, the actors that are not named and the other fields of those that are stay as they were;
  2. `Store.edits_commute`: two edits of different actors may come in either order. Each is an edit
     of its own actor alone (`Stage.reduce_local`), so it is answered the same whether the other
     came before it or not. Here the ids need not be distinct.
-/
namespace ScriptedStage

/-! ## Fields of an actor -/

/-- An actor that differs from another at most in some fields. -/
structure Actor.DiffersIn (fields : List String) (a b : Actor) : Prop where
  id : "id" ∈ fields ∨ b.id = a.id
  kind : "kind" ∈ fields ∨ b.kind = a.kind
  x : "x" ∈ fields ∨ b.x = a.x
  y : "y" ∈ fields ∨ b.y = a.y
  heading : "heading" ∈ fields ∨ b.heading = a.heading
  scale : "scale" ∈ fields ∨ b.scale = a.scale
  width : "width" ∈ fields ∨ b.width = a.width
  height : "height" ∈ fields ∨ b.height = a.height
  message : "displayed_message" ∈ fields ∨ b.message = a.message
  script : "script" ∈ fields ∨ b.script = a.script

namespace Actor

variable {a b c : Actor} {fields more : List String}

theorem DiffersIn.refl (fields : List String) (a : Actor) : a.DiffersIn fields a := by
  constructor <;> exact .inr rfl

theorem DiffersIn.script_only (a : Actor) (script : Script) :
    a.DiffersIn ["script"] { a with script := script } := by
  constructor <;> simp

theorem DiffersIn.trans (h : a.DiffersIn fields b) (h' : b.DiffersIn more c) :
    a.DiffersIn (fields ++ more) c := by
  have hjoin : ∀ {α : Type} {name : String} {u v w : α}, (name ∈ fields ∨ v = u) → (name ∈ more ∨ w = v) →
      name ∈ fields ++ more ∨ w = u := by
    rintro α name u v w (h | rfl) (h' | rfl)
    · exact .inl (List.mem_append_left _ h)
    · exact .inl (List.mem_append_left _ h)
    · exact .inl (List.mem_append_right _ h')
    · exact .inr rfl
  exact ⟨hjoin h.id h'.id, hjoin h.kind h'.kind, hjoin h.x h'.x, hjoin h.y h'.y, hjoin h.heading h'.heading,
    hjoin h.scale h'.scale, hjoin h.width h'.width, hjoin h.height h'.height, hjoin h.message h'.message,
    hjoin h.script h'.script⟩

theorem setField_differs {name : String} {v : Value} (h : a.setField name v = .ok b) :
    a.DiffersIn [name] b := by
  unfold setField at h
  split at h <;> cases h <;> constructor <;> simp

/-- Only the fields of a delta change. -/
theorem applyDelta_differs {d : Delta} (h : a.applyDelta d = .ok b) : a.DiffersIn d.keys b := by
  induction d generalizing a with
  | nil =>
    obtain rfl := Except.ok.inj h
    exact .refl _ a
  | cons e rest ih =>
    obtain ⟨name, v⟩ := e
    rw [applyDelta] at h
    cases hset : a.setField name v with
    | error fault =>
      rw [hset] at h
      cases h
    | ok c =>
      rw [hset] at h
      exact (setField_differs hset).trans (ih h)

end Actor

namespace ActorPatch

/-- The fields that a patch can set. -/
def fields : List String := ["x", "y", "heading", "scale", "displayed_message"]

theorem updates_fields (p : ActorPatch) : p.updates.keys ⊆ fields := by
  obtain ⟨x, y, heading, scale, message⟩ := p
  cases x <;> cases y <;> cases heading <;> cases scale <;> cases message <;>
    simp [updates, Assoc.keys, fields]

/-- A patch sets the fields that it has values for, one by one. -/
theorem applyDelta_updates (p : ActorPatch) (a : Actor) : a.applyDelta p.updates = .ok (p.apply a) := by
  obtain ⟨x, y, heading, scale, message⟩ := p
  rcases x with _ | x <;> rcases y with _ | y <;> rcases heading with _ | heading <;>
    rcases scale with _ | scale <;> rcases message with _ | _ | message <;> rfl

end ActorPatch

/-! ## What an intent is about -/

namespace Intent

/-- The actors that an intent names. -/
def named : Intent → List String
  | .addActor .. | .startRun | .stopRun => []
  | .removeActor id => [id]
  | .selectActor id => id.toList
  | .addBlock id _ | .addBlockTo id _ _ | .removeBlock id _ | .updateActor id _ => [id]
  | .handleCollision first second => [first, second]

/-- The actor that an intent takes off the stage. -/
def removed? : Intent → Option String
  | .removeActor id => some id
  | _ => none

/-- Whether an intent may change the selection. -/
def selects : Intent → Bool
  | .addActor .. | .removeActor _ | .selectActor _ => true
  | _ => false

/-- Whether a run is on after an intent, if the intent decides it. -/
def running? : Intent → Option Bool
  | .startRun => some true
  | .stopRun => some false
  | _ => none

/-- The fields of a named actor that an intent may change. -/
def fields : Intent → List String
  | .updateActor _ p => p.updates.keys
  | .addBlock .. | .addBlockTo .. | .removeBlock .. | .handleCollision .. => ["script"]
  | _ => []

end Intent

namespace Stage

variable {rules : StageRules} {s t : Stage} {i : Intent}

/-! ## Frames -/

/-- What an intent does to a roster stays within its frame. -/
structure RosterFramed (i : Intent) (s t : Stage) : Prop where
  /-- The ids change by one that is new at the end, or by one that is deleted. -/
  ids : t.ids = s.ids ∨
    (∃ kind x y new, i = .addActor kind x y ∧ new ∉ s.ids ∧ t.ids = s.ids ++ [new]) ∨
    ∃ id, i = .removeActor id ∧ t.ids = s.ids.erase id
  /-- An actor that is not named is the same as before, and so are those that come before it, but
  for one that is gone. -/
  others : ∀ before a after, s.actors = before ++ a :: after → a.id ∉ i.named → ∃ before' after',
    t.actors = before' ++ a :: after' ∧
      before'.map (·.id) = (before.map (·.id)).filter fun id => i.removed? ≠ some id
  /-- A named actor that stays changes at most in the fields that the intent is about. -/
  named : ∀ id ∈ i.named, i.removed? ≠ some id → ∀ a, s.actor? id = some a → ∃ b,
    t.actor? id = some b ∧ a.DiffersIn i.fields b

/-- What an intent does to a stage stays within its frame. -/
structure Framed (i : Intent) (s t : Stage) : Prop extends RosterFramed i s t where
  running : t.running = i.running?.getD s.running
  selection : i.selects = false → t.selected = s.selected
  /-- A patch sets the fields that it has values for, and these are never the id, the kind, the
  size or the script. -/
  patched : ∀ id p, i = .updateActor id p → p.updates.keys ⊆ ActorPatch.fields ∧
    ∀ a, s.actor? id = some a → ∃ b, t.actor? id = some b ∧ a.applyDelta p.updates = .ok b

/-- A roster that is changed actor by actor. -/
theorem RosterFramed.of_map {f : Actor → Actor} (ht : t.actors = s.actors.map f)
    (hi : ∀ id ∈ s.ids, i.removed? ≠ some id) (hid : ∀ a ∈ s.actors, (f a).id = a.id)
    (hother : ∀ a ∈ s.actors, a.id ∉ i.named → f a = a)
    (hdiffers : ∀ a ∈ s.actors, a.DiffersIn i.fields (f a)) : RosterFramed i s t := by
  refine ⟨.inl ?_, ?_, ?_⟩
  · unfold Stage.ids
    rw [ht, List.map_map]
    exact List.map_congr_left hid
  · intro before a after hs ha
    have hmem : ∀ c ∈ before, c ∈ s.actors := fun c hc => by rw [hs]; simp [hc]
    refine ⟨before.map f, after.map f, ?_, ?_⟩
    · rw [ht, hs, List.map_append, List.map_cons, hother a (by rw [hs]; simp) ha]
    · calc (before.map f).map (·.id)
          = before.map (·.id) := by
            rw [List.map_map]
            exact List.map_congr_left fun c hc => hid c (hmem c hc)
        _ = (before.map (·.id)).filter fun id => i.removed? ≠ some id := by
            refine (List.filter_eq_self.mpr fun id hid => ?_).symm
            obtain ⟨c, hc, rfl⟩ := List.mem_map.mp hid
            exact decide_eq_true (hi c.id (List.mem_map_of_mem (hmem c hc)))
  · intro id _ _ a ha
    exact ⟨f a, by rw [actor?_map hid ht, ha]; rfl, hdiffers a (actor?_mem ha).1⟩

theorem RosterFramed.of_same (ht : t.actors = s.actors) (hi : ∀ id ∈ s.ids, i.removed? ≠ some id) :
    RosterFramed i s t :=
  .of_map (f := id) (by rw [ht, List.map_id]) hi (fun _ _ => rfl) (fun _ _ _ => rfl) fun a _ => .refl _ a

/-- A roster in which one actor is put in the place of another. -/
theorem RosterFramed.of_putActor {id : String} {a b : Actor} (hids : s.ids.Nodup)
    (ha : s.actor? id = some a) (hb : b.id = a.id) (hi : i.removed? = none) (hnamed : id ∈ i.named)
    (hdiffers : a.DiffersIn i.fields b) :
    RosterFramed i s (s.putActor id b) := by
  obtain ⟨hmem, rfl⟩ := actor?_mem ha
  refine .of_map rfl (by simp [hi]) (fun c _ => ?_) (fun c _ hc => if_neg ?_) (fun c hc => ?_)
  · split
    · rename_i hsame
      rw [hb, hsame]
    · rfl
  · intro hsame
    exact hc (hsame ▸ hnamed)
  · split
    · rename_i hsame
      rw [List.inj_on_of_nodup_map hids hc hmem hsame]
      exact hdiffers
    · exact .refl _ c

theorem RosterFramed.of_change (hids : s.ids.Nodup) (h : Change s i t) : RosterFramed i s t := by
  cases h with
  | @joined kind x y a hnew =>
    refine ⟨.inr (.inl ⟨kind, x, y, a.id, rfl, hnew, by simp [Stage.ids]⟩), ?_, ?_⟩
    · intro before c after hs _
      refine ⟨before, after ++ [a], by simp [hs], ?_⟩
      simp [Intent.removed?]
    · intro id hid
      cases hid
  | @gone id selected hold =>
    refine ⟨.inr (.inr ⟨id, rfl, ?_⟩), ?_, ?_⟩
    · rw [hids.erase_eq_filter id]
      simp only [Stage.ids, List.filter_map]
      congr 1
      refine List.filter_congr fun a _ => ?_
      by_cases ha : a.id = id <;> simp [ha]
    · intro before c after hs hc
      have hstays : c.id ≠ id := fun hsame => hc (by simp [Intent.named, hsame])
      refine ⟨before.filter fun a => a.id ≠ id, after.filter fun a => a.id ≠ id, by simp [hs, hstays], ?_⟩
      rw [List.filter_map]
      congr 1
      refine List.filter_congr fun a _ => ?_
      simp [Intent.removed?, eq_comm]
    · intro other hother hstays
      rw [List.mem_singleton.mp hother] at hstays
      exact absurd rfl hstays
  | selected id => exact .of_same rfl (by simp [Intent.removed?])
  | started _ => exact .of_same rfl (by simp [Intent.removed?])
  | stopped _ => exact .of_same rfl (by simp [Intent.removed?])
  | @patched id p a ha =>
    exact .of_putActor hids ha rfl rfl (List.mem_singleton_self id)
      (Actor.applyDelta_differs (p.applyDelta_updates a))
  | @edited i id a script hi ha =>
    have hscript : i.removed? = none ∧ id ∈ i.named ∧ i.fields = ["script"] := by
      cases i <;> cases hi <;> exact ⟨rfl, List.mem_singleton_self _, rfl⟩
    obtain ⟨hstays, hnamed, hfields⟩ := hscript
    exact .of_putActor hids ha rfl hstays hnamed (hfields ▸ .script_only a script)
  | @reversed first second scripts hkeys =>
    refine .of_map rfl (by simp [Intent.removed?]) (fun a _ => ?_) (fun a _ ha => ?_) (fun a _ => ?_)
    · split <;> rfl
    · split
      · rename_i script hscript
        rcases hkeys _ _ hscript with hfirst | hsecond
        · exact absurd (by simp [Intent.named, hfirst]) ha
        · exact absurd (by simp [Intent.named, hsecond]) ha
      · rfl
    · split
      · exact .script_only a _
      · exact .refl _ a

theorem Framed.of_change (hids : s.ids.Nodup) (h : Change s i t) : Framed i s t := by
  refine ⟨.of_change hids h, ?_, ?_, ?_⟩
  · cases h with
    | edited hi _ => cases i <;> cases hi <;> rfl
    | _ => rfl
  · intro hselects
    cases h with
    | joined _ | gone _ | selected _ => cases hselects
    | _ => rfl
  · rintro id p rfl
    refine ⟨p.updates_fields, fun a ha => ⟨p.apply a, ?_, p.applyDelta_updates a⟩⟩
    cases h with
    | @patched _ _ b hb =>
      rw [ha] at hb
      obtain rfl := Option.some.inj hb
      exact actor?_putActor ha (actor?_mem ha).2
    | edited hi _ => cases hi

/-- An intent that is not accepted asks for nothing that is not so already. -/
theorem Framed.of_unchanged (h : (s.reduce rules i).1 = none) : Framed i s s := by
  refine ⟨.of_same rfl ?_, ?_, fun _ => rfl, ?_⟩
  · intro id hid hi
    cases i with
    | removeActor other =>
      obtain rfl := Option.some.inj hi
      obtain ⟨a, ha, hsame⟩ := List.mem_map.mp hid
      simp only [reduce, removeActor] at h
      split at h
      · rename_i hnone
        exact List.find?_eq_none.mp hnone a ha (decide_eq_true hsame)
      · cases h
    | _ => cases hi
  · cases i with
    | startRun =>
      simp only [reduce, startRun] at h
      split at h
      · assumption
      · cases h
    | stopRun =>
      simp only [reduce, stopRun] at h
      split at h
      · cases h
      · rename_i hidle
        exact Bool.not_eq_true _ ▸ hidle
    | _ => rfl
  · rintro id p rfl
    refine ⟨p.updates_fields, fun a ha => ⟨a, ha, ?_⟩⟩
    simp only [reduce, updateActor] at h
    split at h
    · rename_i hempty
      rw [List.isEmpty_iff.mp hempty]
      rfl
    · rw [ha] at h
      cases h

/-- The stage once an intent has come, whether it was accepted or not. -/
def after (rules : StageRules) (s : Stage) (i : Intent) : Stage := (s.reduce rules i).1.getD s

theorem after_framed (h : s.ids.Nodup) (rules : StageRules) (i : Intent) :
    Framed i s (s.after rules i) := by
  unfold after
  cases hi : (s.reduce rules i).1 with
  | none => exact .of_unchanged hi
  | some t => exact .of_change h (reduce_change hi)

end Stage

/-- **Every intent stays within its frame**, for actors with distinct ids. The store takes up what
the stage makes of the intent, or fails as it was. -/
theorem Store.intent_frame (s : Store) (h : s.stage.ids.Nodup) (i : Intent) :
    Stage.Framed i s.stage (s.stage.after s.rules i) ∧
      ((s.perform (.intent i)).1.stage = s.stage.after s.rules i ∨
        ∃ fault, s.perform (.intent i) = (s, .error fault)) := by
  refine ⟨Stage.after_framed h s.rules i, ?_⟩
  rcases s.perform_intent i with ⟨-, hfault⟩ | ⟨-, j, -, hj⟩
  · exact .inr hfault
  · rw [hj]
    exact .inl (s.settled_stage i j)

/-- Three actors, of which the second is selected. -/
def Stage.trio : Stage :=
  { actors :=
      [{ id := "cat-1", script := [⟨"m", BlockType.moveSteps, [.int 10], none⟩] },
       { id := "dog-1", x := .float 40, script := [⟨"r", BlockType.repeatTimes, [.int 2], some []⟩] },
       { id := "cat-2", script := [⟨"m", BlockType.moveSteps, [.int 5], none⟩] }]
    selected := some "dog-1" }

/-- The middle one of three actors is removed, and it collides with the first. -/
theorem Store.intent_frame_trio :
    Stage.trio.ids.Nodup ∧
      Stage.Framed (.removeActor "dog-1") Stage.trio (Stage.trio.after {} (.removeActor "dog-1")) ∧
      Stage.Framed (.handleCollision "cat-1" "dog-1") Stage.trio
        (Stage.trio.after {} (.handleCollision "cat-1" "dog-1")) :=
  ⟨by decide, (intent_frame { stage := Stage.trio } (by decide) _).1,
    (intent_frame { stage := Stage.trio } (by decide) _).1⟩

/-! ## Edits of different actors -/

/-- The one actor that an intent edits: its script block by block, or its other fields. -/
def Intent.edited? : Intent → Option String
  | .addBlock id _ | .addBlockTo id _ _ | .removeBlock id _ | .updateActor id _ => some id
  | _ => none

namespace Stage

variable {rules : StageRules} {s : Stage} {i j : Intent} {a b : String}

theorem editScript_local (id : String) (edit : Script → Option Script × List Note) :
    ∃ f : Actor → Option Actor, (∀ x y, f x = some y → y.id = x.id) ∧
      ∀ s : Stage, (s.editScript id edit).1 = (s.actor? id).bind fun x => (f x).map (s.putActor id) := by
  refine ⟨fun x => (edit x.script).1.map fun script => { x with script := script }, ?_, ?_⟩
  · intro x y hy
    obtain ⟨script, -, rfl⟩ := Option.map_eq_some_iff.mp hy
    rfl
  · intro s
    simp only [editScript_eq, Option.map_map]
    rfl

theorem updateActor_local (id : String) (p : ActorPatch) :
    ∃ f : Actor → Option Actor, (∀ x y, f x = some y → y.id = x.id) ∧
      ∀ s : Stage, (s.updateActor id p).1 = (s.actor? id).bind fun x => (f x).map (s.putActor id) := by
  by_cases hempty : p.isEmpty
  · refine ⟨fun _ => none, fun x y hy => (by cases hy), fun s => ?_⟩
    rw [updateActor, if_pos hempty]
    cases s.actor? id <;> rfl
  · refine ⟨fun x => some (p.apply x), ?_, fun s => ?_⟩
    · intro x y hy
      obtain rfl := Option.some.inj hy
      rfl
    · rw [updateActor, if_neg hempty]
      cases s.actor? id <;> rfl

/-- An edit is an edit of its actor alone: whether it is accepted and what becomes of the actor
depends on no other part of the stage. -/
theorem reduce_local (hi : i.edited? = some a) :
    ∃ f : Actor → Option Actor, (∀ x y, f x = some y → y.id = x.id) ∧
      ∀ (rules : StageRules) (s : Stage), (s.reduce rules i).1 = (s.actor? a).bind fun x =>
        (f x).map (s.putActor a) := by
  cases i with
  | addBlock id new =>
    obtain rfl := Option.some.inj hi
    obtain ⟨f, hf, hlocal⟩ :=
      editScript_local id (guarded id new.prune fun script => (some (script.append new.prune), []))
    exact ⟨f, hf, fun _ => hlocal⟩
  | addBlockTo id c new =>
    obtain rfl := Option.some.inj hi
    obtain ⟨f, hf, hlocal⟩ := editScript_local id _
    exact ⟨f, hf, fun _ => hlocal⟩
  | removeBlock id block =>
    obtain rfl := Option.some.inj hi
    obtain ⟨f, hf, hlocal⟩ := editScript_local id fun script => (script.remove block, [])
    exact ⟨f, hf, fun _ => hlocal⟩
  | updateActor id p =>
    obtain rfl := Option.some.inj hi
    obtain ⟨f, hf, hlocal⟩ := updateActor_local id p
    exact ⟨f, hf, fun _ => hlocal⟩
  | _ => cases hi

theorem actor?_putActor_ne {y : Actor} (hy : y.id = b) (hne : a ≠ b) :
    (s.putActor b y).actor? a = s.actor? a := by
  rw [actor?_map (s := s) (f := fun c => if c.id = b then y else c) (fun c _ => ?_) rfl]
  · cases ha : s.actor? a with
    | none => rfl
    | some x => exact congrArg some (if_neg fun hx => hne ((actor?_mem ha).2.symm.trans hx))
  · split
    · rename_i hc
      rw [hy, hc]
    · rfl

theorem putActor_comm {x y : Actor} (hx : x.id = a) (hy : y.id = b) (hne : a ≠ b) :
    (s.putActor b y).putActor a x = (s.putActor a x).putActor b y := by
  simp only [putActor, List.map_map]
  congr 1
  refine List.map_congr_left fun c _ => ?_
  by_cases hca : c.id = a
  · simp [hca, hne, hx]
  · by_cases hcb : c.id = b
    · simp [hcb, hne.symm, hy]
    · simp [hca, hcb]

/-- An edit comes to the same after another actor was put in. -/
theorem reduce_putActor (hi : i.edited? = some a) {y : Actor} (hy : y.id = b) (hne : a ≠ b) :
    ((s.putActor b y).reduce rules i).1 = (s.reduce rules i).1.map (·.putActor b y) := by
  obtain ⟨f, hf, hlocal⟩ := reduce_local hi
  rw [hlocal, hlocal, actor?_putActor_ne hy hne]
  cases ha : s.actor? a with
  | none => rfl
  | some x =>
    cases hfx : f x with
    | none => simp [hfx]
    | some z =>
      have hz : z.id = a := (hf x z hfx).trans (actor?_mem ha).2
      simp [hfx, putActor_comm hz hy hne]

/-- An edit that is accepted puts in an actor with the id that it names. -/
theorem reduce_edited {t : Stage} (hj : j.edited? = some b) (h : (s.reduce rules j).1 = some t) :
    ∃ y : Actor, y.id = b ∧ t = s.putActor b y := by
  obtain ⟨f, hf, hlocal⟩ := reduce_local hj
  rw [hlocal] at h
  obtain ⟨x, hx, hmap⟩ := Option.bind_eq_some_iff.mp h
  obtain ⟨y, hy, rfl⟩ := Option.map_eq_some_iff.mp hmap
  exact ⟨y, (hf x y hy).trans (actor?_mem hx).2, rfl⟩

/-- An edit comes to the same before and after an edit of another actor. -/
theorem reduce_after (hi : i.edited? = some a) (hj : j.edited? = some b) (hne : a ≠ b) :
    ((s.after rules j).reduce rules i).1 = (s.reduce rules i).1.map fun t => t.after rules j := by
  have hswap : ∀ t, (s.reduce rules i).1 = some t → ∃ x : Actor, x.id = a ∧ t = s.putActor a x ∧
      (t.reduce rules j).1 = (s.reduce rules j).1.map (·.putActor a x) := by
    intro t ht
    obtain ⟨x, hx, rfl⟩ := reduce_edited hi ht
    exact ⟨x, hx, rfl, reduce_putActor hj hx hne.symm⟩
  cases hs : (s.reduce rules j).1 with
  | none =>
    rw [after, hs, Option.getD_none]
    cases ht : (s.reduce rules i).1 with
    | none => rfl
    | some t =>
      obtain ⟨x, -, -, hafter⟩ := hswap t ht
      rw [hs] at hafter
      simp [after, hafter]
  | some u =>
    obtain ⟨y, hy, rfl⟩ := reduce_edited hj hs
    rw [after, hs, Option.getD_some, reduce_putActor hi hy hne]
    cases ht : (s.reduce rules i).1 with
    | none => rfl
    | some t =>
      obtain ⟨x, hx, rfl, hafter⟩ := hswap t ht
      rw [hs] at hafter
      simp [after, hafter, putActor_comm hx hy hne]

theorem after_comm (hi : i.edited? = some a) (hj : j.edited? = some b) (hne : a ≠ b) :
    (s.after rules j).after rules i = (s.after rules i).after rules j := by
  calc (s.after rules j).after rules i
      = ((s.reduce rules i).1.map fun t => t.after rules j).getD (s.after rules j) := by
        rw [after, reduce_after hi hj hne]
    _ = (s.after rules i).after rules j := by
        rw [after.eq_def rules s i]
        cases (s.reduce rules i).1 <;> rfl

end Stage

namespace Store

variable {s : Store} {i j : Intent} {a b : String}

/-- The store once an intent has come. -/
def taking (s : Store) (i : Intent) : Store := (s.perform (.intent i)).1

/-- Whether an intent is accepted, unless it fails. -/
def answer (s : Store) (i : Intent) : Except Fault Bool := (s.perform (.intent i)).2.map (·.changed)

theorem settled_keeps (s : Store) (i : Intent) (j : Journal) :
    (s.settled i j).1.rules = s.rules ∧ (s.settled i j).1.journal = j ∧
      (s.settled i j).2.map (·.changed) = .ok (s.stage.reduce s.rules i).1.isSome := by
  unfold settled
  cases (s.stage.reduce s.rules i).1 <;> exact ⟨rfl, rfl, rfl⟩

/-- An intent changes neither the rules nor what is printed. -/
theorem taking_keeps (s : Store) (i : Intent) :
    (s.taking i).rules = s.rules ∧ (s.taking i).journal.settings = s.journal.settings := by
  unfold taking
  rcases s.perform_intent i with ⟨-, fault, hfault⟩ | ⟨-, k, hk, hperform⟩
  · rw [hfault]
    exact ⟨rfl, rfl⟩
  · obtain ⟨hrules, hjournal, -⟩ := s.settled_keeps i k
    rw [hperform, hjournal]
    exact ⟨hrules, hk⟩

theorem taking_stage (h : s.journal.Takes i.announcement) :
    (s.taking i).stage = s.stage.after s.rules i := by
  obtain ⟨k, -, hperform⟩ := perform_announced h
  rw [taking, hperform]
  exact s.settled_stage i k

theorem taking_stopped (h : ¬s.journal.Takes i.announcement) : s.taking i = s := by
  obtain ⟨fault, hfault⟩ := Journal.not_takes_iff.mp h
  rw [taking, perform_unannounced hfault]

/-- The answer depends on the settings of the journal, and on whether the stage
accepts the intent. -/
theorem answer_congr {t : Store} (hsettings : s.journal.settings = t.journal.settings)
    (haccepts : (s.stage.reduce s.rules i).1.isSome = (t.stage.reduce t.rules i).1.isSome) :
    s.answer i = t.answer i := by
  unfold answer
  by_cases h : s.journal.Takes i.announcement
  · obtain ⟨k, -, hs⟩ := perform_announced h
    obtain ⟨k', -, ht⟩ := perform_announced ((Journal.takes_congr hsettings _).mp h)
    rw [hs, ht, (s.settled_keeps i k).2.2, (t.settled_keeps i k').2.2, haccepts]
  · obtain ⟨fault, hfault⟩ := Journal.not_takes_iff.mp h
    rw [perform_unannounced hfault, perform_unannounced (Journal.write_error hsettings hfault)]

theorem answer_taking (hi : i.edited? = some a) (hj : j.edited? = some b) (hne : a ≠ b) :
    (s.taking j).answer i = s.answer i := by
  obtain ⟨hrules, hsettings⟩ := s.taking_keeps j
  by_cases h : s.journal.Takes j.announcement
  · refine answer_congr hsettings ?_
    rw [hrules, taking_stage h, Stage.reduce_after hi hj hne, Option.isSome_map]
  · rw [taking_stopped h]

/-- **Edits of different actors may come in either order**: the stage becomes the same, and each
edit has the answer that it would have had alone. -/
theorem edits_commute (s : Store) (hi : i.edited? = some a) (hj : j.edited? = some b) (hne : a ≠ b) :
    ((s.taking i).taking j).stage = ((s.taking j).taking i).stage ∧
      (s.taking j).answer i = s.answer i ∧ (s.taking i).answer j = s.answer j := by
  refine ⟨?_, answer_taking hi hj hne, answer_taking hj hi hne.symm⟩
  obtain ⟨hrulesi, hsettingsi⟩ := s.taking_keeps i
  obtain ⟨hrulesj, hsettingsj⟩ := s.taking_keeps j
  by_cases hti : s.journal.Takes i.announcement
  · by_cases htj : s.journal.Takes j.announcement
    · rw [taking_stage ((Journal.takes_congr hsettingsi _).mpr htj),
        taking_stage ((Journal.takes_congr hsettingsj _).mpr hti), taking_stage hti,
        taking_stage htj, hrulesi, hrulesj, Stage.after_comm hi hj hne]
    · rw [taking_stopped htj, taking_stopped (mt (Journal.takes_congr hsettingsi _).mp htj)]
  · rw [taking_stopped hti, taking_stopped (mt (Journal.takes_congr hsettingsj _).mp hti)]

/-- An edit that is refused and one that is accepted, of two actors whose blocks have
the same id. -/
theorem edits_commute_trio :
    let i : Intent := .addBlock "cat-1" ⟨"m", BlockType.say, [.str "hi"], none⟩
    let j : Intent := .removeBlock "cat-2" "m"
    let s : Store := { stage := Stage.trio }
    ((s.taking i).taking j).stage = ((s.taking j).taking i).stage ∧
      (s.taking j).answer i = s.answer i ∧ (s.taking i).answer j = s.answer j :=
  edits_commute { stage := Stage.trio } rfl rfl (by decide)

end Store

end ScriptedStage
