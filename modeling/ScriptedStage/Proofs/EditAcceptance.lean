import ScriptedStage.Proofs.IntentEffects

/-!
When an edit of a script is accepted. Blocks are added at the top level, added to a container, or
removed with all that is in them. `ScriptEdit.Allowed` says of a script, without the search for the
place, which of these edits it takes, and `ScriptEdit.Leaves` says which ids it has afterwards.

What is proved:
  1. `ScriptEdit.result_isSome_iff`: a script with distinct ids takes exactly the edits that are
     allowed. This is where the search is followed: it ends at a block that is no container, and
     with distinct ids there is no other to be found;
  2. `ScriptEdit.result_leaves`: the ids of the new script are those of the old one with those of
     the new block, or without those of the removed one;
  3. `Store.edit_accepted_iff`: a store accepts an edit exactly if the actor is there, the edit is
     allowed, and the note that tells of the edit can be printed. The last is needed:
     `Store.long_literal_stops_edit` is an edit that is allowed and is lost.
-/
namespace ScriptedStage

namespace Script

variable {s : Script} {id container : String} {b new : Block}

theorem mem_preorder_cons {c : Block} :
    c ∈ preorder (b :: s) ↔ c = b ∨ c ∈ preorder b.kids ∨ c ∈ preorder s := by
  simp [preorder, Block.preorderAll, Block.preorder_eq b]

theorem mem_ids : id ∈ s.ids ↔ ∃ c ∈ s.preorder, c.id = id := by
  simp [ids]

theorem nodup_ids_cons : (ids (b :: s)).Nodup ↔
    b.id ∉ ids b.kids ∧ b.id ∉ ids s ∧ (ids b.kids).Nodup ∧ (ids s).Nodup ∧
      (ids b.kids).Disjoint (ids s) := by
  rw [ids_cons, List.nodup_cons, List.nodup_append', List.mem_append, not_or, and_assoc]

/-! ## The search for a container -/

mutual
/-- A block is only inserted into a container with the id. -/
theorem exists_of_insertBelow :
    ∀ {b b' : Block} {notes : List Note}, insertBelow container new b = (some b', notes) →
    ∃ c ∈ preorder b.kids, c.id = container ∧ c.isContainer = true
  | ⟨_, _, _, none⟩, _, _, h => by simp [insertBelow] at h
  | ⟨_, _, _, some cs⟩, _, _, h => by
    simp only [insertBelow] at h
    split at h
    · rename_i hcs
      exact exists_of_insertAmong hcs
    · simp at h
theorem exists_of_insertAmong : ∀ {bs bs' : List Block} {notes : List Note},
    insertAmong container new bs = ⟨.inserted bs', notes⟩ →
    ∃ c ∈ preorder bs, c.id = container ∧ c.isContainer = true
  | [], _, _, h => by simp [insertAmong] at h
  | b :: bs, _, _, h => by
    simp only [mem_preorder_cons]
    simp only [insertAmong] at h
    split at h
    · rename_i hid
      split at h
      · rename_i hcontainer
        exact ⟨b, .inl rfl, hid, hcontainer⟩
      · simp at h
    · split at h
      · rename_i hb
        obtain ⟨c, hc, hfits⟩ := exists_of_insertBelow hb
        exact ⟨c, .inr (.inl hc), hfits⟩
      · split at h
        · rename_i rest' hrest
          have hreport : insertAmong container new bs =
              ⟨.inserted rest', (insertAmong container new bs).notes⟩ := by
            rw [← hrest]
          obtain ⟨c, hc, hfits⟩ := exists_of_insertAmong hreport
          exact ⟨c, .inr (.inr hc), hfits⟩
        · rename_i hne
          simp only [InsertionReport.mk.injEq] at h
          exact absurd h.1 (hne _)
end

mutual
/-- With distinct ids the search does not end before it comes to the container. -/
theorem insertBelow_isSome {c : Block} (hid : c.id = container)
    (hcontainer : c.isContainer = true) : ∀ {b : Block},
    (ids b.kids).Nodup → c ∈ preorder b.kids → (insertBelow container new b).1.isSome = true
  | ⟨_, _, _, none⟩, _, hc => by simp [Block.kids, preorder, Block.preorderAll] at hc
  | ⟨_, _, _, some cs⟩, hnodup, hc => by
    obtain ⟨cs', notes, hcs⟩ : ∃ cs' notes, insertAmong container new cs = ⟨.inserted cs', notes⟩ :=
      insertAmong_of_mem hid hcontainer hnodup hc
    simp [insertBelow, hcs]
theorem insertAmong_of_mem {c : Block} (hid : c.id = container)
    (hcontainer : c.isContainer = true) : ∀ {bs : List Block},
    (ids bs).Nodup → c ∈ preorder bs → ∃ bs' notes, insertAmong container new bs = ⟨.inserted bs', notes⟩
  | [], _, hc => by simp [preorder, Block.preorderAll] at hc
  | b :: bs, hnodup, hc => by
    obtain ⟨-, -, hkids, hrest, -⟩ := nodup_ids_cons.mp hnodup
    rw [insertAmong]
    by_cases hb : b.id = container
    · -- the first match is the container, since no other block has its id
      have hsame : b = c := eq_of_id_eq hnodup (mem_preorder_cons.mpr (.inl rfl)) hc (hb.trans hid.symm)
      rw [if_pos hb, if_pos (hsame ▸ hcontainer)]
      exact ⟨_, _, rfl⟩
    · rw [if_neg hb]
      cases hbelow : insertBelow container new b with
      | mk found notes =>
        cases found with
        | some b' => exact ⟨_, _, rfl⟩
        | none =>
          rcases mem_preorder_cons.mp hc with rfl | hc | hc
          · exact absurd hid hb
          · have hfound := insertBelow_isSome hid hcontainer hkids hc
            rw [hbelow] at hfound
            cases hfound
          · obtain ⟨rest', more, hmore⟩ := insertAmong_of_mem hid hcontainer hrest hc
            simp [hmore]
end

theorem insert_isSome_iff (h : s.ids.Nodup) :
    (s.insert container new).1.isSome = true ↔ ∃ c ∈ s.preorder, c.id = container ∧
      c.isContainer = true := by
  constructor
  · intro hsome
    unfold insert at hsome
    split at hsome
    · rename_i hs
      exact exists_of_insertAmong hs
    · cases hsome
  · rintro ⟨c, hc, hid, hcontainer⟩
    obtain ⟨s', notes, hs⟩ : ∃ s' notes, insertAmong container new s = ⟨.inserted s', notes⟩ :=
      insertAmong_of_mem hid hcontainer h hc
    simp [insert, hs]

/-! ## What a removal takes away -/

mutual
theorem removeBelow_absent : ∀ {b : Block}, id ∉ ids b.kids → removeBelow id b = (b, false)
  | ⟨_, _, _, none⟩, _ => by rw [removeBelow]
  | ⟨_, _, _, some cs⟩, h => by
    have hcs : removeAmong id cs = (cs, false) := removeAmong_absent h
    simp [removeBelow, hcs]
/-- Where no block has the id, nothing is removed. -/
theorem removeAmong_absent : ∀ {bs : List Block}, id ∉ ids bs → removeAmong id bs = (bs, false)
  | [], _ => by rw [removeAmong]
  | b :: bs, h => by
    rw [ids_cons, List.mem_cons, List.mem_append, not_or, not_or] at h
    obtain ⟨hb, hkids, hrest⟩ := h
    simp [removeAmong, removeAmong_absent hrest, removeBelow_absent hkids, Ne.symm hb]
end

mutual
theorem removeBelow_changed : ∀ {b : Block}, id ∈ ids b.kids → (removeBelow id b).2 = true
  | ⟨_, _, _, none⟩, h => by simp [Block.kids] at h
  | ⟨_, _, _, some _⟩, h => by
    rw [removeBelow]
    exact removeAmong_changed h
/-- Where a block has the id, at any depth, something is removed. -/
theorem removeAmong_changed : ∀ {bs : List Block}, id ∈ ids bs → (removeAmong id bs).2 = true
  | [], h => by simp at h
  | b :: bs, h => by
    rw [removeAmong]
    by_cases hb : b.id = id
    · simp [hb]
    · rw [ids_cons, List.mem_cons, List.mem_append] at h
      rcases h with rfl | h | h
      · exact absurd rfl hb
      · simp [hb, removeBelow_changed h]
      · simp [hb, removeAmong_changed h]
end

/-- A script is changed exactly if it has a block with the id. -/
theorem remove_eq (s : Script) (id : String) :
    s.remove id = if id ∈ s.ids then some (removeAmong id s).1 else none := by
  unfold remove
  by_cases h : id ∈ s.ids
  · have hchanged : removeAmong id s = ((removeAmong id s).1, true) := Prod.ext rfl (removeAmong_changed h)
    rw [hchanged, if_pos h]
  · rw [removeAmong_absent h, if_neg h]

theorem remove_isSome_iff : (s.remove id).isSome = true ↔ id ∈ s.ids := by
  rw [remove_eq]
  split <;> simp_all

mutual
/-- With distinct ids a removal below a block takes away one block with all that is in it. -/
theorem count_removeBelow {c : Block} (hid : c.id = id) :
    ∀ {b : Block}, (ids b.kids).Nodup → c ∈ preorder b.kids →
    ∀ i, (ids b.kids).count i = (ids (removeBelow id b).1.kids).count i + (ids [c]).count i
  | ⟨_, _, _, none⟩, _, hc => by simp [Block.kids, preorder, Block.preorderAll] at hc
  | ⟨_, _, _, some cs⟩, hnodup, hc => by
    rw [removeBelow]
    exact count_removeAmong hid hnodup hc
theorem count_removeAmong {c : Block} (hid : c.id = id) :
    ∀ {bs : List Block}, (ids bs).Nodup → c ∈ preorder bs →
    ∀ i, (ids bs).count i = (ids (removeAmong id bs).1).count i + (ids [c]).count i
  | [], _, hc => by simp [preorder, Block.preorderAll] at hc
  | b :: bs, hnodup, hc => by
    obtain ⟨hown, hlater, hkids, hrest, hapart⟩ := nodup_ids_cons.mp hnodup
    intro i
    by_cases hb : b.id = id
    · -- the block itself goes, and no other has its id
      have hsame : b = c := eq_of_id_eq hnodup (mem_preorder_cons.mpr (.inl rfl)) hc (hb.trans hid.symm)
      subst hsame
      have habsent : removeAmong id bs = (bs, false) := removeAmong_absent (hb ▸ hlater)
      simp only [removeAmong, habsent, if_pos hb, ids_cons, ids_nil, List.append_nil,
        List.count_cons, List.count_append]
      omega
    · rcases mem_preorder_cons.mp hc with rfl | hc | hc
      · exact absurd hid hb
      · -- the block goes from below `b`, and what comes after `b` stays
        have habsent : removeAmong id bs = (bs, false) :=
          removeAmong_absent (hapart (mem_ids.mpr ⟨c, hc, hid⟩))
        have hbelow := count_removeBelow hid hkids hc i
        have hsame := (removeBelow_keeps id b).1
        simp only [removeAmong, habsent, if_neg hb, ids_cons, hsame, List.count_cons,
          List.count_append] at hbelow ⊢
        omega
      · have habsent : removeBelow id b = (b, false) :=
          removeBelow_absent fun hmem => hapart hmem (mem_ids.mpr ⟨c, hc, hid⟩)
        have hlater := count_removeAmong hid hrest hc i
        simp only [removeAmong, habsent, if_neg hb, ids_cons, List.count_cons, List.count_append]
          at hlater ⊢
        omega
end

/-- The ids that are left after a removal are those outside the removed block. -/
theorem remove_ids {s' : Script} (hnodup : s.ids.Nodup) (h : s.remove id = some s') :
    ∃ c ∈ s.preorder, c.id = id ∧ ∀ i, i ∈ s'.ids ↔ i ∈ s.ids ∧ i ∉ ids [c] := by
  have hmem : id ∈ s.ids := remove_isSome_iff.mp (by rw [h]; rfl)
  obtain ⟨c, hc, hid⟩ := mem_ids.mp hmem
  have hs' : (removeAmong id s).1 = s' := by
    rw [remove_eq, if_pos hmem] at h
    exact Option.some.inj h
  refine ⟨c, hc, hid, fun i => ?_⟩
  have hcount := count_removeAmong hid hnodup hc i
  have hone := List.nodup_iff_count.mp hnodup i
  rw [hs'] at hcount
  simp only [← List.count_pos_iff]
  omega

end Script

/-! ## Edits that are allowed -/

/-- An edit of a script. Blocks come as they were sent. -/
inductive ScriptEdit where
  | append (sent : Block)
  | insert (container : String) (sent : Block)
  | remove (block : String)

/-- A block whose ids are used once, and not in the script. -/
def Script.Free (s : Script) (new : Block) : Prop :=
  (Script.ids [new]).Nodup ∧ ∀ id ∈ Script.ids [new], id ∉ s.ids

instance (s : Script) (new : Block) : Decidable (s.Free new) := inferInstanceAs (Decidable (_ ∧ _))

theorem Stage.clashes_eq_nil_iff {script : Script} {new : Block} :
    clashes script new = [] ↔ script.Free new := by
  have hsorted : ∀ texts : List String, sortTexts texts = [] ↔ texts = [] := by
    intro texts
    rw [← List.length_eq_zero_iff, ← List.length_eq_zero_iff, sortTexts, List.length_mergeSort]
  rw [clashes, hsorted, List.filter_eq_nil_iff, Script.Free, List.nodup_iff_count]
  simp only [List.mem_eraseDups, List.contains_eq_mem, Bool.or_eq_true, decide_eq_true_eq, not_or,
    Nat.not_lt]
  constructor
  · intro h
    refine ⟨fun id => ?_, fun id hid => (h id hid).1⟩
    by_cases hid : id ∈ Script.ids [new]
    · exact (h id hid).2
    · rw [List.count_eq_zero_of_not_mem hid]
      exact Nat.zero_le 1
  · rintro ⟨honce, hfree⟩ id hid
    exact ⟨hfree id hid, honce id⟩

namespace ScriptEdit

variable {script script' : Script} {e : ScriptEdit}

/-- The intent that asks for an edit of the script of an actor. -/
def intent (actor : String) : ScriptEdit → Intent
  | .append sent => .addBlock actor sent
  | .insert container sent => .addBlockTo actor container sent
  | .remove block => .removeBlock actor block

/-- Whether a script takes an edit. Of a block that is sent only the children of
containers count. -/
def Allowed (script : Script) : ScriptEdit → Prop
  | .append sent => script.Free sent.prune
  | .insert container sent =>
    script.Free sent.prune ∧ ∃ c ∈ script.preorder, c.id = container ∧ c.isContainer = true
  | .remove block => block ∈ script.ids

instance (script : Script) : (e : ScriptEdit) → Decidable (e.Allowed script)
  | .append sent => inferInstanceAs (Decidable (script.Free sent.prune))
  | .insert container sent =>
    inferInstanceAs (Decidable (script.Free sent.prune ∧ ∃ c ∈ script.preorder, c.id = container ∧
      c.isContainer = true))
  | .remove block => inferInstanceAs (Decidable (block ∈ script.ids))

/-- Which ids a script has after an edit. -/
def Leaves (script script' : Script) : ScriptEdit → Prop
  | .append sent | .insert _ sent => ∀ id, id ∈ script'.ids ↔ id ∈ script.ids ∨ id ∈ Script.ids [sent.prune]
  | .remove block => ∃ c ∈ script.preorder, c.id = block ∧ ∀ id, id ∈ script'.ids ↔
    id ∈ script.ids ∧ id ∉ Script.ids [c]

/-- The script after an edit that it takes. -/
def result (script : Script) : ScriptEdit → Option Script
  | .append sent => if script.Free sent.prune then some (script.append sent.prune) else none
  | .insert container sent =>
    if script.Free sent.prune then (script.insert container sent.prune).1 else none
  | .remove block => script.remove block

theorem result_isSome_iff (h : script.ids.Nodup) : (e.result script).isSome = true ↔ e.Allowed script := by
  cases e with
  | append sent => simp [result, Allowed]
  | insert container sent =>
    have hinsert : (script.insert container sent.prune).1.isSome = true ↔ _ := Script.insert_isSome_iff h
    rw [result, Allowed, ← hinsert]
    by_cases hfree : script.Free sent.prune <;> simp [hfree]
  | remove block => exact Script.remove_isSome_iff

theorem result_leaves (h : script.ids.Nodup) (hresult : e.result script = some script') :
    e.Leaves script script' := by
  cases e with
  | append sent =>
    obtain ⟨-, hscript⟩ := Option.ite_none_right_eq_some.mp hresult
    intro id
    rw [← Option.some.inj hscript, Script.append, Script.ids_append, List.mem_append]
  | insert container sent =>
    obtain ⟨-, hinsert⟩ := Option.ite_none_right_eq_some.mp hresult
    obtain ⟨hcount, -⟩ :=
      Script.insert_some (Prod.ext hinsert rfl : script.insert container sent.prune =
        (some script', _))
    intro id
    simp only [← List.count_pos_iff, hcount id]
    omega
  | remove block => exact Script.remove_ids h hresult

/-- An edit that is allowed brings in an id or takes one away. -/
theorem Leaves.ne (hleaves : e.Leaves script script') (hallowed : e.Allowed script) : script' ≠ script := by
  have hown : ∀ b : Block, b.id ∈ Script.ids [b] := by simp [Script.ids_cons]
  rintro rfl
  cases e with
  | append sent => exact hallowed.2 _ (hown sent.prune) ((hleaves _).mpr (.inr (hown sent.prune)))
  | insert container sent =>
    exact hallowed.1.2 _ (hown sent.prune) ((hleaves _).mpr (.inr (hown sent.prune)))
  | remove block =>
    obtain ⟨c, -, rfl, hids⟩ := hleaves
    exact ((hids c.id).mp hallowed).2 (hown c)

end ScriptEdit

namespace Stage

/-- A guarded edit is made if the ids of the new block are free. -/
theorem guarded_fst (id : String) (new : Block) (edit : Script → Option Script × List Note)
    (script : Script) :
    (guarded id new edit script).1 = if script.Free new then (edit script).1 else none := by
  unfold guarded
  by_cases hfree : script.Free new
  · rw [clashes_eq_nil_iff.mpr hfree, if_pos hfree]
  · rw [if_neg hfree]
    split
    · rename_i hnone
      exact absurd (clashes_eq_nil_iff.mp hnone) hfree
    · rfl

/-- An edit gives a new script to its actor. -/
theorem reduce_scriptEdit (rules : StageRules) (s : Stage) (actor : String) (e : ScriptEdit) :
    (s.reduce rules (e.intent actor)).1 =
      (s.actor? actor).bind fun a => (e.result a.script).map fun script =>
        s.putActor actor { a with script := script } := by
  cases e with
  | append sent =>
    simp only [ScriptEdit.intent, reduce, addBlock, editScript_eq, guarded_fst]
    rfl
  | insert container sent =>
    simp only [ScriptEdit.intent, reduce, addBlockTo, editScript_eq, guarded_fst, ScriptEdit.result]
    congr 1
    funext a
    congr 2
    cases a.script.insert container sent.prune with
    | mk found notes => cases found <;> rfl
  | remove block => exact editScript_eq s actor fun script => (script.remove block, [])

/-- Whether the actor is there and its script takes an edit. -/
def Fits (s : Stage) (actor : String) (e : ScriptEdit) : Prop :=
  ∃ a, s.actor? actor = some a ∧ e.Allowed a.script

variable {rules : StageRules} {s : Stage} {actor : String} {e : ScriptEdit}

theorem WellFormed.script_nodup (h : s.WellFormed) {a : Actor} (ha : s.actor? actor = some a) :
    a.script.ids.Nodup :=
  h.blockIds a (actor?_mem ha).1

theorem reduce_of_fits (h : s.WellFormed) {a : Actor} (ha : s.actor? actor = some a)
    (hallowed : e.Allowed a.script) :
    ∃ script, e.Leaves a.script script ∧
      (s.reduce rules (e.intent actor)).1 = some (s.putActor actor { a with script := script }) := by
  have hnodup := h.script_nodup ha
  obtain ⟨script, hscript⟩ :=
    Option.isSome_iff_exists.mp ((ScriptEdit.result_isSome_iff hnodup).mpr hallowed)
  refine ⟨script, ScriptEdit.result_leaves hnodup hscript, ?_⟩
  rw [reduce_scriptEdit, ha, Option.bind_some, hscript, Option.map_some]

theorem reduce_of_not_fits (h : s.WellFormed) (hfits : ¬s.Fits actor e) :
    (s.reduce rules (e.intent actor)).1 = none := by
  rw [reduce_scriptEdit]
  cases ha : s.actor? actor with
  | none => rfl
  | some a =>
    have hrefused : ¬(e.result a.script).isSome = true := fun hsome =>
      hfits ⟨a, ha, (ScriptEdit.result_isSome_iff (h.script_nodup ha)).mp hsome⟩
    rw [Option.bind_some, Option.not_isSome_iff_eq_none.mp hrefused, Option.map_none]

/-- A new script makes a new stage. -/
theorem putActor_script_ne {a : Actor} {script : Script} (ha : s.actor? actor = some a)
    (hne : script ≠ a.script) :
    s.putActor actor { a with script := script } ≠ s := by
  intro hsame
  have hput := actor?_putActor (b := { a with script := script }) ha (actor?_mem ha).2
  rw [hsame, ha] at hput
  exact hne (congrArg Actor.script (Option.some.inj hput)).symm

end Stage

/-! ## Announcements that can be printed -/

namespace Template

/-- Characters before a placeholder are written as they are. -/
theorem fillFrom_text {text : List Char} (h : '%' ∉ text) (values : List Value) (rest : List Char) :
    fillFrom values none (text ++ rest) = (fillFrom values none rest).map (String.ofList text ++ ·) := by
  induction text with
  | nil => cases hrest : fillFrom values none rest <;> simp [hrest, Except.map]
  | cons c text ih =>
    rw [List.mem_cons, not_or] at h
    obtain ⟨hc, htext⟩ := h
    rw [List.cons_append, fillFrom, ih htext]
    · cases fillFrom values none rest with
      | error e => rfl
      | ok t =>
        simp [bind, Except.bind, pure, Except.pure, Except.map, ← String.append_assoc,
          String.ofList_cons]
    · rintro rest' rfl
      exact absurd rfl hc
    · rintro rfl
      exact absurd rfl hc

theorem fillFrom_display (v : Value) (values : List Value) (rest : List Char) :
    fillFrom (v :: values) none ('%' :: 's' :: rest) =
      v.display.bind fun shown => (fillFrom values none rest).map (shown ++ ·) := by
  have hplain : ∀ t, ({} : Placeholder).text t = t := by
    intro t
    simp [Placeholder.text, Placeholder.fill]
  have hopened : fillFrom (v :: values) none ('%' :: 's' :: rest) =
      (v.display.map ({} : Placeholder).text).bind fun shown =>
        (fillFrom values none rest).map (shown ++ ·) := by
    rfl
  rw [hopened]
  cases v.display with
  | error e => rfl
  | ok shown => simp only [Except.map, Except.bind, hplain]

end Template

/-- An announcement shows the fields of the intent, and fails with them. -/
theorem Intent.announcement_text (i : Intent) :
    ∃ f : String → String, i.announcement.text = i.dump.inspect.map f := by
  have hdisplay : i.dump.display = i.dump.inspect := by cases i <;> rfl
  have hmessage : i.announcement.text =
      Template.message "Intent dispatched: %s %s" [.str i.action, i.dump] := rfl
  let f (shown : String) : String :=
    String.ofList "Intent dispatched: ".toList ++ (i.action ++ (String.ofList [' '] ++ (shown ++ "")))
  have hfill : Template.fill "Intent dispatched: %s %s" [.str i.action, i.dump] = i.dump.inspect.map f := by
    calc Template.fill "Intent dispatched: %s %s" [.str i.action, i.dump]
        = Template.fillFrom [.str i.action, i.dump] none
            ("Intent dispatched: ".toList ++ '%' :: 's' :: ([' '] ++ '%' :: 's' :: [])) := rfl
      _ = i.dump.inspect.map f := by
        rw [Template.fillFrom_text (by decide), Template.fillFrom_display,
          Template.fillFrom_text (by decide), Template.fillFrom_display, hdisplay]
        cases i.dump.inspect <;> rfl
  refine ⟨f, ?_⟩
  rw [hmessage]
  cases hdump : i.dump.inspect with
  | ok shown =>
    rw [hdump] at hfill
    simp [Template.message, hfill, Except.map]
  | error e =>
    -- the values do not fit the template, and they cannot be put beside it either
    obtain rfl := Value.inspect_fails _ e hdump
    rw [hdump] at hfill
    simp [Template.message, hfill, Except.map, Value.inspectGroup, Value.inspectItems,
      Value.inspect, hdump, bind, Except.bind]

theorem Journal.write_announcement {j : Journal} {i : Intent} {fault : Fault}
    (h : j.write i.announcement = .error fault) : fault = .badValue := by
  obtain ⟨f, hf⟩ := i.announcement_text
  have htext := write_fails h
  rw [hf] at htext
  exact (Value.inspect_fails _).map f fault htext

theorem Journal.takes_announcement {j : Journal} {i : Intent} :
    j.Takes i.announcement ↔ j.admits i.announcement = false ∨ ∃ text, i.dump.inspect = .ok text := by
  obtain ⟨f, hf⟩ := i.announcement_text
  have htrace : i.announcement.trace = false := rfl
  cases hadmits : j.admits i.announcement with
  | false => simp [Takes, write, htrace, hadmits]
  | true =>
    cases hdump : i.dump.inspect <;> rw [hdump] at hf <;>
      simp [Takes, write, htrace, hadmits, hf, Except.map]

/-! ## Edits at a store -/

namespace Store

variable {s : Store} {actor : String} {e : ScriptEdit}

/-- Whether a store can tell that an intent came: it need not be printed, or all fields of the
intent can be shown. -/
def CanTell (s : Store) (i : Intent) : Prop :=
  s.journal.admits i.announcement = false ∨ ∃ text, i.dump.inspect = .ok text

theorem carryOut_untold {i : Intent} (h : ¬s.CanTell i) :
    s.carryOut (.intent i) = (s, .error .badValue) := by
  obtain ⟨fault, hfault⟩ := Journal.not_takes_iff.mp (mt Journal.takes_announcement.mp h)
  rw [carryOut, perform_unannounced hfault, Journal.write_announcement hfault]

theorem perform_of_fits (h : s.stage.WellFormed) (htold : s.CanTell (e.intent actor)) {a : Actor}
    (ha : s.stage.actor? actor = some a) (hallowed : e.Allowed a.script) :
    ∃ script j, e.Leaves a.script script ∧
      let new := s.stage.putActor actor { a with script := script }
      s.perform (.intent (e.intent actor)) =
        ({ s with journal := j, stage := new },
          .ok ⟨true, s.active.map (.tell · (e.intent actor).action s.stage new)⟩) := by
  obtain ⟨j, -, hperform⟩ := perform_announced (Journal.takes_announcement.mpr htold)
  obtain ⟨script, hleaves, hreduce⟩ := Stage.reduce_of_fits h ha hallowed
  refine ⟨script, j, hleaves, ?_⟩
  rw [hperform, settled, hreduce]

theorem perform_of_not_fits (h : s.stage.WellFormed) (htold : s.CanTell (e.intent actor))
    (hfits : ¬s.stage.Fits actor e) :
    ∃ j, s.perform (.intent (e.intent actor)) = ({ s with journal := j }, .ok {}) := by
  obtain ⟨j, -, hperform⟩ := perform_announced (Journal.takes_announcement.mpr htold)
  exact ⟨j, by rw [hperform, settled, Stage.reduce_of_not_fits h hfits]⟩

theorem stage_changes_iff (h : s.stage.WellFormed) :
    (s.perform (.intent (e.intent actor))).1.stage ≠ s.stage ↔ s.CanTell (e.intent actor) ∧
      s.stage.Fits actor e := by
  constructor
  · intro hne
    by_cases htold : s.CanTell (e.intent actor)
    · refine ⟨htold, ?_⟩
      by_contra hfits
      obtain ⟨j, hperform⟩ := perform_of_not_fits h htold hfits
      rw [hperform] at hne
      exact hne rfl
    · obtain ⟨fault, hfault⟩ := Journal.not_takes_iff.mp (mt Journal.takes_announcement.mp htold)
      rw [perform_unannounced hfault] at hne
      exact absurd rfl hne
  · rintro ⟨htold, a, ha, hallowed⟩
    obtain ⟨script, j, hleaves, hperform⟩ := perform_of_fits h htold ha hallowed
    rw [hperform]
    exact Stage.putActor_script_ne ha (hleaves.ne hallowed)

/-- **A store takes an edit of a script exactly if it can tell of the edit, the actor is there, and
the script allows it.** An edit that is accepted gives the actor a script with the ids that the edit
leaves, and every listener is to be told. One that is not allowed leaves all but the journal as it
was, and one that cannot be told of fails and leaves all as it was. -/
theorem edit_accepted_iff (s : Store) (h : s.stage.WellFormed) (actor : String) (e : ScriptEdit) :
    ((s.perform (.intent (e.intent actor))).1.stage ≠ s.stage ↔
      s.CanTell (e.intent actor) ∧ s.stage.Fits actor e) ∧
    (s.CanTell (e.intent actor) → ∀ a, s.stage.actor? actor = some a → e.Allowed a.script →
      ∃ script j, e.Leaves a.script script ∧
        let new := s.stage.putActor actor { a with script := script }
        s.perform (.intent (e.intent actor)) =
          ({ s with journal := j, stage := new },
            .ok ⟨true, s.active.map (.tell · (e.intent actor).action s.stage new)⟩)) ∧
    (s.CanTell (e.intent actor) → ¬s.stage.Fits actor e →
      ∃ j, s.carryOut (.intent (e.intent actor)) = ({ s with journal := j }, .ok false)) ∧
    (¬s.CanTell (e.intent actor) → s.carryOut (.intent (e.intent actor)) = (s, .error .badValue)) := by
  refine ⟨stage_changes_iff h, fun htold a ha => perform_of_fits h htold ha, fun htold hfits => ?_,
    carryOut_untold⟩
  obtain ⟨j, hperform⟩ := perform_of_not_fits h htold hfits
  refine ⟨j, ?_⟩
  rw [carryOut, hperform]
  simp only [run]

/-- A script with a repeat block inside another. -/
def nestedRepeats : Script :=
  [⟨"f", BlockType.flagClicked, [], none⟩,
   ⟨"outer", BlockType.repeatTimes, [.int 2], some
     [⟨"inner", BlockType.repeatTimes, [.int 3], none⟩, ⟨"m", BlockType.moveSteps, [.int 10], none⟩]⟩]

/-- The inner repeat block takes a block, of which a child with an id in use is dropped, and the
outer one is removed. -/
theorem edit_accepted_iff_nestedRepeats :
    let s : Store := { stage := { actors := [{ id := "cat-1", script := nestedRepeats }] } }
    let sent : Block := ⟨"s", BlockType.say, [.str "hi"], some [⟨"m", BlockType.moveSteps, [], none⟩]⟩
    s.stage.WellFormed ∧
      (s.perform (.intent (.addBlockTo "cat-1" "inner" sent))).1.stage ≠ s.stage ∧
      (s.perform (.intent (.removeBlock "cat-1" "outer"))).1.stage ≠ s.stage := by
  intro s sent
  have hs : s.stage.WellFormed := by decide
  refine ⟨hs, ?_, ?_⟩
  · exact (edit_accepted_iff s hs "cat-1" (.insert "inner" sent)).1.mpr ⟨.inl (by decide), _, rfl,
      by decide⟩
  · exact (edit_accepted_iff s hs "cat-1" (.remove "outer")).1.mpr ⟨.inl (by decide), _, rfl, by decide⟩

/-- The least integer with too many digits to be shown. -/
def longLiteral : Int := .ofNat (Numeric.tenPow Numeric.maxIntegerDigits)

/-- Where every note is printed, a literal with too many digits stops an edit that is allowed. -/
theorem long_literal_stops_edit :
    let s : Store :=
      { stage := { actors := [{ id := "a" }] },
        journal := { settings := { defaultLevel := .debug } } }
    let e : ScriptEdit := .append ⟨"b", BlockType.say, [.int longLiteral], none⟩
    s.stage.WellFormed ∧ s.stage.Fits "a" e ∧
      s.carryOut (.intent (e.intent "a")) = (s, .error .badValue) := by
  intro s e
  have hlong : integerText longLiteral = .error .badValue := by decide +kernel
  refine ⟨by decide, ⟨_, rfl, by decide⟩, carryOut_untold ?_⟩
  rintro (hquiet | ⟨text, htext⟩)
  · exact absurd hquiet (by decide)
  · simp [e, ScriptEdit.intent, Intent.dump, Block.dump, Value.record, Value.inspect, Value.inspectEntries,
      Value.inspectItems, Key.inspect, hlong, bind, Except.bind] at htext

end Store

end ScriptedStage
