import ScriptedStage.Project.Build
import ScriptedStage.Proofs.Printing
import ScriptedStage.Proofs.StageShape

/-!
Stages built from documents. A document may leave out ids of actors and of blocks, children
of containers and the selection, so ids that are written down and ids that are issued stand
side by side at any depth. The checks are spread over the way: the kind and the id of an
actor are looked at before its script is built, the ids of the script after it, and the
selection when all actors are there.

What is proved, for every document, catalog, factory and settings:
  1. `BlockEntry.build_sound`: a block that is built has an id and room for children exactly if it
     is a container, at every depth, whatever the document says about its children;
  2. `ActorEntry.build_parts`: what comes of one actor, given the actors before it;
  3. `build_startable`: a document is refused for a reason that is found in its actors
     (`ActorEntry.Refused`), or its stage is one to start from.
-/
namespace ScriptedStage

/-! ## Ids -/

theorem givenId_eq_some {id : Option String} {i : String} : givenId id = some i ↔ id = some i ∧ i ≠ "" := by
  unfold givenId
  split
  · simp only [reduceCtorEq, Option.some.injEq, false_iff, not_and]
    rintro rfl h
    exact h rfl
  · rename_i hne
    constructor
    · rintro rfl
      refine ⟨rfl, ?_⟩
      rintro rfl
      exact hne rfl
    · intro h
      exact h.1

theorem actorIdOf_ne_empty (kind : String) (n : Nat) : actorIdOf kind n ≠ "" := by
  intro h
  have := congrArg String.length h
  simp only [actorIdOf, String.length_append] at this
  simp at this

theorem freeActorId_ne_empty (kind : String) (taken : List String) : freeActorId kind taken ≠ "" :=
  actorIdOf_ne_empty kind _

theorem BlockFactory.idOf_ne_empty (token type : String) (n : Nat) : idOf token type n ≠ "" := by
  intro h
  have := congrArg String.length h
  simp only [idOf, String.length_append] at this
  simp at this

theorem BlockEntry.chooseId_given {id : String} (h : id ≠ "") (f : BlockFactory) (type : String) :
    chooseId f (some id) type = (id, f) := by
  rw [chooseId, givenId_eq_some.mpr ⟨rfl, h⟩]

theorem BlockEntry.chooseId_ne_empty (f : BlockFactory) (id : Option String) (type : String) :
    (chooseId f id type).1 ≠ "" := by
  unfold chooseId
  split
  · rename_i i hi
    exact (givenId_eq_some.mp hi).2
  · exact BlockFactory.idOf_ne_empty _ _ _

/-! ## Scripts -/

namespace Script

/-- Every block has an id, and room for children exactly if it is a container, at every depth. -/
def Furnished (s : Script) : Prop :=
  ∀ b ∈ s.preorder, b.id ≠ "" ∧ (b.children.isSome = true ↔ b.isContainer = true)

theorem furnished_nil : Furnished [] := forall_preorder_nil

theorem furnished_cons {b : Block} {s : Script} :
    Furnished (b :: s) ↔
      (b.id ≠ "" ∧ (b.children.isSome = true ↔ b.isContainer = true)) ∧ Furnished b.kids ∧ Furnished s :=
  forall_preorder_cons

theorem Furnished.childrenFit {s : Script} (h : s.Furnished) : s.ChildrenFit := by
  intro b hb hroom
  apply (h b hb).2.mp
  rwa [← Option.ne_none_iff_isSome]

/-- The ids that are found twice are none exactly if the ids are distinct. -/
theorem duplicateIds_eq_nil {s : Script} : s.duplicateIds = [] ↔ s.ids.Nodup := by
  simp only [duplicateIds, List.filter_eq_nil_iff, List.mem_eraseDups, decide_eq_true_eq, Nat.not_lt,
    List.nodup_iff_count]
  constructor
  · intro h i
    by_cases hi : i ∈ s.ids
    · exact h i hi
    · rw [List.count_eq_zero_of_not_mem hi]
      exact Nat.zero_le 1
  · intro h i _
    exact h i

end Script

theorem projectNote_plain (level : Level) (text : String) : (projectNote level text).Plain := ⟨text, rfl⟩

namespace BlockEntry

mutual
/-- A block that is built is furnished, and what is noted on the way can be printed. -/
theorem build_sound : ∀ (f : BlockFactory) (e : BlockEntry),
    Script.Furnished [(build f e).1] ∧ ∀ n ∈ (build f e).2.2, n.Plain
  | f, ⟨id, type, values, children⟩ => by
    rw [build]
    cases hc : BlockType.isContainer type with
    | true =>
      obtain ⟨hkids, hnotes⟩ := buildKids_sound f children
      simp only [if_true]
      refine ⟨Script.furnished_cons.mpr ⟨⟨chooseId_ne_empty _ _ _, ?_⟩, hkids,
        Script.furnished_nil⟩, hnotes⟩
      simp [Block.isContainer, hc]
    | false =>
      simp only [Bool.false_eq_true, if_false]
      refine ⟨Script.furnished_cons.mpr ⟨⟨chooseId_ne_empty _ _ _, ?_⟩, Script.furnished_nil,
        Script.furnished_nil⟩, ?_⟩
      · simp [Block.isContainer, hc]
      · -- the children that are dropped are no more than a note
        intro n hn
        split at hn
        · cases hn
        · rw [List.mem_singleton.mp hn]
          exact projectNote_plain _ _
theorem buildKids_sound : ∀ (f : BlockFactory) (children : Option (List BlockEntry)),
    Script.Furnished (buildKids f children).1 ∧ ∀ n ∈ (buildKids f children).2.2, n.Plain
  | f, none => by
    rw [buildKids]
    exact ⟨Script.furnished_nil, by simp⟩
  | f, some entries => by
    rw [buildKids]
    exact buildAll_sound f entries
theorem buildAll_sound : ∀ (f : BlockFactory) (entries : List BlockEntry),
    Script.Furnished (buildAll f entries).1 ∧ ∀ n ∈ (buildAll f entries).2.2, n.Plain
  | f, [] => by
    rw [buildAll]
    exact ⟨Script.furnished_nil, by simp⟩
  | f, e :: rest => by
    rw [buildAll]
    obtain ⟨hfirst, hnotes⟩ := build_sound f e
    obtain ⟨hrest, hmore⟩ := buildAll_sound (build f e).2.1 rest
    obtain ⟨hown, hkids, -⟩ := Script.furnished_cons.mp hfirst
    refine ⟨Script.furnished_cons.mpr ⟨hown, hkids, hrest⟩, ?_⟩
    intro n hn
    rcases List.mem_append.mp hn with hn | hn
    · exact hnotes n hn
    · exact hmore n hn
end

end BlockEntry

/-! ## Actors -/

/-- An actor with an id, a kind of the catalog, and a script whose blocks are furnished
and have distinct ids. -/
structure Actor.Furnished (catalog : Catalog) (a : Actor) : Prop where
  named : a.id ≠ ""
  kind : (catalog.get? a.kind).isSome = true
  blockIds : a.script.ids.Nodup
  script : a.script.Furnished

/-- The id of an actor when some are taken: the one that is written down, or one that is free. -/
def ActorEntry.idAmong (taken : List String) (e : ActorEntry) : String :=
  (givenId e.id).getD (freeActorId e.kind taken)

/-- Why actors are refused when some ids are taken. -/
inductive ActorEntry.Refused (catalog : Catalog) : List String → List ActorEntry → ProjectError → Prop
  /-- The catalog does not have the kind of an actor. -/
  | kind {taken : List String} {e : ActorEntry} {rest : List ActorEntry} (h : catalog.get? e.kind = none) :
      Refused catalog taken (e :: rest) (.unknownKind e.kind catalog.kinds)
  /-- An id is taken. It is one that is written down, as those that are issued are free. -/
  | actor {taken : List String} {e : ActorEntry} {rest : List ActorEntry} {id : String}
      (hid : givenId e.id = some id) (h : id ∈ taken) :
      Refused catalog taken (e :: rest) (.duplicateActor id)
  /-- An actor has two blocks with one id. -/
  | blocks {taken : List String} {e : ActorEntry} {rest : List ActorEntry} (f : BlockFactory)
      (h : ¬(Script.ids (BlockEntry.buildAll f e.script).1).Nodup) :
      Refused catalog taken (e :: rest)
        (.duplicateBlocks (e.idAmong taken)
         (sortTexts (Script.duplicateIds (BlockEntry.buildAll f e.script).1)))
  /-- A later actor is refused. -/
  | later {taken : List String} {e : ActorEntry} {rest : List ActorEntry} {error : ProjectError}
      (h : Refused catalog (taken ++ [e.idAmong taken]) rest error) :
      Refused catalog taken (e :: rest) error

namespace ActorEntry

/-- What comes of an actor: it is refused for a reason, or it is furnished and has an
id of its own. -/
theorem build_parts (catalog : Catalog) (settings : Settings) (before : List Actor) (f : BlockFactory)
    (e : ActorEntry) (rest : List ActorEntry) :
    (∀ n ∈ (build catalog settings before f e).1, n.Plain) ∧
      ((∃ error, (build catalog settings before f e).2 = .error error ∧
          Refused catalog (before.map (·.id)) (e :: rest) error) ∨
        ∃ a f', (build catalog settings before f e).2 = .ok (a, f') ∧ a.Furnished catalog ∧
          a.id = e.idAmong (before.map (·.id)) ∧ a.id ∉ before.map (·.id)) := by
  obtain ⟨hscript, hnotes⟩ := BlockEntry.buildAll_sound f e.script
  unfold build
  cases hkind : catalog.get? e.kind with
  | none => exact ⟨by simp, .inl ⟨_, rfl, .kind hkind⟩⟩
  | some sprite =>
    simp only
    split
    · -- only an id that is written down can be taken
      rename_i htaken
      refine ⟨by simp, .inl ⟨_, rfl, ?_⟩⟩
      cases hid : givenId e.id with
      | none =>
        simp only [hid, Option.getD_none, List.contains_eq_mem, decide_eq_true_eq] at htaken
        exact absurd htaken (freeActorId_not_mem e.kind _)
      | some i =>
        rw [hid] at htaken
        exact .actor hid (by simpa using htaken)
    · rename_i hfree
      split
      · rename_i hnone
        refine ⟨hnotes, .inr ⟨_, _, rfl, ⟨?_, ?_, Script.duplicateIds_eq_nil.mp hnone, hscript⟩, rfl, ?_⟩⟩
        · cases hid : givenId e.id with
          | none => exact freeActorId_ne_empty _ _
          | some i => exact (givenId_eq_some.mp hid).2
        · exact hkind ▸ rfl
        · simpa using hfree
      · rename_i hsome
        refine ⟨hnotes, .inl ⟨_, rfl, .blocks f ?_⟩⟩
        intro hids
        exact hsome (Script.duplicateIds_eq_nil.mpr hids)

/-- What comes of actors, after those that are there already. -/
theorem buildAll_parts (catalog : Catalog) (settings : Settings) :
    ∀ (entries : List ActorEntry) (before : List Actor)
    (f : BlockFactory), (∀ a ∈ before, a.Furnished catalog) → (before.map (·.id)).Nodup →
    (∀ n ∈ (buildAll catalog settings before f entries).1, n.Plain) ∧
      ((∃ error, (buildAll catalog settings before f entries).2 = .error error ∧
          Refused catalog (before.map (·.id)) entries error) ∨
        ∃ actors, (buildAll catalog settings before f entries).2 = .ok actors ∧
          (∀ a ∈ actors, a.Furnished catalog) ∧ (actors.map (·.id)).Nodup) := by
  intro entries
  induction entries with
  | nil =>
    intro before f hbefore hids
    exact ⟨by simp [buildAll], .inr ⟨before, rfl, hbefore, hids⟩⟩
  | cons e rest ih =>
    intro before f hbefore hids
    have hparts := build_parts catalog settings before f e rest
    rcases hbuild : build catalog settings before f e with ⟨notes, outcome⟩
    rw [hbuild] at hparts
    rw [buildAll, hbuild]
    obtain ⟨hnotes, ⟨error, rfl, hrefused⟩ | ⟨a, f', rfl, ha, hid, hfresh⟩⟩ := hparts
    · -- the first actor that is refused ends the way
      exact ⟨hnotes, .inl ⟨error, rfl, hrefused⟩⟩
    · have hbefore' : ∀ b ∈ before ++ [a], b.Furnished catalog := by
        intro b hb
        rcases List.mem_append.mp hb with hb | hb
        · exact hbefore b hb
        · rw [List.mem_singleton.mp hb]
          exact ha
      have hids' : ((before ++ [a]).map (·.id)).Nodup := by
        rw [List.map_append]
        apply List.Nodup.append hids (List.nodup_singleton _)
        simpa using hfresh
      obtain ⟨hmore, hrest⟩ := ih (before ++ [a]) f' hbefore' hids'
      refine ⟨?_, hrest.imp_left ?_⟩
      · intro n hn
        rcases List.mem_append.mp hn with hn | hn
        · exact hnotes n hn
        · exact hmore n hn
      · rintro ⟨error, herror, hrefused⟩
        refine ⟨error, herror, .later ?_⟩
        rwa [List.map_append, List.map_singleton, hid] at hrefused

end ActorEntry

/-! ## Stages -/

/-- A stage to start from: it is well formed and stopped, its actors are furnished, and one of them
is selected unless there are none. -/
structure Stage.Startable (catalog : Catalog) (s : Stage) : Prop extends s.WellFormed where
  stopped : s.running = false
  furnished : ∀ a ∈ s.actors, a.Furnished catalog
  selected : s.selected = none ↔ s.actors = []

namespace ProjectDocument

theorem chooseSelected_parts (selected : Option String) (ids : List String) :
    (∀ n ∈ (chooseSelected selected ids).2, n.Plain) ∧ (∀ id ∈ (chooseSelected selected ids).1, id ∈ ids) ∧
      ((chooseSelected selected ids).1 = none ↔ ids = []) := by
  have hhead : (∀ id ∈ ids.head?, id ∈ ids) ∧ (ids.head? = none ↔ ids = []) :=
    ⟨fun id hid => List.mem_of_mem_head? hid, List.head?_eq_none_iff⟩
  cases selected with
  | none => exact ⟨by simp [chooseSelected], hhead⟩
  | some id =>
    rw [chooseSelected]
    split
    · rename_i hmem
      have hmem : id ∈ ids := by simpa using hmem
      refine ⟨by simp, ?_, ?_⟩
      · intro i hi
        rwa [← Option.mem_some_iff.mp hi]
      · simp only [reduceCtorEq, false_iff]
        exact List.ne_nil_of_mem hmem
    · refine ⟨?_, hhead⟩
      intro n hn
      rw [List.mem_singleton.mp hn]
      exact projectNote_plain _ _

/-- **A document is refused for a reason that is found in it, or its stage is one to start from**:
its actors have ids of their own and kinds of the catalog, their blocks have ids and room for
children exactly as they should, and one of them is selected. -/
theorem build_startable (catalog : Catalog) (settings : Settings) (f : BlockFactory) (d : ProjectDocument) :
    (∃ error, (d.build catalog settings f).2 = .error error ∧
      ActorEntry.Refused catalog [] d.actors error) ∨
      ∃ s, (d.build catalog settings f).2 = .ok s ∧ s.Startable catalog := by
  have hparts := ActorEntry.buildAll_parts catalog settings d.actors [] f (by simp) List.nodup_nil
  rcases hbuild : ActorEntry.buildAll catalog settings [] f d.actors with ⟨notes, outcome⟩
  rw [hbuild] at hparts
  rw [build, hbuild]
  obtain ⟨-, ⟨error, rfl, hrefused⟩ | ⟨actors, rfl, hactors, hids⟩⟩ := hparts
  · exact .inl ⟨error, rfl, hrefused⟩
  · obtain ⟨-, hmem, hnone⟩ := chooseSelected_parts d.selected (actors.map (·.id))
    refine .inr ⟨⟨actors, (chooseSelected d.selected (actors.map (·.id))).1, false⟩, rfl, ?_⟩
    refine ⟨⟨hids, hmem, ?_, ?_⟩, rfl, hactors, ?_⟩
    · intro a ha
      exact (hactors a ha).blockIds
    · intro a ha
      exact (hactors a ha).script.childrenFit
    · rw [hnone, List.map_eq_nil_iff]

end ProjectDocument

end ScriptedStage
