import Mathlib.Data.Nat.Count
import ScriptedStage.Proofs.BuiltStages

/-!
Documents that leave ids open. An actor may be written down without an id and gets one when the
stage is built: the least number of its kind that no actor before it has. Ids that are written
further down are not looked at, so an id may be issued to one actor that another one brings along,
and the document is refused although no id is written twice.

What is proved, for documents that are refused for no other reason:
  1. `ActorEntry.Named.step`: which ids are issued can be told from the entries alone. Of each kind
     these are as many numbers as entries leave open, and of the numbers that are not written down
     the least (`ActorEntry.Issued`);
  2. `ActorEntry.buildAll_named`: what comes of actors one after another;
  3. `ProjectDocument.builds_unless_issued`: the stage is built exactly if no id is written behind
     entries to which it is issued. So it is built if the actors with ids come first.
-/
namespace ScriptedStage

/-! ## Counting -/

section Counting

variable {p q : Nat → Prop} [DecidablePred p] [DecidablePred q] {c : Nat}

theorem count_le_of_forall {n : Nat} (h : ∀ m < n, p m → Nat.count p m < c) : Nat.count p n ≤ c := by
  induction n with
  | zero => simp
  | succ n ih =>
    have hle := ih fun m hm => h m (by omega)
    rw [Nat.count_succ]
    split
    · rename_i hp
      have hlt := h n (by omega) hp
      omega
    · omega

/-- The first numbers of a kind stay the first when a later one is taken away. -/
theorem count_lt_iff_of_later {gone : Nat → Prop} (hq : ∀ n, q n ↔ p n ∧ ¬gone n)
    (hgone : ∀ n, p n → gone n → c ≤ Nat.count p n) (n : Nat) : Nat.count q n < c ↔ Nat.count p n < c := by
  have hcapped : min (Nat.count q n) c = min (Nat.count p n) c := by
    induction n with
    | zero => simp
    | succ n ih =>
      rw [Nat.count_succ, Nat.count_succ]
      by_cases hp : p n
      · by_cases hg : gone n
        · have hlate := hgone n hp hg
          rw [if_neg (fun h => ((hq n).mp h).2 hg), if_pos hp]
          omega
        · rw [if_pos ((hq n).mpr ⟨hp, hg⟩), if_pos hp]
          omega
      · rw [if_neg (fun h => hp ((hq n).mp h).1), if_neg hp]
        omega
  omega

end Counting

namespace ActorEntry

/-! ## Ids that entries write down and ids that are issued to them -/

/-- The ids that are written down. -/
def writtenIds (entries : List ActorEntry) : List String := entries.filterMap fun e => givenId e.id

/-- How many entries of a kind leave the id open. -/
def leftOpen (kind : String) (entries : List ActorEntry) : Nat :=
  entries.countP fun e => e.kind = kind ∧ givenId e.id = none

/-- A number of a kind that is not written down. -/
def Unwritten (kind : String) (written : List String) (n : Nat) : Prop := 0 < n ∧ actorIdOf kind n ∉ written

instance (kind : String) (written : List String) : DecidablePred (Unwritten kind written) :=
  fun n => inferInstanceAs (Decidable (0 < n ∧ actorIdOf kind n ∉ written))

/-- The ids that are issued to entries: of each kind as many as entries leave open, and of the
numbers that are not written down the least. -/
def Issued (entries : List ActorEntry) (id : String) : Prop :=
  ∃ kind n, id = actorIdOf kind n ∧ Unwritten kind (writtenIds entries) n ∧
    Nat.count (Unwritten kind (writtenIds entries)) n < leftOpen kind entries

theorem issued_actorIdOf {entries : List ActorEntry} {kind : String} {n : Nat} :
    Issued entries (actorIdOf kind n) ↔ Unwritten kind (writtenIds entries) n ∧
      Nat.count (Unwritten kind (writtenIds entries)) n < leftOpen kind entries := by
  constructor
  · rintro ⟨kind', n', heq, h⟩
    obtain ⟨rfl, rfl⟩ := actorIdOf_inj heq
    exact h
  · intro h
    exact ⟨kind, n, rfl, h⟩

/-- The ids that are taken are those that entries write down and those that are issued to them. -/
def Named (entries : List ActorEntry) (taken : List String) : Prop :=
  ∀ id, id ∈ taken ↔ id ∈ writtenIds entries ∨ Issued entries id

section Step

variable {entries : List ActorEntry} {taken : List String} {e : ActorEntry}

theorem writtenIds_concat_open (he : givenId e.id = none) :
    writtenIds (entries ++ [e]) = writtenIds entries := by
  simp [writtenIds, he]

theorem writtenIds_concat_written {id : String} (he : givenId e.id = some id) :
    writtenIds (entries ++ [e]) = writtenIds entries ++ [id] := by
  simp [writtenIds, he]

theorem leftOpen_concat_open (he : givenId e.id = none) (kind : String) :
    leftOpen kind (entries ++ [e]) = leftOpen kind entries + if e.kind = kind then 1 else 0 := by
  simp [leftOpen, List.countP_cons, he]

theorem leftOpen_concat_written {id : String} (he : givenId e.id = some id) (kind : String) :
    leftOpen kind (entries ++ [e]) = leftOpen kind entries := by
  simp [leftOpen, he]

/-- The number that is issued next. -/
theorem Named.freeActorId_eq (h : Named entries taken) (kind : String) :
    ∃ n, freeActorId kind taken = actorIdOf kind n ∧ Unwritten kind (writtenIds entries) n ∧
      Nat.count (Unwritten kind (writtenIds entries)) n = leftOpen kind entries := by
  obtain ⟨n, hpos, heq, hfree, hless⟩ := freeActorId_least kind taken
  rw [h, not_or, issued_actorIdOf, not_and, Nat.not_lt] at hfree
  have hunwritten : Unwritten kind (writtenIds entries) n := ⟨hpos, hfree.1⟩
  refine ⟨n, heq, hunwritten, Nat.le_antisymm ?_ (hfree.2 hunwritten)⟩
  -- the smaller numbers that are not written down are taken, so they were issued
  apply count_le_of_forall
  intro m hm hp
  rcases (h _).mp (hless m hp.1 hm) with hmem | hissued
  · exact absurd hmem hp.2
  · exact (issued_actorIdOf.mp hissued).2

theorem issued_concat_open (he : givenId e.id = none) {n : Nat}
    (hunwritten : Unwritten e.kind (writtenIds entries) n)
    (hcount : Nat.count (Unwritten e.kind (writtenIds entries)) n = leftOpen e.kind entries)
    (id : String) :
    Issued (entries ++ [e]) id ↔ Issued entries id ∨ id = actorIdOf e.kind n := by
  unfold Issued
  simp only [writtenIds_concat_open he, leftOpen_concat_open he]
  constructor
  · rintro ⟨kind, m, rfl, hm, hlt⟩
    by_cases hkind : e.kind = kind
    · subst hkind
      rw [if_pos rfl] at hlt
      rcases Nat.lt_succ_iff_lt_or_eq.mp hlt with hbefore | hnow
      · exact .inl ⟨e.kind, m, rfl, hm, hbefore⟩
      · rw [Nat.count_injective hm hunwritten (hnow.trans hcount.symm)]
        exact .inr rfl
    · rw [if_neg hkind] at hlt
      exact .inl ⟨kind, m, rfl, hm, hlt⟩
  · rintro (⟨kind, m, rfl, hm, hlt⟩ | rfl)
    · exact ⟨kind, m, rfl, hm, by omega⟩
    · exact ⟨e.kind, n, rfl, hunwritten, by rw [if_pos rfl]; omega⟩

/-- An id that was not issued may be written down: the numbers that were issued are
less than its own. -/
theorem issued_concat_written {id : String} (he : givenId e.id = some id)
    (hfree : ¬Issued entries id) (other : String) :
    Issued (entries ++ [e]) other ↔ Issued entries other := by
  unfold Issued
  simp only [writtenIds_concat_written he, leftOpen_concat_written he]
  apply exists_congr
  intro kind
  apply exists_congr
  intro n
  apply and_congr_right
  rintro rfl
  have hunwritten : ∀ m, Unwritten kind (writtenIds entries ++ [id]) m ↔
      Unwritten kind (writtenIds entries) m ∧ ¬actorIdOf kind m = id := by
    intro m
    simp [Unwritten, and_assoc]
  have hlate : ∀ m, Unwritten kind (writtenIds entries) m → actorIdOf kind m = id →
      leftOpen kind entries ≤ Nat.count (Unwritten kind (writtenIds entries)) m := by
    rintro m hm rfl
    rw [issued_actorIdOf, not_and, Nat.not_lt] at hfree
    exact hfree hm
  rw [count_lt_iff_of_later hunwritten hlate n, hunwritten]
  constructor
  · rintro ⟨⟨hn, -⟩, hlt⟩
    exact ⟨hn, hlt⟩
  · rintro ⟨hn, hlt⟩
    refine ⟨⟨hn, ?_⟩, hlt⟩
    intro hsame
    have := hlate n hn hsame
    omega

/-- An entry that gets an id of its own leaves the ids that are taken as they are told
from the entries. -/
theorem Named.step (h : Named entries taken) (hfree : e.idAmong taken ∉ taken) :
    Named (entries ++ [e]) (taken ++ [e.idAmong taken]) := by
  intro id
  rw [List.mem_append, List.mem_singleton, h]
  cases he : givenId e.id with
  | none =>
    obtain ⟨n, heq, hunwritten, hcount⟩ := h.freeActorId_eq e.kind
    have hid : e.idAmong taken = actorIdOf e.kind n := by
      rw [idAmong, he, Option.getD_none, heq]
    rw [writtenIds_concat_open he, issued_concat_open he hunwritten hcount, hid, or_assoc]
  | some i =>
    have hid : e.idAmong taken = i := by rw [idAmong, he, Option.getD_some]
    rw [hid, h, not_or] at hfree
    rw [writtenIds_concat_written he, issued_concat_written he hfree.2, hid, List.mem_append,
      List.mem_singleton]
    exact or_right_comm

end Step

/-! ## Actors one after another -/

/-- The scripts of entries, as they are built one after another. -/
def scripts (f : BlockFactory) : List ActorEntry → List Script
  | [] => []
  | e :: rest => (BlockEntry.buildAll f e.script).1 :: scripts (BlockEntry.buildAll f e.script).2.1 rest

/-- An id is written behind entries to which it is issued. -/
def Clash (before entries : List ActorEntry) (id : String) : Prop :=
  ∃ front e back, entries = front ++ e :: back ∧ givenId e.id = some id ∧ Issued (before ++ front) id

theorem not_clash_nil {before : List ActorEntry} {id : String} : ¬Clash before [] id := by
  rintro ⟨front, e, back, h, -⟩
  simp at h

theorem clash_cons {before rest : List ActorEntry} {e : ActorEntry} {id : String} :
    Clash before (e :: rest) id ↔ (givenId e.id = some id ∧ Issued before id) ∨
      Clash (before ++ [e]) rest id := by
  constructor
  · rintro ⟨front, e', back, hsplit, hid, hissued⟩
    cases front with
    | nil =>
      cases hsplit
      rw [List.append_nil] at hissued
      exact .inl ⟨hid, hissued⟩
    | cons first front =>
      cases hsplit
      exact .inr ⟨front, e', back, rfl, hid, by rwa [List.append_assoc]⟩
  · rintro (⟨hid, hissued⟩ | ⟨front, e', back, rfl, hid, hissued⟩)
    · exact ⟨[], e, rest, rfl, hid, by rwa [List.append_nil]⟩
    · exact ⟨e :: front, e', back, rfl, hid, by rwa [List.append_assoc] at hissued⟩

/-- An entry whose id is taken brings one along that was issued, if no id is written twice. -/
theorem Named.issued_of_taken {done rest : List ActorEntry} {e : ActorEntry} {taken : List String}
    (h : Named done taken) (hwritten : (writtenIds (done ++ e :: rest)).Nodup)
    (htaken : e.idAmong taken ∈ taken) :
    givenId e.id = some (e.idAmong taken) ∧ Issued done (e.idAmong taken) := by
  cases he : givenId e.id with
  | none =>
    rw [idAmong, he, Option.getD_none] at htaken
    exact absurd htaken (freeActorId_not_mem e.kind taken)
  | some id =>
    have hid : e.idAmong taken = id := by rw [idAmong, he, Option.getD_some]
    have hfirst : id ∉ writtenIds done := by
      simp only [writtenIds, List.filterMap_append, List.filterMap_cons, he] at hwritten
      intro hmem
      exact (List.nodup_append.mp hwritten).2.2 id hmem id List.mem_cons_self rfl
    rw [hid] at htaken ⊢
    rcases (h id).mp htaken with hmem | hissued
    · exact absurd hmem hfirst
    · exact ⟨rfl, hissued⟩

section Building

variable {catalog : Catalog} (settings : Settings)

/-- An actor of a known kind, with distinct ids in its script, is refused exactly if
its own id is taken. -/
theorem build_of_fit (before : List Actor) {f : BlockFactory} {e : ActorEntry}
    (hkind : (catalog.get? e.kind).isSome = true)
    (hscript : (Script.ids (BlockEntry.buildAll f e.script).1).Nodup) :
    (e.idAmong (before.map (·.id)) ∈ before.map (·.id) ∧
        (build catalog settings before f e).2 = .error (.duplicateActor (e.idAmong (before.map (·.id))))) ∨
      e.idAmong (before.map (·.id)) ∉ before.map (·.id) ∧
        ∃ a, (build catalog settings before f e).2 = .ok (a, (BlockEntry.buildAll f e.script).2.1) ∧
          a.id = e.idAmong (before.map (·.id)) := by
  obtain ⟨sprite, hsprite⟩ := Option.isSome_iff_exists.mp hkind
  have hdistinct := Script.duplicateIds_eq_nil.mpr hscript
  by_cases htaken : e.idAmong (before.map (·.id)) ∈ before.map (·.id)
  · refine .inl ⟨htaken, ?_⟩
    unfold idAmong at htaken ⊢
    simp [build, hsprite, htaken]
  · refine .inr ⟨htaken, ?_⟩
    unfold idAmong at htaken ⊢
    simp [build, hsprite, htaken, hdistinct]

/-- What comes of entries, after those from which the actors came that are there already. -/
theorem buildAll_named : ∀ {entries done : List ActorEntry} {before : List Actor} {f : BlockFactory},
    (∀ e ∈ entries, (catalog.get? e.kind).isSome = true) → (∀ s ∈ scripts f entries, s.ids.Nodup) →
    (writtenIds (done ++ entries)).Nodup → Named done (before.map (·.id)) →
    (∃ actors, (buildAll catalog settings before f entries).2 = .ok actors ∧
        Named (done ++ entries) (actors.map (·.id)) ∧ ∀ id, ¬Clash done entries id) ∨
      ∃ id, (buildAll catalog settings before f entries).2 = .error (.duplicateActor id) ∧
        Clash done entries id := by
  intro entries
  induction entries with
  | nil =>
    intro done before f _ _ _ hnamed
    rw [List.append_nil]
    exact .inl ⟨before, rfl, hnamed, fun id => not_clash_nil⟩
  | cons e rest ih =>
    intro done before f hkinds hscripts hwritten hnamed
    obtain ⟨hkind, hkinds⟩ := List.forall_mem_cons.mp hkinds
    obtain ⟨hscript, hscripts⟩ := List.forall_mem_cons.mp hscripts
    have hparts := build_of_fit settings before hkind hscript
    rcases hbuild : build catalog settings before f e with ⟨notes, outcome⟩
    rw [buildAll, hbuild]
    rcases hparts with ⟨htaken, houtcome⟩ | ⟨hfree, a, houtcome, hid⟩
    · rw [hbuild] at houtcome
      subst houtcome
      exact .inr ⟨_, rfl, clash_cons.mpr (.inl (hnamed.issued_of_taken hwritten htaken))⟩
    · rw [hbuild] at houtcome
      subst houtcome
      have hnamed' : Named (done ++ [e]) ((before ++ [a]).map (·.id)) := by
        rw [List.map_append, List.map_singleton, hid]
        exact hnamed.step hfree
      have hhere : ∀ id, ¬(givenId e.id = some id ∧ Issued done id) := by
        rintro id ⟨hgiven, hissued⟩
        apply hfree
        rw [idAmong, hgiven, Option.getD_some]
        exact (hnamed id).mpr (.inr hissued)
      have hwritten' : (writtenIds (done ++ [e] ++ rest)).Nodup := by
        rwa [List.append_assoc]
      rcases ih hkinds hscripts hwritten' hnamed' with
        ⟨actors, hactors, hall, hlater⟩ | ⟨id, hrefused, hclash⟩
      · rw [List.append_assoc] at hall
        refine .inl ⟨actors, hactors, hall, ?_⟩
        intro id hclash
        rcases clash_cons.mp hclash with hnow | hthen
        · exact hhere id hnow
        · exact hlater id hthen
      · exact .inr ⟨id, hrefused, clash_cons.mpr (.inr hclash)⟩

end Building

end ActorEntry

/-! ## Stages -/

namespace ProjectDocument

open ActorEntry

/-- Entries that leave the id open come behind all others. -/
def OpenLast (d : ProjectDocument) : Prop :=
  d.actors.Pairwise fun e later => givenId e.id = none → givenId later.id = none

theorem not_clash_of_openLast {d : ProjectDocument} (h : d.OpenLast) (id : String) :
    ¬Clash [] d.actors id := by
  rintro ⟨front, e, back, hsplit, hid, kind, n, -, -, hlt⟩
  -- an entry that leaves its id open would stand before one that has an id
  have hopen : 0 < leftOpen kind front := by
    rw [List.nil_append] at hlt
    omega
  obtain ⟨e', he', hkind⟩ := List.countP_pos_iff.mp hopen
  have hnone : givenId e'.id = none := (of_decide_eq_true hkind).2
  unfold OpenLast at h
  rw [hsplit, List.pairwise_append] at h
  have hlater := h.2.2 e' he' e List.mem_cons_self hnone
  rw [hid] at hlater
  cases hlater

theorem build_outcome {catalog : Catalog} {f : BlockFactory} {d : ProjectDocument} (settings : Settings)
    (hkinds : ∀ e ∈ d.actors, (catalog.get? e.kind).isSome = true)
    (hscripts : ∀ s ∈ scripts f d.actors, s.ids.Nodup) (hwritten : (writtenIds d.actors).Nodup) :
    (∃ s, (d.build catalog settings f).2 = .ok s ∧ Named d.actors s.ids ∧ ∀ id, ¬Clash [] d.actors id) ∨
      ∃ id, (d.build catalog settings f).2 = .error (.duplicateActor id) ∧ Clash [] d.actors id := by
  have hnone : Named [] (([] : List Actor).map (·.id)) := by
    intro id
    simp [writtenIds, Issued, leftOpen]
  have hall : (writtenIds ([] ++ d.actors)).Nodup := hwritten
  have hparts := buildAll_named settings hkinds hscripts hall hnone
  rcases hbuild : ActorEntry.buildAll catalog settings [] f d.actors with ⟨notes, outcome⟩
  rw [hbuild] at hparts
  rw [build, hbuild]
  rcases hparts with ⟨actors, houtcome, hnamed, hclash⟩ | ⟨id, houtcome, hclash⟩
  · dsimp only at houtcome
    subst houtcome
    exact .inl ⟨_, rfl, hnamed, hclash⟩
  · dsimp only at houtcome
    subst houtcome
    exact .inr ⟨id, rfl, hclash⟩

/-- **A document is built exactly if no id is written behind entries to which it is issued.** The
document has kinds that are known, no id of an actor written twice, and no two blocks of a script
with one id once it is built. Then the only error is an id that is written behind entries to which
it is issued, and without one the actors have the ids that are written and those that are issued. In
particular a document is built in which the entries that leave the id open come last. -/
theorem builds_unless_issued {catalog : Catalog} {f : BlockFactory} {d : ProjectDocument}
    (settings : Settings) (hkinds : ∀ e ∈ d.actors, (catalog.get? e.kind).isSome = true)
    (hwritten : (writtenIds d.actors).Nodup) (hscripts : ∀ s ∈ scripts f d.actors, s.ids.Nodup) :
    ((∃ s, (d.build catalog settings f).2 = .ok s) ↔ ∀ id, ¬Clash [] d.actors id) ∧
      (∀ s, (d.build catalog settings f).2 = .ok s → ∀ id, id ∈ s.ids ↔ id ∈ writtenIds d.actors ∨
        Issued d.actors id) ∧
      (∀ error, (d.build catalog settings f).2 = .error error →
        ∃ id, error = .duplicateActor id ∧ Clash [] d.actors id) ∧
      (d.OpenLast → ∃ s, (d.build catalog settings f).2 = .ok s) := by
  rcases build_outcome settings hkinds hscripts hwritten with
    ⟨s, hs, hnamed, hclash⟩ | ⟨id, hrefused, hclash⟩
  · rw [hs]
    refine ⟨iff_of_true ⟨s, rfl⟩ hclash, ?_, ?_, fun _ => ⟨s, rfl⟩⟩
    · rintro _ ⟨⟩
      exact hnamed
    · rintro error ⟨⟩
  · rw [hrefused]
    refine ⟨iff_of_false ?_ (fun hnone => hnone id hclash), ?_, ?_, ?_⟩
    · rintro ⟨s, ⟨⟩⟩
    · rintro s ⟨⟩
    · rintro _ ⟨⟩
      exact ⟨id, rfl, hclash⟩
    · intro hlast
      exact absurd hclash (not_clash_of_openLast hlast id)

/-- Cats with and without ids among each other; the ids that are left open fill the gaps before the
ids that are written. -/
def mixedCats : ProjectDocument where
  actors := [{ kind := "cat" }, { id := some "cat-3", kind := "cat" }, { id := some "", kind := "cat" },
    { id := some "cat-5", kind := "dog" }, { kind := "cat" }]

theorem builds_unless_issued_mixedCats :
    let f : BlockFactory := { token := "t" }
    (∀ e ∈ mixedCats.actors, (Catalog.builtIn.get? e.kind).isSome = true) ∧
      (writtenIds mixedCats.actors).Nodup ∧
      (∀ s ∈ scripts f mixedCats.actors, s.ids.Nodup) ∧
      (∃ s, (mixedCats.build .builtIn {} f).2 = .ok s ∧
       s.ids = ["cat-1", "cat-3", "cat-2", "cat-5", "cat-4"]) ∧
      ∀ id, ¬Clash [] mixedCats.actors id := by
  intro f
  have hkinds : ∀ e ∈ mixedCats.actors, (Catalog.builtIn.get? e.kind).isSome = true := by decide
  have hwritten : (writtenIds mixedCats.actors).Nodup := by decide
  have hscripts : ∀ s ∈ scripts f mixedCats.actors, s.ids.Nodup := by decide
  have hbuilt : ∃ s, (mixedCats.build .builtIn {} f).2 = .ok s ∧
      s.ids = ["cat-1", "cat-3", "cat-2", "cat-5", "cat-4"] := ⟨_, by rfl, by rfl⟩
  obtain ⟨hiff, -⟩ := builds_unless_issued {} hkinds hwritten hscripts
  exact ⟨hkinds, hwritten, hscripts, hbuilt, hiff.mp (hbuilt.imp fun s hs => hs.1)⟩

/-- A cat without an id is issued the id of the cat that is written behind it, and the
document is refused. -/
theorem issued_id_refuses :
    let f : BlockFactory := { token := "t" }
    let d : ProjectDocument := { actors := [{ kind := "cat" }, { id := some "cat-1", kind := "cat" }] }
    (∀ e ∈ d.actors, (Catalog.builtIn.get? e.kind).isSome = true) ∧ (writtenIds d.actors).Nodup ∧
      (∀ s ∈ scripts f d.actors, s.ids.Nodup) ∧
      (d.build .builtIn {} f).2 = .error (.duplicateActor "cat-1") := by
  refine ⟨by decide, by decide, by decide, by rfl⟩

end ProjectDocument

end ScriptedStage
