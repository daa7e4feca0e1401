import ScriptedStage.Proofs.BuiltStages
import ScriptedStage.Proofs.ReadSettings

/-!
Saving a stage and loading it again. Writer and reader are apart: the reader fills in what is not
written, issues ids for blocks that have none, drops children where there is no room for them and
puts limits in order. None of this may touch a stage that was saved, or a saved program would
change without a word.

Between the two stands the document that the reader makes of what was written, with everything
written down (`Block.toEntry`, `Actor.toEntry`, `Stage.entries`). Checking what was written gives
this document (`check_toValue`, `check_toDocument`), and building it gives the stage
(`build_toEntry`, `build_entries`), with three differences: the stage is stopped, nothing is said,
and a container without room for children gets some.

A document has no empty kinds. A catalog may have one, and then a stage with such an actor is
written but not read again (`Stage.kindless_refused`).
-/
namespace ScriptedStage

/-! ## What is written -/

namespace Value

/-- The values that a block may have in a document. -/
def isLiteral : Value → Bool
  | .int _ | .float _ | .str _ => true
  | _ => false

/-- The double that a value is. -/
def double : Value → Float
  | .float x => x
  | _ => 0

end Value

namespace Block

mutual
/-- A block as a document has it, with everything written down. -/
def toEntry : Block → BlockEntry
  | ⟨id, type, values, none⟩ => ⟨some id, type, some values, none⟩
  | ⟨id, type, values, some cs⟩ => ⟨some id, type, some values, some (toEntries cs)⟩
/-- Blocks as a document has them. -/
def toEntries : List Block → List BlockEntry
  | [] => []
  | b :: rest => toEntry b :: toEntries rest
end

mutual
/-- A block with room for children in every container. -/
def refitted : Block → Block
  | ⟨id, type, values, none⟩ =>
    ⟨id, type, values, if BlockType.isContainer type then some [] else none⟩
  | ⟨id, type, values, some cs⟩ => ⟨id, type, values, some (refittedAll cs)⟩
/-- Blocks with room for children in every container. -/
def refittedAll : List Block → List Block
  | [] => []
  | b :: rest => refitted b :: refittedAll rest
end

theorem refitted_id (b : Block) : b.refitted.id = b.id := by
  obtain ⟨id, type, values, _ | cs⟩ := b <;> rfl

mutual
theorem ids_refitted : ∀ b : Block, Script.ids b.refitted.kids = Script.ids b.kids
  | ⟨id, type, values, none⟩ => by
    rw [refitted]
    cases BlockType.isContainer type <;> rfl
  | ⟨id, type, values, some cs⟩ => ids_refittedAll cs
/-- Room for children changes no ids. -/
theorem ids_refittedAll : ∀ bs : List Block, Script.ids (refittedAll bs) = Script.ids bs
  | [] => rfl
  | b :: bs => by
    rw [refittedAll, Script.ids_cons, Script.ids_cons, refitted_id, ids_refitted b,
      ids_refittedAll bs]
end

end Block

namespace Script

/-- A script that a document can hold: its blocks have ids and types, their values are literals, and
only containers have children. -/
def Savable (s : Script) : Prop :=
  ∀ b ∈ s.preorder, b.id ≠ "" ∧ b.type ≠ "" ∧ (∀ v ∈ b.values, v.isLiteral = true) ∧
    (b.children ≠ none → b.isContainer = true)

instance (s : Script) : Decidable s.Savable := inferInstanceAs (Decidable (∀ b ∈ s.preorder, _))

theorem savable_nil : Savable [] := forall_preorder_nil

theorem savable_cons {b : Block} {s : Script} :
    Savable (b :: s) ↔
      (b.id ≠ "" ∧ b.type ≠ "" ∧ (∀ v ∈ b.values, v.isLiteral = true) ∧
        (b.children ≠ none → b.isContainer = true)) ∧
        Savable b.kids ∧ Savable s :=
  forall_preorder_cons

end Script

/-! ## Reading it -/

/-- Items that are written one by one are read one by one. -/
theorem Schema.itemsFrom_map {α β : Type} {read : Value → Checked α} {write : β → Value}
    {result : β → α} :
    ∀ {items : List β}, (∀ b ∈ items, read (write b) = .ok (result b)) →
      ∀ n, itemsFrom read n (items.map write) = .ok (items.map result) := by
  intro items
  induction items with
  | nil => intro _ n; rfl
  | cons b items ih =>
    intro h n
    have hrest := ih (fun c hc => h c (List.mem_cons_of_mem b hc)) (n + 1)
    rw [List.map_cons, itemsFrom, h b List.mem_cons_self, hrest]
    rfl

theorem Schema.literals_ok {values : List Value} (h : ∀ v ∈ values, v.isLiteral = true) :
    list literal (.list values) = .ok values := by
  have hread : ∀ v ∈ values, literal (id v) = .ok (id v) := by
    intro v hv
    have := h v hv
    cases v <;> first | rfl | cases this
  simpa [list] using itemsFrom_map hread 0

namespace BlockEntry

open Block

/-- Reads a block with its id, its type and its values written down. -/
theorem check_fields {id type : String} {values : List Value} {rest : List (Key × Value)}
    {children : Option (List BlockEntry)} (htype : type ≠ "")
    (hvalues : ∀ v ∈ values, v.isLiteral = true) (hchildren : checkChildren rest = .ok children)
    (hrest : Schema.unknownFields fieldNames rest = []) :
    check (.object ((.str "id", .str id) :: (.str "type", .str type) ::
      (.str "values", .list values) :: rest)) =
      .ok ⟨some id, type, some values, children⟩ := by
  have hknown : Schema.unknownFields fieldNames
      ((.str "id", .str id) :: (.str "type", .str type) :: (.str "values", .list values) :: rest) =
        [] := hrest
  rw [check, hknown]
  simp [Schema.withDefault, Schema.required, field?, Schema.optional, Schema.text,
    Schema.nonEmptyText_of_ne htype, Schema.literals_ok hvalues, checkChildren, hchildren,
    Except.map]

mutual
/-- What is written of a block is read back. -/
theorem check_toValue : ∀ {b : Block}, Script.Savable [b] → check b.toValue = .ok b.toEntry
  | ⟨id, type, values, none⟩, h => by
    obtain ⟨⟨-, htype, hvalues, -⟩, -, -⟩ := Script.savable_cons.mp h
    exact check_fields htype hvalues rfl rfl
  | ⟨id, type, values, some cs⟩, h => by
    obtain ⟨⟨-, htype, hvalues, -⟩, hkids, -⟩ := Script.savable_cons.mp h
    have hread : checkFrom 0 (toValues cs) = .ok (toEntries cs) := checkFrom_toValues hkids 0
    refine check_fields htype hvalues ?_ rfl
    simp [checkChildren, checkChildList, hread, Except.map]
theorem checkFrom_toValues :
    ∀ {bs : List Block}, Script.Savable bs → ∀ n, checkFrom n (toValues bs) = .ok (toEntries bs)
  | [], _, n => by rw [toValues, checkFrom, toEntries]
  | b :: bs, h, n => by
    obtain ⟨hown, hkids, hrest⟩ := Script.savable_cons.mp h
    have hfirst : Script.Savable [b] := Script.savable_cons.mpr ⟨hown, hkids, Script.savable_nil⟩
    rw [toValues, checkFrom, check_toValue hfirst, checkFrom_toValues hrest (n + 1)]
    rfl
end

mutual
/-- A block with everything written down is built as it is, with room for children in
every container. -/
theorem build_toEntry (f : BlockFactory) :
    ∀ {b : Block}, Script.Savable [b] → build f b.toEntry = (b.refitted, f, [])
  | ⟨id, type, values, none⟩, h => by
    obtain ⟨⟨hid, -⟩, -, -⟩ := Script.savable_cons.mp h
    have hchosen : chooseId f (some id) type = (id, f) := chooseId_given hid f type
    rw [toEntry, build]
    cases hc : BlockType.isContainer type <;> simp [buildKids, refitted, hc, hchosen]
  | ⟨id, type, values, some cs⟩, h => by
    obtain ⟨⟨hid, -, -, hroom⟩, hkids, -⟩ := Script.savable_cons.mp h
    have hc : BlockType.isContainer type = true := hroom (Option.some_ne_none cs)
    have hchosen : chooseId f (some id) type = (id, f) := chooseId_given hid f type
    have hbuilt : buildAll f (toEntries cs) = (refittedAll cs, f, []) := buildAll_toEntries f hkids
    rw [toEntry, build, if_pos hc, buildKids, hbuilt]
    simp [hchosen, refitted]
theorem buildAll_toEntries (f : BlockFactory) : ∀ {bs : List Block}, Script.Savable bs →
    buildAll f (toEntries bs) = (refittedAll bs, f, [])
  | [], _ => by rw [toEntries, buildAll, refittedAll]
  | b :: bs, h => by
    obtain ⟨hown, hkids, hrest⟩ := Script.savable_cons.mp h
    have hfirst : Script.Savable [b] := Script.savable_cons.mpr ⟨hown, hkids, Script.savable_nil⟩
    rw [toEntries, buildAll, build_toEntry f hfirst]
    simp [buildAll_toEntries f hrest, refittedAll]
end

/-- The blocks of a script are read like those of a container. -/
theorem itemsFrom_check :
    ∀ (items : List Value) (n : Nat), Schema.itemsFrom check n items = checkFrom n items := by
  intro items
  induction items with
  | nil => intro n; rw [Schema.itemsFrom, checkFrom]
  | cons v items ih => intro n; rw [Schema.itemsFrom, checkFrom, ih]

end BlockEntry

/-! ## Actors -/

/-- An actor that a document can hold. Its size is not written down, so it has to be
that of its kind. -/
structure Actor.Savable (catalog : Catalog) (a : Actor) : Prop where
  named : a.id ≠ ""
  sprite : ∃ sprite, catalog.get? a.kind = some sprite ∧ a.width = sprite.width ∧
    a.height = sprite.height
  x : ∃ x, a.x = .float x
  y : ∃ y, a.y = .float y
  heading : ∃ heading, a.heading = .float heading
  scale : ∃ scale, a.scale = .float scale
  blockIds : a.script.ids.Nodup
  script : a.script.Savable

/-- An actor as a document has it, with everything written down. -/
def Actor.toEntry (a : Actor) : ActorEntry :=
  { id := some a.id, kind := a.kind, x := a.x.double, y := a.y.double,
    heading := some a.heading.double
    scale := some a.scale.double, script := Block.toEntries a.script }

/-- An actor as it is loaded again: without a message, and with room for children in
every container. -/
def Actor.reloaded (a : Actor) : Actor :=
  { a with message := none, script := Block.refittedAll a.script }

namespace ActorEntry

variable {catalog : Catalog} {a : Actor}

theorem check_toDocument (h : a.Savable catalog) (hkind : a.kind ≠ "") :
    check a.toDocument = .ok a.toEntry := by
  obtain ⟨id, kind, x, y, heading, scale, width, height, message, script⟩ := a
  obtain ⟨-, -, ⟨x, rfl⟩, ⟨y, rfl⟩, ⟨heading, rfl⟩, ⟨scale, rfl⟩, -, hscript⟩ := h
  have hread : Schema.list BlockEntry.check (.list (Block.toValues script)) =
      .ok (Block.toEntries script) := by
    rw [Schema.list, BlockEntry.itemsFrom_check]
    exact BlockEntry.checkFrom_toValues hscript 0
  rw [Actor.toDocument, Value.record]
  simp only [List.map_cons, List.map_nil, check]
  simp [Schema.withDefault, Schema.required, field?, Schema.optional, Schema.text,
    Schema.nonEmptyText_of_ne hkind, Schema.double, hread, Schema.unknownFields, fieldNames,
    Except.map, Actor.toEntry, Value.double]

/-- An actor with everything written down is built as it is loaded again. -/
theorem build_toEntry (h : a.Savable catalog) (settings : Settings) {before : List Actor}
    (f : BlockFactory) (hfresh : a.id ∉ before.map (·.id)) :
    build catalog settings before f a.toEntry = ([], .ok (a.reloaded, f)) := by
  obtain ⟨id, kind, x, y, heading, scale, width, height, message, script⟩ := a
  obtain ⟨hid, ⟨sprite, hsprite, rfl, rfl⟩, ⟨x, rfl⟩, ⟨y, rfl⟩, ⟨heading, rfl⟩, ⟨scale, rfl⟩, hids,
    hscript⟩ := h
  simp only at hsprite hid hids hscript hfresh
  have hgiven : givenId (some id) = some id := givenId_eq_some.mpr ⟨rfl, hid⟩
  have hdistinct : Script.duplicateIds (Block.refittedAll script) = [] := by
    rw [Script.duplicateIds_eq_nil, Block.ids_refittedAll]
    exact hids
  simp only [build, Actor.toEntry, hsprite, hgiven, Option.getD_some,
    BlockEntry.buildAll_toEntries f hscript, hdistinct]
  rw [if_neg (by simpa using hfresh)]
  rfl

/-- Actors with everything written down are built in order. -/
theorem buildAll_toEntries (settings : Settings) (f : BlockFactory) :
    ∀ {actors before : List Actor},
    (∀ a ∈ actors, a.Savable catalog) → ((before ++ actors).map (·.id)).Nodup →
    buildAll catalog settings before f (actors.map Actor.toEntry) =
      ([], .ok (before ++ actors.map Actor.reloaded)) := by
  intro actors
  induction actors with
  | nil =>
    intro before _ _
    simp [buildAll]
  | cons a actors ih =>
    intro before h hids
    have hfresh : a.id ∉ before.map (·.id) := by
      rw [List.map_append, List.map_cons] at hids
      intro hmem
      exact (List.nodup_append.mp hids).2.2 _ hmem _ List.mem_cons_self rfl
    have hids' : ((before ++ [a.reloaded] ++ actors).map (·.id)).Nodup := by
      simpa [Actor.reloaded] using hids
    rw [List.map_cons, buildAll, build_toEntry (h a List.mem_cons_self) settings f hfresh]
    simp only [List.nil_append]
    rw [ih (fun b hb => h b (List.mem_cons_of_mem a hb)) hids']
    simp

end ActorEntry

/-! ## Stages -/

/-- A stage that a document can hold. -/
structure Stage.Savable (catalog : Catalog) (s : Stage) : Prop where
  actorIds : s.ids.Nodup
  actors : ∀ a ∈ s.actors, a.Savable catalog
  selection : ∀ id ∈ s.selected, id ∈ s.ids
  selected : s.selected = none → s.actors = []

/-- A stage as it is loaded again: stopped, without messages, and with room for children
in every container. -/
def Stage.reloaded (s : Stage) : Stage := ⟨s.actors.map Actor.reloaded, s.selected, false⟩

/-- A stage as a document, with everything written down. -/
def Stage.entries (s : Stage) (settings : Settings) (name : String) : ProjectDocument :=
  { name := name, stage := settings.fields, actors := s.actors.map Actor.toEntry,
    selected := s.selected }

namespace ProjectDocument

variable {catalog : Catalog} {s : Stage}

theorem checkSettings_record (fields : Assoc Value) :
    checkSettings (fields.map fun e => (Key.str e.1, e.2)) = .ok fields := by
  induction fields with
  | nil => rfl
  | cons e rest ih =>
    rw [List.map_cons, checkSettings, ih]
    rfl

theorem check_toDocument (h : s.Savable catalog) (hkinds : ∀ a ∈ s.actors, a.kind ≠ "")
    (settings : Settings) (name : String) :
    check (s.toDocument settings name) = .ok (s.entries settings name) := by
  have hactors : Schema.list ActorEntry.check (.list (s.actors.map Actor.toDocument)) =
      .ok (s.actors.map Actor.toEntry) := by
    refine Schema.itemsFrom_map (fun a ha => ?_) 0
    exact ActorEntry.check_toDocument (h.actors a ha) (hkinds a ha)
  have hstage : checkStage settings.toValue = .ok settings.fields :=
    checkSettings_record settings.fields
  have hselected : Schema.optional Schema.text ((s.selected.map Value.str).getD .null) =
      .ok s.selected := by
    cases s.selected <;> rfl
  rw [Stage.toDocument, Value.record]
  simp only [List.map_cons, List.map_nil, check]
  simp [Schema.withDefault, field?, Schema.text, hactors, hstage, hselected, Stage.entries]

theorem chooseSelected_self (h : s.Savable catalog) :
    chooseSelected s.selected s.ids = (s.selected, []) := by
  cases hs : s.selected with
  | none => simp [chooseSelected, Stage.ids, h.selected hs]
  | some id =>
    have hmem : id ∈ s.ids := h.selection id hs
    simp [chooseSelected, hmem]

theorem build_entries (h : s.Savable catalog) (settings used : Settings) (name : String)
    (f : BlockFactory) :
    (s.entries settings name).build catalog used f = ([], .ok s.reloaded) := by
  have hbuilt : ActorEntry.buildAll catalog used [] f (s.actors.map Actor.toEntry) =
      ([], .ok ([] ++ s.actors.map Actor.reloaded)) :=
        ActorEntry.buildAll_toEntries used f h.actors h.actorIds
  have hids : (s.actors.map Actor.reloaded).map (·.id) = s.ids := by
    rw [List.map_map]
    rfl
  simp only [build, Stage.entries, hbuilt, List.nil_append, hids, chooseSelected_self h]
  rfl

end ProjectDocument

/-- **A stage that is saved is loaded as it was.** What is written passes the check, nothing is
reported while it is built, and the settings and the stage come back: the stage stopped, without
messages, and with room for children in every container. -/
theorem Stage.save_reloads {catalog : Catalog} {s : Stage} (h : s.Savable catalog)
    (hkinds : ∀ a ∈ s.actors, a.kind ≠ "") {settings : Settings} (hlimits : settings.LimitsOrdered)
    (name : String) :
    ∃ d, ProjectDocument.check (s.toDocument settings name) = .ok d ∧ d.name = name ∧
      Settings.read (.record d.stage) none = ([], .ok settings) ∧
      ∀ (used : Settings) (f : BlockFactory), d.build catalog used f = ([], .ok s.reloaded) := by
  refine ⟨s.entries settings name, ProjectDocument.check_toDocument h hkinds settings name, rfl, ?_,
    ?_⟩
  · exact Settings.read_fields hlimits
  · intro used f
    exact ProjectDocument.build_entries h settings used name f

namespace Stage

/-- A stage in the middle of a run: a repeat block without room for children inside another one, a
say block without values, and a message. -/
def midRun : Stage :=
  { actors :=
      [{ id := "hero", x := .float 10, scale := .float 50, message := some "hi"
         script :=
           [⟨"f", BlockType.flagClicked, [], none⟩,
            ⟨"r", BlockType.repeatTimes, [.int 2],
              some [⟨"q", BlockType.repeatTimes, [.str "3"], none⟩,
                ⟨"s", BlockType.say, [], none⟩]⟩] },
       { id := "cat-1", kind := "dog", heading := .float 180 }]
    selected := some "cat-1"
    running := true }

/-- The stage in the middle of a run is saved with whole numbers for limits and loaded. -/
theorem save_reloads_midRun :
    let settings : Settings := { minScale := .int 10, maxScale := .int 500 }
    midRun.Savable .builtIn ∧ (∀ a ∈ midRun.actors, a.kind ≠ "") ∧
      ∃ d, ProjectDocument.check (midRun.toDocument settings "mid") = .ok d ∧
        d.realize .builtIn none { token := "t" } =
          ([], .ok (settings,
            { actors :=
                [{ id := "hero", x := .float 10, scale := .float 50
                   script :=
                     [⟨"f", BlockType.flagClicked, [], none⟩,
                      ⟨"r", BlockType.repeatTimes, [.int 2],
                        some [⟨"q", BlockType.repeatTimes, [.str "3"], some []⟩,
                          ⟨"s", BlockType.say, [], none⟩]⟩] },
                 { id := "cat-1", kind := "dog", heading := .float 180 }]
              selected := some "cat-1"
              running := false })) := by
  intro settings
  have hsavable : midRun.Savable .builtIn := by
    refine ⟨by decide, ?_, by decide, by decide⟩
    intro a ha
    simp only [midRun, List.mem_cons, List.not_mem_nil, or_false] at ha
    rcases ha with rfl | rfl
    · exact ⟨by decide, ⟨_, rfl, rfl, rfl⟩, ⟨_, rfl⟩, ⟨_, rfl⟩, ⟨_, rfl⟩, ⟨_, rfl⟩, by decide,
        by decide⟩
    · exact ⟨by decide, ⟨_, rfl, rfl, rfl⟩, ⟨_, rfl⟩, ⟨_, rfl⟩, ⟨_, rfl⟩, ⟨_, rfl⟩, by decide,
        by decide⟩
  have hlimits : settings.LimitsOrdered := rfl
  have hkinds : ∀ a ∈ midRun.actors, a.kind ≠ "" := by decide
  refine ⟨hsavable, hkinds, ?_⟩
  obtain ⟨d, hcheck, -, hsettings, hbuild⟩ := save_reloads hsavable hkinds hlimits "mid"
  refine ⟨d, hcheck, ?_⟩
  rw [ProjectDocument.realize, hsettings]
  simp only [hbuild]
  rfl

/-- A catalog with a kind that has no name. -/
def namelessCatalog : Catalog := [("", .ofKind "")]

/-- A stage with an actor of that kind. -/
def kindless : Stage := { actors := [{ id := "hero", kind := "" }], selected := some "hero" }

/-- The stage has all that a stage needs to be saved, and what is written of it is not
read again. -/
theorem kindless_refused :
    kindless.Savable namelessCatalog ∧ Settings.LimitsOrdered {} ∧
      ProjectDocument.check (kindless.toDocument {} "Untitled") =
        .error [⟨.emptyText, [.field "actors", .index 0, .field "kind"]⟩] := by
  have hsavable : kindless.Savable namelessCatalog := by
    refine ⟨by decide, ?_, by decide, by decide⟩
    intro a ha
    obtain rfl := List.mem_singleton.mp ha
    exact ⟨by decide, ⟨_, rfl, rfl, rfl⟩, ⟨_, rfl⟩, ⟨_, rfl⟩, ⟨_, rfl⟩, ⟨_, rfl⟩, by decide,
      by decide⟩
  exact ⟨hsavable, rfl, rfl⟩

end Stage

end ScriptedStage
