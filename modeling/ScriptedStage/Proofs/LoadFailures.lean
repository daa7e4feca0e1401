import ScriptedStage.Project.Load
import ScriptedStage.Proofs.BuiltStages
import ScriptedStage.Proofs.ReadSettings

/-!
How loading a project fails. It is meant to fail with a project error only, which says what is wrong
with the file, and so it does while the content is checked as a document and while the stage is
built. Settings are the gap between the two, as the check takes them whatever their values.

What is proved:
  1. `documentOf_fails`, `build_plain`: the check knows project errors only, and what is noted while
     a stage is built can be printed;
  2. `ofContent_settled`: once the settings of a document are read, there is a
     project, or a project error;
  3. `stops_otherwise_iff`: loading fails without a project error exactly if the settings stop it.
-/
namespace ScriptedStage

namespace ProjectDocument

/-- What is noted while a stage is built can be printed. -/
theorem build_plain (catalog : Catalog) (settings : Settings) (f : BlockFactory) (d : ProjectDocument) :
    ∀ n ∈ (d.build catalog settings f).1, n.Plain := by
  obtain ⟨hnotes, -⟩ := ActorEntry.buildAll_parts catalog settings d.actors [] f (by simp) List.nodup_nil
  rcases hbuild : ActorEntry.buildAll catalog settings [] f d.actors with ⟨notes, outcome⟩
  rw [hbuild] at hnotes
  rw [build, hbuild]
  cases outcome with
  | error error => exact hnotes
  | ok actors =>
    intro n hn
    rcases List.mem_append.mp hn with hn | hn
    · exact hnotes n hn
    · exact (chooseSelected_parts d.selected _).1 n hn

end ProjectDocument

namespace Project

theorem documentOf_fails (path : String) (content : Value) :
    FailsOnly (fun e => ∃ error, e = .project error) (documentOf path content) := by
  unfold documentOf
  split
  · intro e h
    cases hcheck : ProjectDocument.check (.object _) with
    | ok d => rw [hcheck] at h; cases h
    | error issues => rw [hcheck] at h; cases h; exact ⟨_, rfl⟩
  · exact .error ⟨_, rfl⟩

section Documents

variable {path : String} {content : Value} {d : ProjectDocument} {rate : Option String} {notes : List Note}

theorem ofContent_of_error (hdocument : documentOf path content = .ok d) (catalog : Catalog) {e : Fault}
    (hread : Settings.read (.record d.stage) rate = (notes, .error e)) :
    ofContent catalog rate path content = (notes, .error e) := by
  rw [ofContent, hdocument]
  dsimp only
  rw [ProjectDocument.realize, hread]

/-- Once the settings of a document are read, there is a project, or a project error, and what is
noted can be printed. -/
theorem ofContent_of_ok (hdocument : documentOf path content = .ok d) (catalog : Catalog) {s : Settings}
    (hread : Settings.read (.record d.stage) rate = (notes, .ok s)) :
    ∃ more, (∀ n ∈ more, n.Plain) ∧
      ((∃ p, ofContent catalog rate path content = (notes ++ more, .ok p)) ∨
        ∃ error, ofContent catalog rate path content = (notes ++ more, .error (.project error))) := by
  have hplain := d.build_plain catalog s { token := BlockFactory.defaultToken }
  rw [ofContent, hdocument]
  dsimp only
  rw [ProjectDocument.realize, hread]
  dsimp only
  rcases hbuild : d.build catalog s { token := BlockFactory.defaultToken } with ⟨more, error | stage⟩
  · rw [hbuild] at hplain
    exact ⟨more, hplain, .inr ⟨error, rfl⟩⟩
  · rw [hbuild] at hplain
    refine ⟨more ++ [loadedNote ⟨d.name, s, stage⟩ path], ?_, .inl ⟨_, by rw [← List.append_assoc]; rfl⟩⟩
    intro n hn
    rcases List.mem_append.mp hn with hn | hn
    · exact hplain n hn
    · rw [List.mem_singleton.mp hn]
      exact projectNote_plain _ _

/-- What comes of a document is decided by its settings up to a project error. -/
theorem ofContent_settled (hdocument : documentOf path content = .ok d) (catalog : Catalog)
    (rate : Option String) (j : Journal) :
    (∃ e, (j.settle (Settings.read (.record d.stage) rate)).2 = .error e ∧
        (j.settle (ofContent catalog rate path content)).2 = .error e) ∨
      (∃ s, (j.settle (Settings.read (.record d.stage) rate)).2 = .ok s) ∧
        ((∃ p, (j.settle (ofContent catalog rate path content)).2 = .ok p) ∨
          ∃ error, (j.settle (ofContent catalog rate path content)).2 = .error (.project error)) := by
  rcases hread : Settings.read (.record d.stage) rate with ⟨notes, e | s⟩
  · rw [ofContent_of_error hdocument catalog hread]
    simp only [Journal.settle_eq]
    cases (j.writeAll notes).2 with
    | error e' => exact .inl ⟨e', rfl, rfl⟩
    | ok _ => exact .inl ⟨e, rfl, rfl⟩
  · obtain ⟨more, hplain, hof⟩ := ofContent_of_ok hdocument catalog hread
    have hsettled : ∀ x : Except Fault Project, (j.settle (notes ++ more, x)).2 =
        (j.writeAll notes).2.bind fun _ => x := by
      intro x
      rw [Journal.settle_append_right hplain, Journal.settle_eq]
    cases hnotes : (j.writeAll notes).2 with
    | error e' =>
      refine .inl ⟨e', by rw [Journal.settle_eq, hnotes]; rfl, ?_⟩
      rcases hof with ⟨p, hp⟩ | ⟨error, herror⟩
      · rw [hp, hsettled, hnotes]
        rfl
      · rw [herror, hsettled, hnotes]
        rfl
    | ok _ =>
      refine .inr ⟨⟨s, by rw [Journal.settle_eq, hnotes]; rfl⟩, ?_⟩
      rcases hof with ⟨p, hp⟩ | ⟨error, herror⟩
      · exact .inl ⟨p, by rw [hp, hsettled, hnotes]; rfl⟩
      · exact .inr ⟨error, by rw [herror, hsettled, hnotes]; rfl⟩

theorem ofContent_of_stops (hdocument : documentOf path content = .ok d) (catalog : Catalog)
    {j : Journal} {e : Fault} (h : (Settings.ofFields d.stage).Stops j rate e) :
    (j.settle (ofContent catalog rate path content)).2 = .error e := by
  have hread := Settings.read_stops_iff.mpr h
  rcases ofContent_settled hdocument catalog rate j with ⟨e', hread', hsame⟩ | ⟨⟨s, hs⟩, -⟩
  · rw [hsame, Except.error.inj (hread'.symm.trans hread)]
  · rw [hs] at hread
    cases hread

end Documents

/-- **Loading fails without a project error exactly if the settings of the document stop it**: their
limits cannot be compared, or a note about them cannot be printed. -/
theorem stops_otherwise_iff (catalog : Catalog) (rate : Option String) (path : String)
    (content : Value) (j : Journal) (e : Fault) :
    ((j.settle (ofContent catalog rate path content)).2 = .error e ∧ ∀ error, e ≠ .project error) ↔
      ∃ d, documentOf path content = .ok d ∧ (Settings.ofFields d.stage).Stops j rate e := by
  constructor
  · rintro ⟨houtcome, hother⟩
    cases hdocument : documentOf path content with
    | error e' =>
      -- the check of the document knows project errors only
      obtain ⟨error, rfl⟩ := documentOf_fails path content e' hdocument
      rw [ofContent, hdocument] at houtcome
      cases houtcome
      exact absurd rfl (hother error)
    | ok d =>
      refine ⟨d, rfl, Settings.read_stops_iff.mp ?_⟩
      rcases ofContent_settled hdocument catalog rate j with
        ⟨e', hread, hsame⟩ | ⟨-, ⟨p, hp⟩ | ⟨error, herror⟩⟩
      · rw [hread, Except.error.inj (hsame.symm.trans houtcome)]
      · rw [hp] at houtcome
        cases houtcome
      · rw [herror] at houtcome
        cases houtcome
        exact absurd rfl (hother error)
  · rintro ⟨d, hdocument, hstops⟩
    refine ⟨ofContent_of_stops hdocument catalog hstops, ?_⟩
    rintro error rfl
    rcases hstops.fault with h | h | h <;> cases h

/-- A text for a limit of the scale passes the check of the document, and loading
stops at the comparison. -/
theorem text_limit_stops :
    (({} : Journal).settle
      (ofContent .builtIn none "project.yaml"
        (.record [("stage", .record [("min_scale", .str "abc")])]))).2 =
        .error .wrongKind :=
  ofContent_of_stops rfl .builtIn (.limits rfl)

end Project

end ScriptedStage
