import ScriptedStage.Proofs.Printing
import ScriptedStage.Settings

/-!
Settings that are read from a document. They are taken as they are, whatever their values; then the
two limits of the scale are compared, and notes about names that are no settings, about limits the
wrong way round and about the frame rate of the environment are printed. Each of the last two shows
a setting, so it can fail.

What is proved:
  1. `read_fields`: settings that were written are read back, if their limits are in order;
  2. `read_stops_iff`: when reading settings fails, that is, when the limits cannot be compared or a
     note cannot be printed.
-/
namespace ScriptedStage

namespace Value

mutual
/-- Values that have no order are of the wrong kind. -/
theorem less_fails : ∀ a b : Value, FailsOnly (· = .wrongKind) (a.less b)
  | .list xs, b => by
    cases b with
    | list ys =>
      rw [less]
      exact lessItems_fails xs ys
    | _ => exact (number_fails _).bind fun _ => (number_fails _).bind fun _ => .ok _
  | .date s, b => by
    cases b with
    | date t =>
      rw [less]
      split
      · exact .ok _
      · exact .error rfl
    | _ => exact (number_fails _).bind fun _ => (number_fails _).bind fun _ => .ok _
  | .str s, b => by
    cases b with
    | str t => exact .ok _
    | _ => exact (number_fails _).bind fun _ => (number_fails _).bind fun _ => .ok _
  | .null, b | .bool _, b | .int _, b | .float _, b | .object _, b =>
    (number_fails _).bind fun _ => (number_fails b).bind fun _ => .ok _
theorem lessItems_fails : ∀ xs ys : List Value, FailsOnly (· = .wrongKind) (lessItems xs ys)
  | [], ys => by
    rw [lessItems]
    exact .ok _
  | x :: xs, [] => by
    rw [lessItems]
    exact .ok _
  | x :: xs, y :: ys => by
    rw [lessItems]
    split
    · exact lessItems_fails xs ys
    · exact less_fails x y
end

end Value

namespace Settings

theorem textKeys_record (given : Assoc Value) :
    textKeys ((given.map fun e => (Key.str e.1, e.2)).map (·.1)) = some given.keys := by
  induction given with
  | nil => rfl
  | cons e rest ih =>
    rw [List.map_cons, List.map_cons, textKeys, ih]
    rfl

theorem zip_record (given : Assoc Value) :
    given.keys.zip ((given.map fun e => (Key.str e.1, e.2)).map (·.2)) = given := by
  induction given with
  | nil => rfl
  | cons e rest ih => exact congrArg (e :: ·) ih

theorem ordered_nil : (ofFields []).ordered = .ok ([], {}) := rfl

/-- Settings whose limits cannot be compared are not read, and what is noted before is
about unknown names. -/
theorem read_of_error {given : Assoc Value} {e : Fault} (h : (ofFields given).ordered = .error e)
    (rate : Option String) : read (.record given) rate = (unknownNotes given.keys, .error e) := by
  cases given with
  | nil => cases ordered_nil.symm.trans h
  | cons first rest =>
    have hpresent : (Value.object ((first :: rest).map fun e => (Key.str e.1, e.2))).isFalsy = false := rfl
    rw [Value.record, read, hpresent, if_neg Bool.false_ne_true, textKeys_record]
    dsimp only
    rw [zip_record, h]

/-- Settings are read in one way, whether there are any or not. -/
theorem read_of_ok {given : Assoc Value} {swapNotes : List Note} {s : Settings}
    (h : (ofFields given).ordered = .ok (swapNotes, s)) (rate : Option String) :
    read (.record given) rate =
      (unknownNotes given.keys ++ swapNotes ++ (s.withFrameRate rate).1, .ok (s.withFrameRate rate).2) := by
  cases given with
  | nil =>
    have hnotes : unknownNotes (Assoc.keys ([] : Assoc Value)) = [] := by
      simp [unknownNotes, sortTexts, Assoc.keys]
    obtain ⟨rfl, rfl⟩ := Prod.mk.inj (Except.ok.inj (ordered_nil.symm.trans h))
    rw [hnotes]
    rfl
  | cons first rest =>
    have hpresent : (Value.object ((first :: rest).map fun e => (Key.str e.1, e.2))).isFalsy = false := rfl
    rw [Value.record, read, hpresent, if_neg Bool.false_ne_true, textKeys_record]
    dsimp only
    rw [zip_record, h]

/-- Limits of the scale that need no putting in order. -/
def LimitsOrdered (s : Settings) : Prop := s.maxScale.less s.minScale = .ok false

theorem ofFields_fields (s : Settings) : ofFields s.fields = s := by
  simp [ofFields, fields, set]

/-- Settings with ordered limits are read as they were written. -/
theorem read_fields {s : Settings} (h : s.LimitsOrdered) : read (.record s.fields) none = ([], .ok s) := by
  have hordered : (ofFields s.fields).ordered = .ok ([], s) := by
    rw [ofFields_fields, ordered, h]
    rfl
  have hnotes : unknownNotes s.fields.keys = [] := by
    have hknown : names.eraseDups.filter (fun n => !names.contains n) = [] := by decide
    show unknownNotes names = []
    simp only [unknownNotes, hknown]
    simp [sortTexts]
  rw [read_of_ok hordered, hnotes]
  rfl

/-! ## Settings that stop the way -/

theorem unknownNotes_plain (names : List String) : ∀ n ∈ unknownNotes names, n.Plain := by
  intro n hn
  simp only [unknownNotes] at hn
  split at hn
  · cases hn
  · rw [List.mem_singleton.mp hn]
    exact ⟨_, rfl⟩

/-- Why settings stop the way: a comparison or a note about them fails. -/
inductive Stops (j : Journal) (rate : Option String) (s : Settings) : Fault → Prop
  /-- The limits of the scale cannot be compared. -/
  | limits {e : Fault} (h : s.maxScale.less s.minScale = .error e) : Stops j rate s e
  /-- The limits are the wrong way round, and the note about it cannot be printed. -/
  | swap {e : Fault} (hless : s.maxScale.less s.minScale = .ok true) (h : j.write s.swapNote = .error e) :
      Stops j rate s e
  /-- The limits are fine, the frame rate of the environment is none, and the note about
  it cannot be printed. -/
  | rate {e : Fault} {swapped : Bool} {text : String} (hless : s.maxScale.less s.minScale = .ok swapped)
      (hswap : swapped = true → ∃ j', j.write s.swapNote = .ok j') (hrate : rate = some text)
      (hgiven : text ≠ "")
      (hnone : Numeric.readIntAnyScript text = none) (h : j.write (s.rateNote text) = .error e) :
      Stops j rate s e

theorem Stops.fault {j : Journal} {rate : Option String} {s : Settings} {e : Fault} (h : s.Stops j rate e) :
    e = .wrongKind ∨ e = .badValue ∨ e = .tooLarge := by
  cases h with
  | limits h => exact .inl (Value.less_fails _ _ e h)
  | swap _ h => exact .inr (Journal.write_form_fails h)
  | rate _ _ _ _ _ h => exact .inr (Journal.write_form_fails h)

theorem withFrameRate_stops_iff {j : Journal} {s used : Settings} {rate : Option String} {e : Fault} :
    (j.settle ((s.withFrameRate rate).1, .ok used)).2 = .error e ↔
      ∃ text, rate = some text ∧ text ≠ "" ∧ Numeric.readIntAnyScript text = none ∧
        j.write (s.rateNote text) = .error e := by
  have hprinted : ∀ text, (j.settle ([s.rateNote text], .ok used)).2 = .error e ↔
      j.write (s.rateNote text) = .error e := by
    intro text
    rw [Journal.settle_cons]
    cases j.write (s.rateNote text) <;> simp [Except.bind, Journal.settle, Journal.writeAll]
  unfold withFrameRate
  split
  · simp [Journal.settle, Journal.writeAll]
  · simp [Journal.settle, Journal.writeAll]
  · rename_i text hgiven
    split
    · rename_i hread
      simp [Journal.settle, Journal.writeAll, hread]
    · rename_i hread
      rw [hprinted text]
      constructor
      · intro h
        exact ⟨text, rfl, hgiven, hread, h⟩
      · rintro ⟨text', htext, -, -, h⟩
        rwa [Option.some.inj htext]

/-- The note about the frame rate does not show the limits. -/
theorem ordered_swapped {s : Settings} (h : s.maxScale.less s.minScale = .ok true) :
    ∃ s', s.ordered = .ok ([s.swapNote], s') ∧ s'.rateNote = s.rateNote := by
  refine ⟨{ s with minScale := s.maxScale, maxScale := s.minScale }, ?_, rfl⟩
  rw [ordered, h]
  rfl

/-- Limits that can be compared stop the way only by a note. -/
theorem stops_iff_of_less {j : Journal} {s : Settings} {rate : Option String} {e : Fault} {swapped : Bool}
    (hless : s.maxScale.less s.minScale = .ok swapped) :
    s.Stops j rate e ↔
      (swapped = true ∧ j.write s.swapNote = .error e) ∨
        (swapped = true → ∃ j', j.write s.swapNote = .ok j') ∧
          ∃ text, rate = some text ∧ text ≠ "" ∧ Numeric.readIntAnyScript text = none ∧
            j.write (s.rateNote text) = .error e := by
  constructor
  · intro h
    cases h with
    | limits h => rw [hless] at h; cases h
    | swap h hnote =>
      rw [hless] at h
      exact .inl ⟨Except.ok.inj h, hnote⟩
    | rate h hswap hrate hgiven hnone hnote =>
      rw [hless] at h
      rw [← Except.ok.inj h] at hswap
      exact .inr ⟨hswap, _, hrate, hgiven, hnone, hnote⟩
  · rintro (⟨rfl, hnote⟩ | ⟨hswap, text, hrate, hgiven, hnone, hnote⟩)
    · exact .swap hless hnote
    · exact .rate hless hswap hrate hgiven hnone hnote

/-- Settings stop the way for the reasons above and for no others. -/
theorem read_stops_iff {j : Journal} {given : Assoc Value} {rate : Option String} {e : Fault} :
    (j.settle (read (.record given) rate)).2 = .error e ↔ (ofFields given).Stops j rate e := by
  have hunknown := unknownNotes_plain given.keys
  cases hless : (ofFields given).maxScale.less (ofFields given).minScale with
  | error e' =>
    have hordered : (ofFields given).ordered = .error e' := by rw [ordered, hless]; rfl
    have houtcome : (j.settle (unknownNotes given.keys, (.error e' : Except Fault Settings))).2 =
        .error e' := by
      obtain ⟨j', hj'⟩ := j.writeAll_of_texts hunknown
      rw [Journal.settle_eq, hj']
      rfl
    rw [read_of_error hordered, houtcome]
    constructor
    · rintro ⟨⟩
      exact .limits hless
    · intro h
      cases h with
      | limits h => rw [Except.error.inj (hless.symm.trans h)]
      | swap h _ => rw [hless] at h; cases h
      | rate h _ _ _ _ _ => rw [hless] at h; cases h
  | ok swapped =>
    rw [stops_iff_of_less hless]
    cases swapped with
    | false =>
      have hordered : (ofFields given).ordered = .ok ([], ofFields given) := by rw [ordered, hless]; rfl
      rw [read_of_ok hordered, List.append_nil, Journal.settle_append hunknown, withFrameRate_stops_iff]
      simp
    | true =>
      obtain ⟨s, hordered, hnote⟩ := ordered_swapped hless
      rw [read_of_ok hordered, List.append_assoc, Journal.settle_append hunknown, List.singleton_append,
        Journal.settle_cons]
      cases hw : j.write (ofFields given).swapNote with
      | error e' => simp [Except.bind]
      | ok j' =>
        show (j.settle _).2 = .error e ↔ _
        rw [withFrameRate_stops_iff, hnote]
        simp

end Settings

end ScriptedStage
