import ScriptedStage.Journal.Template

/-!
What is printed. A note whose text cannot be made is a fault, but only where it would be printed,
and this depends on the settings of the journal alone: what has been printed before has no part in
it. So the outcome of notes in a row can be put together from the outcomes of each. A text that is
made from a template fails in two ways only: a number is too long to be written, or an infinity is
to be written as an integer.
-/
namespace ScriptedStage

/-! ## Notes in a row -/

/-- A note whose text is known. -/
def Note.Plain (n : Note) : Prop := ∃ t, n.text = .ok t

namespace Journal

variable {j j' : Journal}

theorem write_settings {n : Note} (h : j.write n = .ok j') : j'.settings = j.settings := by
  unfold write at h
  split at h
  · rw [Except.ok.inj h]
  · split at h
    · rw [Except.ok.inj h]
    · cases ht : n.text with
      | error e => rw [ht] at h; cases h
      | ok t =>
        rw [ht] at h
        rw [← Except.ok.inj h]
        split <;> rfl

theorem writeAll_settings (j : Journal) (notes : List Note) :
    (j.writeAll notes).1.settings = j.settings := by
  induction notes generalizing j with
  | nil => rfl
  | cons n notes ih =>
    rw [writeAll]
    cases hw : j.write n with
    | error e => rfl
    | ok j' => exact (ih j').trans (write_settings hw)

theorem settle_settings {α : Type} (j : Journal) (reported : List Note × Except Fault α) :
    (j.settle reported).1.settings = j.settings := by
  have hall := j.writeAll_settings reported.1
  unfold settle
  split <;> rename_i hw <;> rw [hw] at hall <;> exact hall

theorem write_of_text {n : Note} {t : String} (h : n.text = .ok t) (j : Journal) :
    ∃ j', j.write n = .ok j' := by
  unfold write
  split
  · exact ⟨j, rfl⟩
  · split
    · exact ⟨j, rfl⟩
    · rw [h]
      exact ⟨_, rfl⟩

/-- Notes whose texts are known are printed. -/
theorem writeAll_of_texts {notes : List Note} (h : ∀ n ∈ notes, n.Plain) (j : Journal) :
    ∃ j', j.writeAll notes = (j', .ok ()) := by
  induction notes generalizing j with
  | nil => exact ⟨j, rfl⟩
  | cons n notes ih =>
    obtain ⟨t, ht⟩ := h n List.mem_cons_self
    obtain ⟨j₁, hj₁⟩ := write_of_text ht j
    obtain ⟨j₂, hj₂⟩ := ih (fun m hm => h m (List.mem_cons_of_mem n hm)) j₁
    exact ⟨j₂, by rw [writeAll, hj₁]; exact hj₂⟩

theorem write_error (h : j.settings = j'.settings) {n : Note} {e : Fault} (hw : j.write n = .error e) :
    j'.write n = .error e := by
  have hadmits : j'.admits n = j.admits n := by simp only [admits, h]
  unfold write at hw ⊢
  rw [← h, hadmits]
  split at hw
  · cases hw
  · split at hw
    · cases hw
    · rename_i htrace hlevel
      rw [if_neg htrace, if_neg hlevel]
      cases ht : n.text with
      | error e' =>
        rw [ht] at hw
        cases hw
        rfl
      | ok text => rw [ht] at hw; cases hw

/-- Whether notes can be printed depends on the settings only. -/
theorem writeAll_congr (h : j.settings = j'.settings) (notes : List Note) :
    (j.writeAll notes).2 = (j'.writeAll notes).2 := by
  induction notes generalizing j j' with
  | nil => rfl
  | cons n notes ih =>
    rw [writeAll, writeAll]
    cases hw : j.write n with
    | error e => rw [write_error h hw]
    | ok k =>
      cases hw' : j'.write n with
      | error e =>
        rw [write_error h.symm hw'] at hw
        cases hw
      | ok k' => exact ih ((write_settings hw).trans (h.trans (write_settings hw').symm))

/-- Notes in a row are printed if each part is. -/
theorem writeAll_append (j : Journal) (notes more : List Note) :
    (j.writeAll (notes ++ more)).2 = (j.writeAll notes).2.bind fun _ => (j.writeAll more).2 := by
  induction notes generalizing j with
  | nil => rfl
  | cons n notes ih =>
    rw [List.cons_append, writeAll, writeAll]
    cases hw : j.write n with
    | error e => rfl
    | ok j' =>
      rw [ih j', writeAll_congr (write_settings hw) more]

theorem settle_eq {α : Type} (j : Journal) (notes : List Note) (x : Except Fault α) :
    j.settle (notes, x) = ((j.writeAll notes).1, (j.writeAll notes).2.bind fun _ => x) := by
  unfold settle
  split <;> rename_i hw <;> rw [hw] <;> rfl

theorem settle_cons {α : Type} (j : Journal) (n : Note) (more : List Note) (x : Except Fault α) :
    (j.settle (n :: more, x)).2 = (j.write n).bind fun _ => (j.settle (more, x)).2 := by
  rw [settle_eq, settle_eq, writeAll]
  cases hw : j.write n with
  | error e => rfl
  | ok j' =>
    dsimp only
    rw [writeAll_congr (write_settings hw) more]
    rfl

/-- Notes whose texts are known have no part in the outcome, before other notes and after them. -/
theorem settle_append {α : Type} {notes : List Note} (h : ∀ n ∈ notes, n.Plain) (j : Journal)
    (more : List Note) (x : Except Fault α) : (j.settle (notes ++ more, x)).2 = (j.settle (more, x)).2 := by
  obtain ⟨j', hj'⟩ := j.writeAll_of_texts h
  rw [settle_eq, settle_eq, writeAll_append, hj']
  rfl

theorem settle_append_right {α : Type} {more : List Note} (h : ∀ n ∈ more, n.Plain) (j : Journal)
    (notes : List Note) (x : Except Fault α) :
    (j.settle (notes ++ more, x)).2 = (j.settle (notes, x)).2 := by
  obtain ⟨j', hj'⟩ := j.writeAll_of_texts h
  rw [settle_eq, settle_eq, writeAll_append, hj']
  cases (j.writeAll notes).2 <;> rfl

end Journal

/-! ## Texts that cannot be made -/

/-- A computation that fails with faults of some kind only. -/
def FailsOnly {α : Type} (P : Fault → Prop) (x : Except Fault α) : Prop := ∀ e, x = .error e → P e

namespace FailsOnly

variable {α β : Type} {P Q : Fault → Prop}

theorem ok (a : α) : FailsOnly P (.ok a) := by
  intro e h
  cases h

theorem error {e : Fault} (h : P e) : FailsOnly P (.error e : Except Fault α) := by
  rintro e' ⟨⟩
  exact h

theorem bind {x : Except Fault α} {f : α → Except Fault β} (hx : FailsOnly P x)
    (hf : ∀ a, FailsOnly P (f a)) :
    FailsOnly P (x >>= f) := by
  intro e h
  cases x with
  | error e' => exact hx e (by cases h; rfl)
  | ok a => exact hf a e h

theorem map {x : Except Fault α} (hx : FailsOnly P x) (f : α → β) : FailsOnly P (x.map f) := by
  intro e h
  cases x with
  | error e' => exact hx e (by cases h; rfl)
  | ok a => cases h

theorem mono {x : Except Fault α} (hx : FailsOnly P x) (h : ∀ e, P e → Q e) : FailsOnly Q x :=
  fun e he => h e (hx e he)

end FailsOnly

theorem integerText_fails (n : Int) : FailsOnly (· = .badValue) (integerText n) := by
  unfold integerText
  split
  · exact .ok _
  · exact .error rfl

theorem Key.inspect_fails (k : Key) : FailsOnly (· = .badValue) k.inspect := by
  cases k with
  | int n => exact integerText_fails n
  | _ => exact .ok _

namespace Value

mutual
/-- Only a number that is too long cannot be shown. -/
theorem inspect_fails : ∀ v : Value, FailsOnly (· = .badValue) v.inspect
  | .null | .bool _ | .float _ | .str _ | .date _ => by
    rw [inspect]
    exact .ok _
  | .int n => by
    rw [inspect]
    exact integerText_fails n
  | .list items => by
    rw [inspect]
    exact (inspectItems_fails items).bind fun _ => .ok _
  | .object entries => by
    rw [inspect]
    exact (inspectEntries_fails entries).bind fun _ => .ok _
theorem inspectItems_fails : ∀ items : List Value, FailsOnly (· = .badValue) (inspectItems items)
  | [] => by
    rw [inspectItems]
    exact .ok _
  | v :: rest => by
    rw [inspectItems]
    exact (inspect_fails v).bind fun _ => (inspectItems_fails rest).bind fun _ => .ok _
theorem inspectEntries_fails :
    ∀ entries : List (Key × Value), FailsOnly (· = .badValue) (inspectEntries entries)
  | [] => by
    rw [inspectEntries]
    exact .ok _
  | (k, v) :: rest => by
    rw [inspectEntries]
    exact k.inspect_fails.bind fun _ => (inspect_fails v).bind fun _ =>
      (inspectEntries_fails rest).bind fun _ => .ok _
end

theorem display_fails (v : Value) : FailsOnly (· = .badValue) v.display := by
  cases v with
  | str s => exact .ok s
  | _ => exact inspect_fails _

theorem number_fails (v : Value) : FailsOnly (· = .wrongKind) v.number := by
  unfold number
  split
  · exact .ok _
  · exact .ok _
  · exact .ok _
  · exact .error rfl

end Value

/-- The faults of a template that does not fit its values. -/
def Fault.OfTemplate (e : Fault) : Prop := e = .wrongKind ∨ e = .badValue ∨ e = .tooLarge

theorem Placeholder.value_fails (p : Placeholder) (letter : Char) (v : Value) :
    FailsOnly Fault.OfTemplate (p.value letter v) := by
  have hbad : ∀ e, e = .badValue → Fault.OfTemplate e := fun e he => .inr (.inl he)
  have hinteger : FailsOnly Fault.OfTemplate (do p.integer (← (← v.number).integerPart)) := by
    refine (v.number_fails.mono fun e he => .inl he).bind fun n => FailsOnly.bind ?_ fun i => ?_
    · cases n with
      | int i => exact .ok i
      | float x =>
        rw [Number.integerPart]
        split
        · exact .error (hbad _ rfl)
        · split
          · exact .error (.inr (.inr rfl))
          · exact .ok _
    · exact ((integerText_fails _).mono hbad).bind fun _ => .ok _
  unfold value
  split
  · exact (v.display_fails.mono hbad).map _
  · exact (v.inspect_fails.mono hbad).map _
  · exact hinteger
  · exact hinteger
  · exact hinteger
  · exact .error (hbad _ rfl)

namespace Template

theorem fillFrom_fails (values : List Value) (opened : Option Placeholder) (template : List Char) :
    FailsOnly Fault.OfTemplate (fillFrom values opened template) := by
  fun_induction fillFrom values opened template with
  | case1 => exact .error (.inr (.inl rfl))
  | case2 => exact .ok _
  | case3 => exact .error (.inl rfl)
  | case4 _ _ ih => exact ih.bind fun _ => .ok _
  | case5 _ _ _ ih => exact ih
  | case6 _ _ _ _ _ ih => exact ih.bind fun _ => .ok _
  | case7 _ _ _ _ _ _ ih => exact ih
  | case8 => exact .error (.inl rfl)
  | case9 p c _ _ _ _ ih => exact (p.value_fails c _).bind fun _ => ih.bind fun _ => .ok _

/-- A message fails if its values cannot be shown at all, or if an infinity is to be
written as an integer. -/
theorem message_fails (template : String) (values : List Value) :
    FailsOnly (fun e => e = .badValue ∨ e = .tooLarge) (message template values) := by
  unfold message
  split
  · exact .ok _
  · have hgroup : FailsOnly (fun e => e = .badValue ∨ e = .tooLarge)
        (do return template ++ " " ++ (← Value.inspectGroup values)) := by
      refine FailsOnly.bind ?_ fun _ => .ok _
      refine ((Value.inspectItems_fails values).mono fun _ he => .inl he).bind fun texts => ?_
      split <;> exact .ok _
    split
    · exact hgroup
    · exact hgroup
    · -- what is left of the faults of a template
      rename_i hkind hvalue
      intro e he
      rcases fillFrom_fails _ _ _ e he with rfl | rfl | rfl
      · exact absurd he hkind
      · exact absurd he hvalue
      · exact .inr rfl

end Template

theorem Journal.write_fails {j : Journal} {n : Note} {e : Fault} (h : j.write n = .error e) :
    n.text = .error e := by
  unfold write at h
  split at h
  · cases h
  · split at h
    · cases h
    · cases ht : n.text with
      | error e' => rw [ht] at h; cases h; rfl
      | ok t => rw [ht] at h; cases h

theorem Journal.write_form_fails {j : Journal} {source : String} {level : Level} {template : String}
    {values : List Value} {e : Fault} (h : j.write (.form source level template values) = .error e) :
    e = .badValue ∨ e = .tooLarge :=
  Template.message_fails template values e (write_fails h)

end ScriptedStage
