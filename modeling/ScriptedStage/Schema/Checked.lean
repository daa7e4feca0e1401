import ScriptedStage.Fault
import ScriptedStage.Numeric.Read
import ScriptedStage.Number
import ScriptedStage.Value.Text

/-!
Validation. A reading either succeeds or gives every issue it found, in the order of the fields; so
two readings are joined by collecting the issues of both. The readers of single fields convert
generously: a truth value or a text that spells a number is taken for a number.
-/
namespace ScriptedStage

/-- A value that was read, or the issues that kept it from being read. -/
abbrev Checked (α : Type) := Except (List Issue) α

namespace Checked

variable {α β γ : Type}

/-- A reading that failed at the place it looked at. -/
def fail (kind : IssueKind) : Checked α := .error [⟨kind, []⟩]

/-- Says where in the enclosing document a reading took place. -/
def within (part : PathPart) (c : Checked α) : Checked α :=
  c.mapError fun issues => issues.map fun i => ⟨i.kind, part :: i.path⟩

/-- Two readings together; the issues of both count. -/
def both (f : α → β → γ) : Checked α → Checked β → Checked γ
  | .ok a, .ok b => .ok (f a b)
  | .ok _, .error e => .error e
  | .error d, .ok _ => .error d
  | .error d, .error e => .error (d ++ e)

/-- Adds issues that were found outside the reading itself. -/
def alsoReport (issues : List Issue) (c : Checked α) : Checked α :=
  match c, issues with
  | .ok a, [] => .ok a
  | .ok _, is => .error is
  | .error d, is => .error (d ++ is)

@[simp] theorem within_ok (part : PathPart) (a : α) : within part (.ok a) = .ok a := rfl

@[simp] theorem both_of_ok (f : α → β → γ) (a : α) (b : β) : both f (.ok a) (.ok b) = .ok (f a b) := rfl

@[simp] theorem alsoReport_ok (a : α) : alsoReport [] (.ok a) = .ok a := rfl

theorem within_eq_ok {part : PathPart} {c : Checked α} {a : α} : c.within part = .ok a ↔ c = .ok a := by
  cases c with
  | error issues => constructor <;> intro h <;> cases h
  | ok b => rw [within_ok]

theorem both_ok {f : α → β → γ} {a : Checked α} {b : Checked β} {c : γ} (h : both f a b = .ok c) :
    ∃ x y, a = .ok x ∧ b = .ok y ∧ c = f x y := by
  cases a <;> cases b <;> simp only [both, reduceCtorEq, Except.ok.injEq] at h
  exact ⟨_, _, rfl, rfl, h.symm⟩

theorem map_ok {f : α → β} {c : Checked α} {b : β} (h : Except.map f c = .ok b) :
    ∃ a, c = .ok a ∧ b = f a := by
  cases c with
  | error issues => cases h
  | ok a => exact ⟨a, rfl, (Except.ok.inj h).symm⟩

end Checked

namespace Schema

/-- A text. -/
def text : Value → Checked String
  | .str s => .ok s
  | _ => .fail .notText

/-- A text that is not empty. -/
def nonEmptyText : Value → Checked String
  | .str s => if s.isEmpty then .fail .emptyText else .ok s
  | _ => .fail .notText

theorem nonEmptyText_of_ne {s : String} (h : s ≠ "") : nonEmptyText (.str s) = .ok s := by
  simp [nonEmptyText, h]

theorem ne_of_nonEmptyText {v : Value} {s : String} (h : nonEmptyText v = .ok s) : s ≠ "" := by
  unfold nonEmptyText at h
  split at h
  · split at h
    · cases h
    · rename_i hne
      cases h
      simpa using hne
  · cases h

theorem nonEmptyText_ok {text read : String} {part : PathPart}
    (h : (nonEmptyText (.str text)).within part = .ok read) : text = read := by
  by_cases hempty : text.isEmpty = true
  · rw [nonEmptyText, if_pos hempty] at h
    cases h
  · rw [nonEmptyText, if_neg hempty] at h
    exact Except.ok.inj h

/-- A double, from a number, a truth value, or a text that spells a number. -/
def double : Value → Checked Float
  | .float x => .ok x
  | .bool b => .ok (if b then 1 else 0)
  | .int n =>
    let x := Numeric.ofInteger n
    if x.isInf then .fail .notNumber else .ok x
  | .str s =>
    match Numeric.readFloat s with
    | some x => .ok x
    | none => .fail .unreadableNumber
  | _ => .fail .notNumber

/-- The integer that a text spells; zeros after a point are allowed. -/
def integerOfText (s : String) : Checked Int :=
  let cs := Text.trim Text.isBlank s.toList
  let whole := cs.takeWhile (· ≠ '.')
  let fraction := (cs.dropWhile (· ≠ '.')).drop 1
  if Numeric.maxIntegerDigits < cs.length then .fail .oversizedInteger
  else if !fraction.all (· = '0') then .fail .unreadableInteger
  else
    match Numeric.readIntChars whole with
    | some n => .ok n
    | none => .fail .unreadableInteger

/-- An integer, from a number without a fraction, a truth value, or a text that spells one. -/
def integer : Value → Checked Int
  | .int n => .ok n
  | .bool b => .ok (if b then 1 else 0)
  | .float x =>
    if !x.isFinite then .fail .notFinite
    else if Numeric.isIntegral x then .ok (Numeric.truncate x)
    else .fail .fractional
  | .str s => integerOfText s
  | _ => .fail .notInteger

/-- A reading that also takes null. -/
def optional {α : Type} (read : Value → Checked α) : Value → Checked (Option α)
  | .null => .ok none
  | v => (read v).map some

/-- The literal value of a block: an integer, a double or a text, where a truth value counts as 1 or
0. Anything else fails in each of the three ways. -/
def literal : Value → Checked Value
  | .int n => .ok (.int n)
  | .float x => .ok (.float x)
  | .str s => .ok (.str s)
  | .bool b => .ok (.int (if b then 1 else 0))
  | _ =>
    .error [⟨.notInteger, [.field "int"]⟩, ⟨.notNumber, [.field "float"]⟩, ⟨.notText, [.field "str"]⟩]

/-- Reads items from a position on. -/
def itemsFrom {α : Type} (read : Value → Checked α) : Nat → List Value → Checked (List α)
  | _, [] => .ok []
  | n, v :: rest => .both (· :: ·) ((read v).within (.index n)) (itemsFrom read (n + 1) rest)

/-- A list whose items are read alike. -/
def list {α : Type} (read : Value → Checked α) : Value → Checked (List α)
  | .list items => itemsFrom read 0 items
  | _ => .fail .notList

/-- A field that has to be there. -/
def required {α : Type} (entries : List (Key × Value)) (name : String) (read : Value → Checked α) :
    Checked α :=
  match field? entries name with
  | some v => (read v).within (.field name)
  | none => .error [⟨.missing, [.field name]⟩]

/-- A field with a value for when it is absent. -/
def withDefault {α : Type} (entries : List (Key × Value)) (name : String) (default : α)
    (read : Value → Checked α) : Checked α :=
  match field? entries name with
  | some v => (read v).within (.field name)
  | none => .ok default

/-- The step to a key: texts and integers stand for themselves, other keys are shown as they are
inspected. -/
def keyPart : Key → PathPart
  | .str s => .field s
  | .int n => .index n
  | .bool b => .index (if b then 1 else 0)
  | .null => .field "None"
  | .float x => .field (Numeric.floatText plainFloat x)
  | .date w => .field w

/-- The issues of fields that a record does not have. -/
def unknownFields (known : List String) (entries : List (Key × Value)) : List Issue :=
  entries.filterMap fun (k, _) =>
    match k with
    | .str s => if known.contains s then none else some ⟨.unknownField, [.field s]⟩
    | k => some ⟨.badKey, [keyPart k]⟩

end Schema

end ScriptedStage
