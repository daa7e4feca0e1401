import ScriptedStage.Proofs.BlockForms
import ScriptedStage.Proofs.SessionEffects

/-!
Intents that are read twice. Reading converts: texts and truth values become numbers, truth values
among the values of a block become integers, fields that an intent does not have are dropped, and
defaults are filled in, at every depth of a block. What an intent shows of itself afterwards has
nothing left to convert.

What is proved:
  1. `Block.sendable_of_check`, `Intent.reader?_sendable`: what comes through a reader
     is in its settled form;
  2. `Block.check_dump`, `ActorPatch.check_dump`, `Intent.reader?_dump`: what is in its settled form
     comes through as it is, but for a patch, which has every field set afterwards;
  3. `Intent.rereads_alike`: so an intent that was read is read from its own fields
     again, and shows the same.
-/
namespace ScriptedStage

/-! ## Values that need no more conversion -/

namespace Value

def IsName (v : Value) : Prop := ∃ s, s ≠ "" ∧ v = .str s

def IsText (v : Value) : Prop := ∃ s, v = .str s

def IsDouble (v : Value) : Prop := ∃ x, v = .float x

/-- A block with every field written out, whose values are literals at every depth. -/
def IsBlock (v : Value) : Prop := ∃ b, Script.Sendable [b] ∧ v = b.dump

def OrNull (form : Value → Prop) (v : Value) : Prop := v = .null ∨ form v

/-- A record that has the named fields and no others, each of its form. -/
def HasFields (forms : List (String × (Value → Prop))) (v : Value) : Prop :=
  ∃ fields, v = .record fields ∧ List.Forall₂ (fun form field => field.1 = form.1 ∧
    form.2 field.2) forms fields

end Value

/-! ## What readers let pass -/

namespace Schema

variable {α : Type} {entries : List (Key × Value)} {name : String} {read : Value → Checked α}

theorem required_ok {a : α} (h : required entries name read = .ok a) : ∃ v, read v = .ok a := by
  unfold required at h
  split at h
  · exact ⟨_, Checked.within_eq_ok.mp h⟩
  · cases h

theorem withDefault_ok {default a : α} (h : withDefault entries name default read = .ok a) :
    a = default ∨ ∃ v, read v = .ok a := by
  unfold withDefault at h
  split at h
  · exact .inr ⟨_, Checked.within_eq_ok.mp h⟩
  · exact .inl (Except.ok.inj h).symm

theorem required_name {s : String} (h : required entries name nonEmptyText = .ok s) : s ≠ "" := by
  obtain ⟨v, hv⟩ := required_ok h
  exact ne_of_nonEmptyText hv

/-- A literal that was read is an integer, a double or a text. -/
theorem isLiteral_of_literal {v w : Value} (h : literal v = .ok w) : w.isLiteral = true := by
  cases v <;> cases h <;> rfl

theorem itemsFrom_ok {items : List Value} : ∀ {n : Nat} {as : List α}, itemsFrom read n items = .ok as →
    ∀ a ∈ as, ∃ v, read v = .ok a := by
  induction items with
  | nil =>
    intro n as h a ha
    cases h
    cases ha
  | cons v items ih =>
    intro n as h a ha
    obtain ⟨first, rest, hfirst, hrest, rfl⟩ := Checked.both_ok h
    rcases List.mem_cons.mp ha with rfl | ha
    · exact ⟨v, Checked.within_eq_ok.mp hfirst⟩
    · exact ih hrest a ha

theorem literals_isLiteral {v : Value} {values : List Value} (h : list literal v = .ok values) :
    ∀ w ∈ values, w.isLiteral = true := by
  intro w hw
  unfold list at h
  split at h
  · obtain ⟨u, hu⟩ := itemsFrom_ok h w hw
    exact isLiteral_of_literal hu
  · cases h

end Schema

/-! ## Blocks -/

namespace Block

/-- A block that passes the check can be sent. The induction follows the reader, through the fields
of a block down to its children. -/
theorem sendable_of_check {v : Value} {b : Block} (h : check v = .ok b) : Script.Sendable [b] := by
  have hread := check.mutual_induct (fun v => ∀ b, check v = .ok b → Script.Sendable [b])
    (fun entries => ∀ children, checkChildren entries = .ok children → Script.Sendable (children.getD []))
    (fun v => ∀ children, checkChildList v = .ok children → Script.Sendable (children.getD []))
    (fun n items => ∀ bs, checkFrom n items = .ok bs → Script.Sendable bs)
    ?record ?noRecord ?missing ?items ?noList ?last ?item ?absent ?here ?elsewhere
  · exact hread.1 v b h
  case record =>
    intro entries ih b h
    rw [check] at h
    obtain ⟨⟨⟨id, type⟩, values⟩, children, hown, hchildren, rfl⟩ := Checked.both_ok h
    obtain ⟨_, _, hhead, hvalues, heq⟩ := Checked.both_ok hown
    cases heq
    obtain ⟨_, _, hid, htype, heq⟩ := Checked.both_ok hhead
    cases heq
    have hliterals : ∀ w ∈ values, w.isLiteral = true := by
      rcases Schema.withDefault_ok hvalues with rfl | ⟨v, hv⟩
      · exact List.forall_mem_nil _
      · exact Schema.literals_isLiteral hv
    exact Script.sendable_cons.mpr
      ⟨⟨Schema.required_name hid, Schema.required_name htype, hliterals⟩, ih children hchildren,
       Script.sendable_nil⟩
  case noRecord =>
    intro v hother b h
    rw [check] at h
    · cases h
    · exact hother
  case missing =>
    intro children h
    cases h
    exact Script.sendable_nil
  case items =>
    intro items ih children h
    rw [checkChildList] at h
    cases hitems : checkFrom 0 items with
    | error e => rw [hitems] at h; cases h
    | ok bs =>
      rw [hitems] at h
      cases h
      exact ih bs hitems
  case noList =>
    intro v hnull hlist children h
    rw [checkChildList] at h
    · cases h
    · exact hnull
    · exact hlist
  case last =>
    intro n bs h
    cases h
    exact Script.sendable_nil
  case item =>
    intro n v rest ihfirst ihrest bs h
    rw [checkFrom] at h
    obtain ⟨b, later, hfirst, hlater, rfl⟩ := Checked.both_ok h
    obtain ⟨hown, hkids, -⟩ := Script.sendable_cons.mp (ihfirst b (Checked.within_eq_ok.mp hfirst))
    exact Script.sendable_cons.mpr ⟨hown, hkids, ihrest later hlater⟩
  case absent =>
    intro children h
    cases h
    exact Script.sendable_nil
  case here =>
    intro v rest ih children h
    rw [checkChildren, if_pos rfl] at h
    exact ih children (Checked.within_eq_ok.mp h)
  case elsewhere =>
    intro k v rest hk ih children h
    rw [checkChildren, if_neg hk] at h
    exact ih children h

end Block

/-! ## Patches -/

namespace ActorPatch

open Value

/-- The patch with every field set; those that were left alone are set to nothing. -/
def spelledOut (p : ActorPatch) : ActorPatch :=
  ⟨some p.x.join, some p.y.join, some p.heading.join, some p.scale.join, some p.message.join⟩

theorem optional_numberValue (x : Option Float) :
    Schema.optional Schema.double (numberValue x) = .ok x := by
  cases x <;> rfl

theorem optional_textValue (s : Option String) : Schema.optional Schema.text (textValue s) = .ok s := by
  cases s <;> rfl

theorem orNull_numberValue (x : Option Float) : OrNull IsDouble (numberValue x) := by
  cases x with
  | none => exact .inl rfl
  | some x => exact .inr ⟨x, rfl⟩

theorem orNull_textValue (s : Option String) : OrNull IsText (textValue s) := by
  cases s with
  | none => exact .inl rfl
  | some s => exact .inr ⟨s, rfl⟩

/-- What the fields of a patch look like once they were read. -/
def settledFields : List (String × (Value → Prop)) :=
  [("x", OrNull IsDouble), ("y", OrNull IsDouble), ("heading", OrNull IsDouble), ("scale", OrNull IsDouble),
    ("displayed_message", OrNull IsText)]

theorem dump_hasFields (p : ActorPatch) : p.dump.HasFields settledFields :=
  ⟨_, rfl, .cons ⟨rfl, orNull_numberValue _⟩
   (.cons ⟨rfl, orNull_numberValue _⟩ (.cons ⟨rfl, orNull_numberValue _⟩
    (.cons ⟨rfl, orNull_numberValue _⟩ (.cons ⟨rfl, orNull_textValue _⟩ .nil))))⟩

/-- A patch with every field written out is read as one that sets every field. -/
theorem check_dump (p : ActorPatch) : check p.dump = .ok p.spelledOut := by
  have hknown : ∀ a b c d e : Value, Schema.unknownFields fieldNames [(.str "x", a), (.str "y", b),
    (.str "heading", c),
      (.str "scale", d), (.str "displayed_message", e)] = [] := by
    intro a b c d e
    rfl
  rw [dump, Value.record]
  simp only [List.map_cons, List.map_nil, check, hknown, patchField, field?, Key.str.injEq,
    String.reduceEq, if_true, if_false, optional_numberValue, optional_textValue, Checked.within_ok,
    Except.map, Checked.both_of_ok, Checked.alsoReport_ok, spelledOut]

end ActorPatch

/-! ## Intents -/

namespace Intent

/-- An intent that can be sent: actors, kinds and blocks that it has to name are named, and
its block can be sent. -/
def Sendable : Intent → Prop
  | .addActor kind _ _ => kind ≠ ""
  | .removeActor actor => actor ≠ ""
  | .selectActor _ => True
  | .addBlock actor block => actor ≠ "" ∧ Script.Sendable [block]
  | .addBlockTo actor container block => (actor ≠ "" ∧ container ≠ "") ∧ Script.Sendable [block]
  | .removeBlock actor block => actor ≠ "" ∧ block ≠ ""
  | .startRun | .stopRun => True
  | .updateActor actor _ => actor ≠ ""
  | .handleCollision first second => first ≠ "" ∧ second ≠ ""

/-- The intent with every field of its patch set. -/
def spelledOut : Intent → Intent
  | .updateActor actor patch => .updateActor actor patch.spelledOut
  | i => i

/-- Whether an action is known does not depend on its fields. -/
theorem reader?_isSome (action : String) (entries others : List (Key × Value)) :
    (reader? action entries).isSome = (reader? action others).isSome := by
  unfold reader?
  split <;> rfl

theorem read_object {action : String} {entries : List (Key × Value)} {c : Checked Intent}
    (h : reader? action entries = some c) : read action (.object entries) = c.mapError .invalid := by
  have hknown : (reader? action []).isSome = true := by
    rw [reader?_isSome action [] entries, h]
    rfl
  obtain ⟨known, hknown⟩ := Option.isSome_iff_exists.mp hknown
  have hentries : (if (Value.object entries).isFalsy then .ok [] else .ok entries :
      Checked (List (Key × Value))) = .ok entries := by
    cases entries <;> rfl
  rw [read, hknown]
  simp only [hentries, Except.bind, h, Option.getD_some]

theorem read_ok {action : String} {payload : Value} {i : Intent} (h : read action payload = .ok i) :
    ∃ entries, reader? action entries = some (.ok i) := by
  unfold read at h
  split at h
  · cases h
  · dsimp only at h
    generalize hentries : (if payload.isFalsy then _ else _ : Checked (List (Key × Value))) = entries at h
    cases entries with
    | error issues => cases h
    | ok entries =>
      refine ⟨entries, ?_⟩
      cases hreader : reader? action entries with
      | none => rw [Except.bind, hreader] at h; cases h
      | some c =>
        rw [Except.bind, hreader] at h
        cases c with
        | error issues => cases h
        | ok j => cases h; rfl

/-- What is read has the action that it was requested by, and can be sent. -/
theorem reader?_sendable {action : String} {entries : List (Key × Value)} {i : Intent}
    (h : reader? action entries = some (.ok i)) : i.action = action ∧ i.Sendable := by
  unfold reader? at h
  -- one case for each action, in the order in which the reader knows them, and one for all others
  split at h <;> dsimp only at h
  · obtain ⟨kind, place, hkind, -, rfl⟩ := Checked.both_ok (Option.some.inj h)
    exact ⟨rfl, Schema.required_name hkind⟩
  · obtain ⟨actor, hactor, rfl⟩ := Checked.map_ok (Option.some.inj h)
    exact ⟨rfl, Schema.required_name hactor⟩
  · obtain ⟨actor, -, rfl⟩ := Checked.map_ok (Option.some.inj h)
    exact ⟨rfl, trivial⟩
  · obtain ⟨actor, block, hactor, hblock, rfl⟩ := Checked.both_ok (Option.some.inj h)
    obtain ⟨v, hv⟩ := Schema.required_ok hblock
    exact ⟨rfl, Schema.required_name hactor, Block.sendable_of_check hv⟩
  · obtain ⟨target, block, htarget, hblock, rfl⟩ := Checked.both_ok (Option.some.inj h)
    obtain ⟨actor, container, hactor, hcontainer, rfl⟩ := Checked.both_ok htarget
    obtain ⟨v, hv⟩ := Schema.required_ok hblock
    exact ⟨rfl, ⟨Schema.required_name hactor, Schema.required_name hcontainer⟩, Block.sendable_of_check hv⟩
  · obtain ⟨actor, block, hactor, hblock, rfl⟩ := Checked.both_ok (Option.some.inj h)
    exact ⟨rfl, Schema.required_name hactor, Schema.required_name hblock⟩
  · cases h
    exact ⟨rfl, trivial⟩
  · cases h
    exact ⟨rfl, trivial⟩
  · obtain ⟨actor, patch, hactor, -, rfl⟩ := Checked.both_ok (Option.some.inj h)
    exact ⟨rfl, Schema.required_name hactor⟩
  · obtain ⟨first, second, hfirst, hsecond, rfl⟩ := Checked.both_ok (Option.some.inj h)
    exact ⟨rfl, Schema.required_name hfirst, Schema.required_name hsecond⟩
  · cases h

/-- An intent that can be sent is read from all of its fields as it is, with its patch
spelled out. -/
theorem reader?_dump {i : Intent} (h : i.Sendable) :
    ∃ entries, i.dump = .object entries ∧ reader? i.action entries = some (.ok i.spelledOut) := by
  cases i with
  | addActor kind x y =>
    refine ⟨_, rfl, ?_⟩
    simp [reader?, action, Schema.required, Schema.withDefault, field?, Schema.nonEmptyText_of_ne h,
      Schema.double, spelledOut]
  | removeActor actor =>
    refine ⟨_, rfl, ?_⟩
    simp [reader?, action, Schema.required, field?, Schema.nonEmptyText_of_ne h, spelledOut, Except.map]
  | selectActor actor =>
    refine ⟨_, rfl, ?_⟩
    simp [reader?, action, Schema.withDefault, field?, ActorPatch.optional_textValue, spelledOut,
      Except.map]
  | addBlock actor block =>
    refine ⟨_, rfl, ?_⟩
    simp [reader?, action, Schema.required, field?, Schema.nonEmptyText_of_ne h.1,
      Block.check_dump h.2, spelledOut]
  | addBlockTo actor container block =>
    refine ⟨_, rfl, ?_⟩
    simp [reader?, action, Schema.required, field?, Schema.nonEmptyText_of_ne h.1.1,
      Schema.nonEmptyText_of_ne h.1.2, Block.check_dump h.2, spelledOut]
  | removeBlock actor block =>
    refine ⟨_, rfl, ?_⟩
    simp [reader?, action, Schema.required, field?, Schema.nonEmptyText_of_ne h.1,
      Schema.nonEmptyText_of_ne h.2, spelledOut]
  | startRun => exact ⟨_, rfl, rfl⟩
  | stopRun => exact ⟨_, rfl, rfl⟩
  | updateActor actor patch =>
    refine ⟨_, rfl, ?_⟩
    simp [reader?, action, Schema.required, field?, Schema.nonEmptyText_of_ne h,
      ActorPatch.check_dump, spelledOut]
  | handleCollision first second =>
    refine ⟨_, rfl, ?_⟩
    simp [reader?, action, Schema.required, field?, Schema.nonEmptyText_of_ne h.1,
      Schema.nonEmptyText_of_ne h.2, spelledOut]

open Value

/-- What the fields of an action look like once they were read. -/
def settledFields : String → List (String × (Value → Prop))
  | "ADD_ACTOR" => [("kind", IsName), ("x", IsDouble), ("y", IsDouble)]
  | "REMOVE_ACTOR" => [("actor_id", IsName)]
  | "SELECT_ACTOR" => [("actor_id", OrNull IsText)]
  | "ADD_BLOCK_TO_ROOT" => [("actor_id", IsName), ("block", IsBlock)]
  | "ADD_BLOCK_TO_CONTAINER" => [("actor_id", IsName), ("container_id", IsName), ("block", IsBlock)]
  | "REMOVE_BLOCK" => [("actor_id", IsName), ("block_id", IsName)]
  | "UPDATE_ACTOR_STATE" => [("actor_id", IsName), ("updates", HasFields ActorPatch.settledFields)]
  | "HANDLE_COLLISION" => [("actor_a_id", IsName), ("actor_b_id", IsName)]
  | _ => []

/-- What an intent that can be sent shows of itself needs no more conversion. -/
theorem dump_hasFields {i : Intent} (h : i.Sendable) : i.dump.HasFields (settledFields i.action) := by
  cases i with
  | addActor kind x y =>
    exact ⟨_, rfl, .cons ⟨rfl, kind, h, rfl⟩ (.cons ⟨rfl, x, rfl⟩ (.cons ⟨rfl, y, rfl⟩ .nil))⟩
  | removeActor actor => exact ⟨_, rfl, .cons ⟨rfl, actor, h, rfl⟩ .nil⟩
  | selectActor actor => exact ⟨_, rfl, .cons ⟨rfl, ActorPatch.orNull_textValue actor⟩ .nil⟩
  | addBlock actor block =>
    exact ⟨_, rfl, .cons ⟨rfl, actor, h.1, rfl⟩ (.cons ⟨rfl, block, h.2, rfl⟩ .nil)⟩
  | addBlockTo actor container block =>
    exact ⟨_, rfl, .cons ⟨rfl, actor, h.1.1, rfl⟩
      (.cons ⟨rfl, container, h.1.2, rfl⟩ (.cons ⟨rfl, block, h.2, rfl⟩ .nil))⟩
  | removeBlock actor block =>
    exact ⟨_, rfl, .cons ⟨rfl, actor, h.1, rfl⟩ (.cons ⟨rfl, block, h.2, rfl⟩ .nil)⟩
  | startRun => exact ⟨_, rfl, .nil⟩
  | stopRun => exact ⟨_, rfl, .nil⟩
  | updateActor actor patch =>
    exact ⟨_, rfl, .cons ⟨rfl, actor, h, rfl⟩ (.cons ⟨rfl, patch.dump_hasFields⟩ .nil)⟩
  | handleCollision first second =>
    exact ⟨_, rfl, .cons ⟨rfl, first, h.1, rfl⟩ (.cons ⟨rfl, second, h.2, rfl⟩ .nil)⟩

/-- **An intent that was read is read from its own fields once more without a change.** All that it
shows of itself is in the form that reading gives: numbers are doubles, values of blocks are
literals, and there are no fields that the action does not have. So it is read, and shows the same
again. A block that it carries is the same, and goes to the stage with the children of containers
only. The one thing that reading again adds is that a patch sets every field, those that were left
alone to nothing, as the fields show them. -/
theorem rereads_alike {action : String} {payload : Value} {i : Intent} (h : read action payload = .ok i) :
    i.dump.HasFields (settledFields action) ∧ read action i.dump = .ok i.spelledOut ∧
      i.spelledOut.dump = i.dump ∧
      i.spelledOut.block? = i.block? ∧ ∀ b ∈ i.block?, Block.ofValue b.dump = .ok b.prune := by
  obtain ⟨entries, hentries⟩ := read_ok h
  obtain ⟨rfl, hsendable⟩ := reader?_sendable hentries
  obtain ⟨fields, hfields, hreader⟩ := reader?_dump hsendable
  refine ⟨dump_hasFields hsendable, ?_, by cases i <;> rfl, by cases i <;> rfl, ?_⟩
  · rw [hfields, read_object hreader]
    rfl
  · intro b _
    exact Block.ofValue_dump b

/-- A payload with truth values among the values of blocks, a child where there is no room for one,
and fields that are not known at every depth. -/
def cluttered : Value :=
  .record [("container_id", .str "r"), ("colour", .int 3), ("actor_id", .str "cat-1"),
    ("block", .record [("type", .str BlockType.say), ("id", .str "s"), ("size", .null),
      ("values", .list [.bool true, .str "1.50", .float 0.5]),
      ("children", .list [.record [("id", .str "m"), ("type", .str BlockType.moveSteps),
        ("values", .list [.bool false]), ("x", .int 1)]])])]

/-- The block that is sent stays the same when it is read again, and a patch of one field
becomes one of all fields. -/
theorem rereads_alike_cluttered :
    let sent : Block := ⟨"s", BlockType.say, [.int 1, .str "1.50", .float 0.5],
      some [⟨"m", BlockType.moveSteps, [.int 0], none⟩]⟩
    let insertion : Intent := .addBlockTo "cat-1" "r" sent
    let update : Intent := .updateActor "cat-1" { x := some (some 1) }
    read "ADD_BLOCK_TO_CONTAINER" cluttered = .ok insertion ∧
      read "ADD_BLOCK_TO_CONTAINER" insertion.dump = .ok insertion ∧
      Block.ofValue sent.dump = .ok ⟨"s", BlockType.say, [.int 1, .str "1.50", .float 0.5], none⟩ ∧
      read "UPDATE_ACTOR_STATE" (.record [("actor_id", .str "cat-1"),
        ("updates", .record [("x", .bool true)])]) =
        .ok update ∧
      read "UPDATE_ACTOR_STATE" update.dump =
        .ok (.updateActor "cat-1" ⟨some (some 1), some none, some none, some none, some none⟩) := by
  intro sent insertion update
  have hinsertion : read "ADD_BLOCK_TO_CONTAINER" cluttered = .ok insertion := by rfl
  have hupdate : read "UPDATE_ACTOR_STATE"
      (.record [("actor_id", .str "cat-1"), ("updates", .record [("x", .bool true)])]) =
        .ok update := by rfl
  obtain ⟨-, hagain, -, -, hblock⟩ := rereads_alike hinsertion
  obtain ⟨-, hspelled, -⟩ := rereads_alike hupdate
  exact ⟨hinsertion, hagain, hblock sent rfl, hupdate, hspelled⟩

end Intent

end ScriptedStage
