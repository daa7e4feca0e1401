import ScriptedStage.Block.Plain
import ScriptedStage.Intent.Read
import ScriptedStage.Proofs.Removals
import ScriptedStage.Proofs.SavedStages

/-!
The forms in which a block travels. A block has a plain form, which leaves missing children out, and
one with every field written down, which has null for them. The plain form is read back in two ways:
without validation, or by a check that gives the block as it was sent; that block is then written
out in full and read without validation. On the second way children of all blocks are checked and
sent on, on the first those of containers only are looked at.

What is proved:
  1. `ofValue_written` and `check_written`: what each of the readers makes of a block, whichever way
     missing children are written;
  2. `lineageAll_pruneAll`: which blocks are left when those that are no containers
     lose their children;
  3. `forms_read_alike`: on both ways a block comes back, without the children of blocks
     that are no containers.
-/
namespace ScriptedStage

namespace Block

/-! ## Writing -/

mutual
/-- A block as a record in which the fields `missing` stand for children that are missing. -/
def written (missing : List (String × Value)) : Block → Value
  | ⟨id, type, values, none⟩ =>
    .record (("id", .str id) :: ("type", .str type) :: ("values", .list values) :: missing)
  | ⟨id, type, values, some cs⟩ =>
    .record [("id", .str id), ("type", .str type), ("values", .list values),
      ("children", .list (writtenAll missing cs))]
/-- The records of a list of blocks. -/
def writtenAll (missing : List (String × Value)) : List Block → List Value
  | [] => []
  | b :: rest => written missing b :: writtenAll missing rest
end

mutual
theorem toValue_eq_written : ∀ b : Block, b.toValue = b.written []
  | ⟨_, _, _, none⟩ => by rw [toValue, written]
  | ⟨_, _, _, some cs⟩ => by rw [toValue, written, toValues_eq_written cs]
theorem toValues_eq_written : ∀ bs : List Block, toValues bs = writtenAll [] bs
  | [] => by rw [toValues, writtenAll]
  | b :: bs => by rw [toValues, writtenAll, toValue_eq_written b, toValues_eq_written bs]
end

mutual
theorem dump_eq_written : ∀ b : Block, b.dump = b.written [("children", .null)]
  | ⟨_, _, _, none⟩ => by rw [dump, written]
  | ⟨_, _, _, some cs⟩ => by rw [dump, written, dumpAll_eq_written cs]
theorem dumpAll_eq_written : ∀ bs : List Block, dumpAll bs = writtenAll [("children", .null)] bs
  | [] => by rw [dumpAll, writtenAll]
  | b :: bs => by rw [dumpAll, writtenAll, dump_eq_written b, dumpAll_eq_written bs]
end

/-! ## Reading without validation -/

/-- Reads a block whose id, type and values are written down. -/
theorem ofValue_fields {id type : String} {values : List Value} {rest : List (Key × Value)}
    {children : Option (List Block)} (hchildren : childrenOf rest = .ok children) :
    ofValue (.object ((.str "id", .str id) :: (.str "type", .str type) ::
      (.str "values", .list values) :: rest)) =
      .ok ⟨id, type, values, if BlockType.isContainer type then children else none⟩ := by
  have hread : childrenOf ((.str "id", .str id) :: (.str "type", .str type) ::
    (.str "values", .list values) :: rest) =
      .ok children := by
    simp [childrenOf, hchildren]
  rw [ofValue, hread]
  -- an empty list of values counts as absent, and no values are read then
  cases hc : BlockType.isContainer type <;> cases values <;>
    simp [required, field?, Value.display, Value.isFalsy, itemsOf, hc, bind, Except.bind, pure, Except.pure]

variable {missing : List (String × Value)}

mutual
/-- Without validation the children of containers are read, and others are dropped. -/
theorem ofValue_written (h : childrenOf (missing.map fun f => (.str f.1, f.2)) = .ok none) :
    ∀ b : Block, ofValue (b.written missing) = .ok b.prune
  | ⟨id, type, values, none⟩ => by
    have hread : ofValue (written missing ⟨id, type, values, none⟩) =
        .ok ⟨id, type, values, if BlockType.isContainer type then none else none⟩ := by
      rw [written]
      exact ofValue_fields h
    rw [hread, prune, ite_self]
  | ⟨id, type, values, some cs⟩ => by
    have hkids : childrenOf [(.str "children", .list (writtenAll missing cs))] =
        .ok (some (pruneAll cs)) := by
      simp [childrenOf, childList, ofValues_written h cs, bind, Except.bind, pure, Except.pure]
    rw [written, prune]
    exact ofValue_fields hkids
theorem ofValues_written (h : childrenOf (missing.map fun f => (.str f.1, f.2)) = .ok none) :
    ∀ bs : List Block, ofValues (writtenAll missing bs) = .ok (pruneAll bs)
  | [] => by rw [writtenAll, ofValues, pruneAll]
  | b :: bs => by
    rw [writtenAll, ofValues, ofValue_written h b, ofValues_written h bs, pruneAll]
    rfl
end

theorem ofValue_dump (b : Block) : ofValue b.dump = .ok b.prune := by
  rw [dump_eq_written]
  exact ofValue_written (by simp [childrenOf, childList]) b

end Block

/-! ## Checking -/

/-- A script whose blocks can be sent: they have ids and types, and their values are literals. -/
def Script.Sendable (s : Script) : Prop :=
  ∀ b ∈ s.preorder, b.id ≠ "" ∧ b.type ≠ "" ∧ ∀ v ∈ b.values, v.isLiteral = true

instance (s : Script) : Decidable s.Sendable := inferInstanceAs (Decidable (∀ b ∈ s.preorder, _))

theorem Script.sendable_nil : Sendable [] := forall_preorder_nil

theorem Script.sendable_cons {b : Block} {s : Script} :
    Sendable (b :: s) ↔
      (b.id ≠ "" ∧ b.type ≠ "" ∧ ∀ v ∈ b.values, v.isLiteral = true) ∧ Sendable b.kids ∧ Sendable s :=
  forall_preorder_cons

namespace Block

variable {missing : List (String × Value)}

/-- Checks a block whose id, type and values are written down. -/
theorem check_fields {id type : String} {values : List Value} {rest : List (Key × Value)}
    {children : Option (List Block)} (hid : id ≠ "") (htype : type ≠ "")
    (hvalues : ∀ v ∈ values, v.isLiteral = true) (hchildren : checkChildren rest = .ok children) :
    check (.object ((.str "id", .str id) :: (.str "type", .str type) ::
      (.str "values", .list values) :: rest)) =
      .ok ⟨id, type, values, children⟩ := by
  rw [check]
  simp [Schema.withDefault, Schema.required, field?, Schema.nonEmptyText_of_ne hid,
    Schema.nonEmptyText_of_ne htype, Schema.literals_ok hvalues, checkChildren, hchildren]

mutual
/-- A block that can be sent passes the check as it is. -/
theorem check_written (h : checkChildren (missing.map fun f => (.str f.1, f.2)) = .ok none) :
    ∀ {b : Block}, Script.Sendable [b] → check (b.written missing) = .ok b
  | ⟨id, type, values, none⟩, hb => by
    obtain ⟨⟨hid, htype, hvalues⟩, -, -⟩ := Script.sendable_cons.mp hb
    rw [written]
    exact check_fields hid htype hvalues h
  | ⟨id, type, values, some cs⟩, hb => by
    obtain ⟨⟨hid, htype, hvalues⟩, hkids, -⟩ := Script.sendable_cons.mp hb
    have hread : checkFrom 0 (writtenAll missing cs) = .ok cs := checkFrom_written h hkids 0
    rw [written]
    refine check_fields hid htype hvalues ?_
    simp [checkChildren, checkChildList, hread, Except.map]
theorem checkFrom_written (h : checkChildren (missing.map fun f => (.str f.1, f.2)) = .ok none) :
    ∀ {bs : List Block}, Script.Sendable bs → ∀ n, checkFrom n (writtenAll missing bs) = .ok bs
  | [], _, n => by rw [writtenAll, checkFrom]
  | b :: bs, hbs, n => by
    obtain ⟨hown, hkids, hrest⟩ := Script.sendable_cons.mp hbs
    have hfirst : Script.Sendable [b] := Script.sendable_cons.mpr ⟨hown, hkids, Script.sendable_nil⟩
    rw [writtenAll, checkFrom, check_written h hfirst, checkFrom_written h hrest (n + 1)]
    rfl
end

theorem check_dump {b : Block} (h : Script.Sendable [b]) : check b.dump = .ok b := by
  rw [dump_eq_written]
  exact check_written (by simp [checkChildren, checkChildList]) h

/-! ## Pruning -/

theorem prune_eq (b : Block) :
    b.prune = { b with children := if b.isContainer then b.children.map pruneAll else none } := by
  obtain ⟨id, type, values, _ | cs⟩ := b
  · rw [prune, Option.map_none, ite_self]
  · rw [prune]
    rfl

/-- A pruned block keeps its room for children if it is a container. -/
theorem prune_emptied (b : Block) : b.prune.emptied = if b.isContainer then b.emptied else b.bare := by
  rw [prune_eq]
  cases hc : b.isContainer with
  | true => simp [emptied, Function.comp_def]
  | false => rfl

theorem prune_kids (b : Block) : b.prune.kids = if b.isContainer then pruneAll b.kids else [] := by
  rw [prune_eq]
  cases hc : b.isContainer with
  | true =>
    cases hchildren : b.children <;> simp [kids, hchildren, pruneAll]
  | false => rfl

/-- Pruning leaves the blocks that stand inside containers only, and takes the room for children
from those that are no containers. -/
theorem lineageAll_pruneAll {around : List Block} (haround : ∀ a ∈ around, a.isContainer = true)
    (s : Script) :
    lineageAll around (pruneAll s) =
      ((lineageAll around s).filter fun l => l.2.all (·.isContainer)).map fun l =>
        (if l.1.isContainer then l.1 else l.1.bare, l.2) := by
  induction s using Script.forest_induction generalizing around with
  | nil => rw [pruneAll, lineageAll, List.filter_nil, List.map_nil]
  | cons b rest ihkids ihrest =>
    have hhere : around.all (·.isContainer) = true := List.all_eq_true.mpr haround
    rw [pruneAll, lineageAll_cons, lineageAll_cons, prune_emptied, prune_kids, ihrest haround,
      List.filter_cons, if_pos hhere, List.filter_append, List.map_cons, List.map_append]
    cases hc : b.isContainer with
    | true =>
      have hinside : ∀ a ∈ b.emptied :: around, a.isContainer = true :=
        List.forall_mem_cons.mpr ⟨hc, haround⟩
      have hown : b.emptied.isContainer = true := hc
      rw [if_pos rfl, if_pos rfl, ihkids hinside, if_pos hown]
    | false =>
      -- `b` stands around all that it held
      have hkids : (lineageAll (b.emptied :: around) b.kids).filter
          (fun l => l.2.all (·.isContainer)) = [] := by
        apply filter_lineageAll_eq_nil
        intro l hmem
        exact List.all_eq_false.mpr ⟨b.emptied, hmem, Bool.eq_false_iff.mp hc⟩
      have hown : ¬ b.emptied.isContainer = true := Bool.eq_false_iff.mp hc
      rw [if_neg Bool.false_ne_true, if_neg Bool.false_ne_true, hkids, if_neg hown]
      rfl

/-- A script in which only containers have room for children stays as it is. -/
theorem pruneAll_of_fit {s : Script} (h : s.ChildrenFit) : pruneAll s = s := by
  induction s using Script.forest_induction with
  | nil => rw [pruneAll]
  | cons b rest ihkids ihrest =>
    obtain ⟨hown, hkids, hrest⟩ := Script.childrenFit_cons.mp h
    rw [pruneAll, ihrest hrest, prune_eq]
    obtain ⟨id, type, values, _ | cs⟩ := b
    · rw [Option.map_none, ite_self]
    · have hcs : pruneAll cs = cs := ihkids hkids
      rw [if_pos (hown (Option.some_ne_none cs)), Option.map_some, hcs]

/-- **A block comes back the same on both ways.** A block that can be sent is read from its plain
form without validation, and passes the check and is then read from its full form; both give the
block pruned. Of the blocks in it those are left that stand inside containers only, each with its
own id, type and values; containers have room for children if they had it before, and other blocks
have none. So a block in which only containers have room for children comes back as it was. -/
theorem forms_read_alike {b : Block} (h : Script.Sendable [b]) :
    ofValue b.toValue = .ok b.prune ∧
      (∃ sent, check b.toValue = .ok sent ∧ ofValue sent.dump = .ok b.prune) ∧
      Script.lineage [b.prune] =
        ((Script.lineage [b]).filter fun l => l.2.all (·.isContainer)).map
          (fun l => (if l.1.isContainer then l.1 else l.1.bare, l.2)) ∧
      (Script.ChildrenFit [b] → b.prune = b) := by
  have hplain : ofValue b.toValue = .ok b.prune := by
    rw [toValue_eq_written]
    exact ofValue_written (by rw [List.map_nil, childrenOf]) b
  have hchecked : check b.toValue = .ok b := by
    rw [toValue_eq_written]
    exact check_written (by rw [List.map_nil, checkChildren]) h
  refine ⟨hplain, ⟨b, hchecked, ofValue_dump b⟩, ?_, ?_⟩
  · exact lineageAll_pruneAll (List.forall_mem_nil _) [b]
  · intro hfit
    have hsame : [b.prune] = [b] := pruneAll_of_fit hfit
    exact List.singleton_inj.mp hsame

/-- A loop around a move that has a child, a loop without room for children and an empty loop. -/
def crowded : Block :=
  ⟨"r", BlockType.repeatTimes, [.int 2, .float 0.5, .str ""], some
    [⟨"m", BlockType.moveSteps, [.int 5], some [⟨"x", BlockType.repeatTimes, [], some []⟩]⟩,
     ⟨"p", BlockType.repeatTimes, [], none⟩,
     ⟨"q", BlockType.repeatTimes, [.int 3], some []⟩]⟩

/-- The child of the move is lost on both ways, and both inner loops stay as they are. -/
theorem forms_read_alike_crowded :
    let back : Block := ⟨"r", BlockType.repeatTimes, [.int 2, .float 0.5, .str ""], some
      [⟨"m", BlockType.moveSteps, [.int 5], none⟩, ⟨"p", BlockType.repeatTimes, [], none⟩,
       ⟨"q", BlockType.repeatTimes, [.int 3], some []⟩]⟩
    Script.Sendable [crowded] ∧ ofValue crowded.toValue = .ok back ∧
      ∃ sent, check crowded.toValue = .ok sent ∧ ofValue sent.dump = .ok back := by
  intro back
  have hsendable : Script.Sendable [crowded] := by decide
  have hback : crowded.prune = back := by rfl
  obtain ⟨hplain, hchecked, -, -⟩ := forms_read_alike hsendable
  rw [hback] at hplain hchecked
  exact ⟨hsendable, hplain, hchecked⟩

end Block

end ScriptedStage
