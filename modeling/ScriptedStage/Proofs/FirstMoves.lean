import ScriptedStage.Proofs.FiniteDoubles
import ScriptedStage.Proofs.MoveReversal

/-!
The first move of a script, negated. The move is found by its type in one walk through the script
and put back by its id in another, so the two have to come to the same block. With distinct ids they
do, and one literal of the script changes.

What is proved:
  1. `Script.negated_negated`: a value that is the number it reads as comes back when it is negated
     twice, since the opposite of a number that fits a double fits it too;
  2. `Script.negates_one_literal`: a script is changed exactly if it has a move. Then the first move
     in pre-order has its step number negated and all else stays, and a second time brings a number
     back. A step number that was missing is a zero from then on (`Script.missing_number_filled`).
-/
namespace ScriptedStage

namespace Script

theorem asNumber_opposite {n : Int} (h : Value.asNumber (.int n) = .int n) :
    Value.asNumber (.int (-n)) = .int (-n) := by
  simp only [Value.asNumber, Numeric.ofInteger_neg_isInf] at h ⊢
  split at h
  · rename_i hlarge
    obtain rfl : 0 = n := Number.int.inj h
    rw [if_pos hlarge, Int.neg_zero]
  · rename_i hfits
    rw [if_neg hfits]

theorem isFinite_of_asNumber {x : Float} (h : Value.asNumber (.float x) = .float x) :
    x.isFinite = true := by
  rw [Value.asNumber] at h
  split at h
  · assumption
  · cases h

/-- A value that is the number it reads as comes back when it is negated twice. -/
theorem negated_negated {v : Value} (h : v.asNumber.toValue = v) : negated (negated v) = v := by
  cases hnumber : v.asNumber with
  | int n =>
    rw [hnumber] at h
    obtain rfl : Value.int n = v := h
    have honce : negated (.int n) = .int (-n) := by rw [negated, hnumber]; rfl
    rw [honce, negated, asNumber_opposite hnumber, Number.neg, Int.neg_neg, Number.toValue]
  | float x =>
    rw [hnumber] at h
    obtain rfl : Value.float x = v := h
    have hfinite := isFinite_of_asNumber hnumber
    have honce : negated (.float x) = .float (-x) := by rw [negated, hnumber]; rfl
    rw [honce, negated, Value.asNumber, if_pos (Numeric.isFinite_neg hfinite), Number.neg,
      Numeric.neg_neg_of_isFinite hfinite, Number.toValue]

theorem negatedValues_eq (b : Block) :
    negatedValues b.values = negated (b.parameter 0) :: b.values.tail := by
  cases hvalues : b.values <;> simp [negatedValues, Block.parameter, hvalues, negated]

theorem negatedValues_twice {v : Value} (h : v.asNumber.toValue = v) (rest : List Value) :
    negatedValues (negatedValues (v :: rest)) = v :: rest := by
  change negated (negated v) :: rest = v :: rest
  rw [negated_negated h]

/-- A zero that was put in for a missing number stays. -/
theorem negatedValues_twice_nil : negatedValues (negatedValues []) = negatedValues [] := by
  have hzero : negated (.int 0) = .int 0 := by
    rw [negated, Value.asNumber, ite_self]
    rfl
  change [negated (negated (.int 0))] = [negated (.int 0)]
  rw [hzero, hzero]

/-- The move that was negated is the first one of the new script, which has the same ids, so
it is negated again. -/
theorem negateFirstMove_negated {place : Place} {move : Block} (hids : (place.fill move).ids.Nodup)
    (hmove : move.isMove = true) (hbefore : ∀ c ∈ place.before, c.isMove = false) :
    (place.fill { move with values := negatedValues move.values }).negateFirstMove =
      some (place.fill { move with values := negatedValues (negatedValues move.values) }) := by
  refine negateFirstMove_fill ?_ hmove hbefore
  rw [Place.ids_fill] at hids ⊢
  exact hids

/-- **To negate the first move of a script is to change one literal.** A script with distinct ids is
changed exactly if it has a move. In the new script all blocks are as they were, but for the first
move in pre-order, whose step number is negated, zero standing for one that is missing. To negate it
again gives the old script if the step number is there and is the number it reads as; where it is
missing, the new script stays as it is. -/
theorem negates_one_literal {s : Script} (hids : s.ids.Nodup) :
    (s.negateFirstMove.isSome = true ↔ ∃ b ∈ s.preorder, b.type = BlockType.moveSteps) ∧
    ∀ s', s.negateFirstMove = some s' →
      ∃ (place : Place) (move : Block),
        place.fill move = s ∧ move.type = BlockType.moveSteps ∧
        (∀ b ∈ place.before, b.type ≠ BlockType.moveSteps) ∧
        s' = place.fill { move with values := (move.parameter 0).asNumber.neg.toValue ::
          move.values.tail } ∧
        (∀ v ∈ move.values.head?, v.asNumber.toValue = v → s'.negateFirstMove = some s) ∧
        (move.values = [] → s'.negateFirstMove = some s') := by
  rcases s.exists_first_move_or with ⟨place, move, rfl, hmove, hbefore⟩ | hnone
  · have htype : move.type = BlockType.moveSteps := of_decide_eq_true hmove
    have honce := negateFirstMove_fill hids hmove hbefore
    refine ⟨iff_of_true (by rw [honce]; rfl) ⟨move, place.mem_preorder_fill move, htype⟩, ?_⟩
    intro s' hs'
    obtain rfl : place.fill { move with values := negatedValues move.values } = s' := by
      rw [honce] at hs'
      exact Option.some.inj hs'
    have htwice := negateFirstMove_negated hids hmove hbefore
    refine ⟨place, move, rfl, htype, fun b hb => of_decide_eq_false (hbefore b hb), ?_, ?_, ?_⟩
    · rw [negatedValues_eq]
      rfl
    · intro v hv hnumber
      obtain ⟨rest, hvalues⟩ : ∃ rest, move.values = v :: rest := List.head?_eq_some_iff.mp hv
      have hsame : { move with values := negatedValues (negatedValues move.values) } = move := by
        obtain ⟨id, type, values, children⟩ := move
        obtain rfl : values = v :: rest := hvalues
        rw [negatedValues_twice hnumber]
      rw [htwice, hsame]
    · intro hvalues
      rw [htwice, hvalues, negatedValues_twice_nil]
  · have hunchanged := negateFirstMove_of_forall hnone
    refine ⟨iff_of_false ?_ ?_, ?_⟩
    · rw [hunchanged]
      exact Bool.false_ne_true
    · rintro ⟨b, hb, htype⟩
      exact of_decide_eq_false (hnone b hb) htype
    · intro s' hs'
      rw [hunchanged] at hs'
      cases hs'

/-- A script whose first move is in a loop inside another loop, with a further move behind. -/
def looped : Script :=
  [⟨"f", BlockType.flagClicked, [], none⟩,
   ⟨"r", BlockType.repeatTimes, [.int 2], some
     [⟨"s", BlockType.say, [.str "hi"], none⟩,
      ⟨"q", BlockType.repeatTimes, [.int 3],
       some [⟨"m", BlockType.moveSteps, [.float 2.5, .str "x"], none⟩]⟩]⟩,
   ⟨"n", BlockType.moveSteps, [.int 10], none⟩]

/-- In the two loops the step number is negated and brought back. -/
theorem negates_one_literal_looped :
    looped.ids.Nodup ∧ ∃ s', looped.negateFirstMove = some s' ∧ s'.negateFirstMove = some looped := by
  have hids : looped.ids.Nodup := by decide
  have hfirst : looped.findFirst Block.isMove =
      some ⟨"m", BlockType.moveSteps, [.float 2.5, .str "x"], none⟩ := rfl
  obtain ⟨hsome, hnegated⟩ := negates_one_literal hids
  have hmoves : ∃ b ∈ looped.preorder, b.type = BlockType.moveSteps := by decide
  obtain ⟨s', hs'⟩ := Option.isSome_iff_exists.mp (hsome.mpr hmoves)
  obtain ⟨place, move, hfills, hmove, hbefore, -, htwice, -⟩ := hnegated s' hs'
  have hfound : looped.findFirst Block.isMove = some move := by
    rw [← hfills]
    exact findFirst_fill (fun _ => rfl) (decide_eq_true hmove) fun b hb => decide_eq_false (hbefore b hb)
  obtain rfl := Option.some.inj (hfirst.symm.trans hfound)
  have hfinite : (2.5 : Float).isFinite = true := by decide
  have hnumber : (Value.float 2.5).asNumber.toValue = .float 2.5 := by
    rw [Value.asNumber, if_pos hfinite]
    rfl
  exact ⟨hids, s', hs', htwice _ rfl hnumber⟩

/-- A move without a step number: zero stands for it, and zero is the number it reads as. Negated
twice, the move has the zero among its values. -/
theorem missing_number_filled :
    let move : Block := ⟨"m", BlockType.moveSteps, [], none⟩
    (ids [move]).Nodup ∧ (move.parameter 0).asNumber.toValue = move.parameter 0 ∧
      (negateFirstMove [move]).bind negateFirstMove = some [{ move with values := [.int 0] }] ∧
      (negateFirstMove [move]).bind negateFirstMove ≠ some [move] := by
  intro move
  have hids : (ids [move]).Nodup := by decide
  have hzero : (move.parameter 0).asNumber.toValue = move.parameter 0 := rfl
  have htwice : (negateFirstMove [move]).bind negateFirstMove =
      some [{ move with values := [.int 0] }] := rfl
  refine ⟨hids, hzero, htwice, ?_⟩
  rw [htwice]
  simp [move]

end Script

end ScriptedStage
