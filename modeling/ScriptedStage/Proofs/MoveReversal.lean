import Mathlib.Logic.Function.Iterate
import ScriptedStage.Proofs.Places
import ScriptedStage.Proofs.SessionEffects

/-!
Reversed moves. A collision negates the step number of the first move of each of the two scripts.
The move is looked for in pre-order and put back by its id. As the ids of a script are distinct,
this comes to changing the values of the first move where it stands (`Block.reviseAmong`), whatever
the tree around it is, and to do it several times is to negate the one number as often.

What is proved:
  1. `negateFirstMove_fill`: the search and the replacement by id change the first move in
     pre-order, and no other block; `negateFirstMove_eq` says the same through `Block.reviseAmong`;
  2. `reversed_reversed`: reversals add up;
  3. `Stage.handleCollision_actors`: a collision reverses each of the two actors once, and no other.
-/
namespace ScriptedStage

/-! ## The first move of a script -/

namespace Block

def isMove (b : Block) : Bool := b.type = BlockType.moveSteps

mutual
/-- Changes the values of the first move below a block; none if there is none. -/
def reviseBelow (f : List Value → List Value) : Block → Option Block
  | ⟨_, _, _, none⟩ => none
  | ⟨id, type, values, some cs⟩ => (reviseAmong f cs).map fun cs' => ⟨id, type, values, some cs'⟩
/-- Changes the values of the first move in pre-order; none if there is none. -/
def reviseAmong (f : List Value → List Value) : List Block → Option (List Block)
  | [] => none
  | b :: rest =>
    if b.isMove then some ({ b with values := f b.values } :: rest)
    else
      match reviseBelow f b with
      | some b' => some (b' :: rest)
      | none => (reviseAmong f rest).map (b :: ·)
end

variable {f : List Value → List Value}

mutual
theorem reviseBelow_eq_none : ∀ {b : Block},
    reviseBelow f b = none ↔ ∀ c ∈ preorderAll b.kids, c.isMove = false
  | ⟨_, _, _, none⟩ => by simp [reviseBelow, kids, preorderAll]
  | ⟨_, _, _, some cs⟩ => by
    rw [reviseBelow, Option.map_eq_none_iff]
    exact reviseAmong_eq_none
/-- A script stays as it is exactly if it has no move. -/
theorem reviseAmong_eq_none : ∀ {bs : List Block},
    reviseAmong f bs = none ↔ ∀ c ∈ preorderAll bs, c.isMove = false
  | [] => by simp [reviseAmong, preorderAll]
  | b :: bs => by
    simp only [preorderAll, preorder_eq b, List.cons_append, List.forall_mem_cons, List.forall_mem_append]
    rw [← reviseBelow_eq_none (b := b), ← reviseAmong_eq_none, reviseAmong]
    cases hb : b.isMove with
    | true => simp
    | false => cases reviseBelow f b <;> simp
end

/-- The first move is changed in its place. -/
theorem reviseAmong_fill {place : Place} {move : Block} (hmove : move.isMove = true)
    (hbefore : ∀ c ∈ place.before, c.isMove = false) :
    reviseAmong f (place.fill move) = some (place.fill { move with values := f move.values }) := by
  induction place with
  | here after => rw [Place.fill, reviseAmong, if_pos hmove, Place.fill]
  | within id type values inner after ih =>
    rw [Place.before, List.forall_mem_cons] at hbefore
    have hown : isMove ⟨id, type, values, some (inner.fill move)⟩ = false := hbefore.1
    rw [Place.fill, reviseAmong, hown, if_neg Bool.false_ne_true, reviseBelow, ih hbefore.2]
    rfl
  | behind first later ih =>
    obtain ⟨hfirst, hkids, hlater⟩ := (Place.forall_before_behind fun _ => Iff.rfl).mp hbefore
    rw [Place.fill, reviseAmong, hfirst, if_neg Bool.false_ne_true, reviseBelow_eq_none.mpr hkids,
      ih hlater]
    rfl

end Block

namespace Script

/-- A script has a first move, or it has none. -/
theorem exists_first_move_or (s : Script) :
    (∃ (place : Place) (move : Block), place.fill move = s ∧ move.isMove = true ∧
      ∀ c ∈ place.before, c.isMove = false) ∨ ∀ c ∈ s.preorder, c.isMove = false := by
  cases hfind : s.findFirst Block.isMove with
  | none => exact .inr (by simpa [findFirst] using hfind)
  | some move =>
    obtain ⟨place, hfills, hmove, hbefore⟩ := exists_place_of_findFirst (fun _ => rfl) hfind
    exact .inl ⟨place, move, hfills, hmove, hbefore⟩

/-- With distinct ids the first move of a script is negated in its place. -/
theorem negateFirstMove_fill {place : Place} {move : Block} (hids : (place.fill move).ids.Nodup)
    (hmove : move.isMove = true) (hbefore : ∀ c ∈ place.before, c.isMove = false) :
    (place.fill move).negateFirstMove =
      some (place.fill { move with values := negatedValues move.values }) := by
  have hfind : (place.fill move).findFirst (fun b => b.type = BlockType.moveSteps) = some move :=
    findFirst_fill (fun _ => rfl) hmove hbefore
  have hfirst : ∀ c ∈ place.before, c.id ≠ move.id := by
    intro c hc hid
    rw [Place.ids_fill, List.nodup_append] at hids
    exact hids.2.2 _ (List.mem_map_of_mem hc) _ List.mem_cons_self hid
  rw [negateFirstMove, hfind]
  exact replace_fill rfl hfirst

/-! ## Reversals -/

/-- The negative of the number that a value reads as. -/
def negated (v : Value) : Value := v.asNumber.neg.toValue

/-- The values of a move whose step number was negated a number of times; a number that
is missing is zero. -/
def negatedTimes (k : Nat) (values : List Value) : List Value :=
  negated^[k] (values.headD (.int 0)) :: values.tail

/-- A script whose first move in pre-order was reversed a number of times. A script without a
move stays as it is. -/
def reversed (k : Nat) (s : Script) : Script :=
  if k = 0 then s else (Block.reviseAmong (negatedTimes k) s).getD s

theorem negatedTimes_comp (m n : Nat) : negatedTimes n ∘ negatedTimes m = negatedTimes (m + n) := by
  funext values
  simp only [negatedTimes, Function.comp_apply, List.headD_cons, List.tail_cons, Nat.add_comm m n,
    Function.iterate_add_apply]

/-- Reversals change the first move in its place. -/
theorem reversed_fill {place : Place} {move : Block} (hmove : move.isMove = true)
    (hbefore : ∀ c ∈ place.before, c.isMove = false) {k : Nat} (hk : k ≠ 0) :
    (place.fill move).reversed k = place.fill { move with values := negatedTimes k move.values } := by
  rw [reversed, if_neg hk, Block.reviseAmong_fill hmove hbefore, Option.getD_some]

theorem reversed_of_forall {s : Script} (h : ∀ c ∈ s.preorder, c.isMove = false) (k : Nat) :
    s.reversed k = s := by
  rw [reversed, Block.reviseAmong_eq_none.mpr h, Option.getD_none, ite_self]

/-- Without a move nothing is negated. -/
theorem negateFirstMove_of_forall {s : Script} (h : ∀ c ∈ s.preorder, c.isMove = false) :
    s.negateFirstMove = none := by
  have hfind : s.findFirst (fun b => b.type = BlockType.moveSteps) = none := by
    simpa [findFirst, Block.isMove] using h
  rw [negateFirstMove, hfind]

/-- Reversing the first move of a script with distinct ids is one reversal. -/
theorem negateFirstMove_eq {s : Script} (h : s.ids.Nodup) : s.negateFirstMove.getD s = s.reversed 1 := by
  have hvalues : negatedValues = negatedTimes 1 := by
    funext values
    cases values <;> rfl
  rcases s.exists_first_move_or with ⟨place, move, rfl, hmove, hbefore⟩ | hnone
  · rw [negateFirstMove_fill h hmove hbefore, reversed_fill hmove hbefore Nat.one_ne_zero, hvalues,
      Option.getD_some]
  · rw [negateFirstMove_of_forall hnone, reversed_of_forall hnone, Option.getD_none]

/-- Reversals add up. -/
theorem reversed_reversed (m n : Nat) (s : Script) : (s.reversed m).reversed n = s.reversed (m + n) := by
  rcases Nat.eq_zero_or_pos m with rfl | hm
  · rw [Nat.zero_add]
    rfl
  rcases Nat.eq_zero_or_pos n with rfl | hn
  · rfl
  rcases s.exists_first_move_or with ⟨place, move, rfl, hmove, hbefore⟩ | hnone
  · -- the first move is the same one after a change of its values
    have hmove' : Block.isMove { move with values := negatedTimes m move.values } = true := hmove
    rw [reversed_fill hmove hbefore (by omega), reversed_fill hmove' hbefore (by omega),
      reversed_fill hmove hbefore (by omega), ← negatedTimes_comp]
    rfl
  · rw [reversed_of_forall hnone, reversed_of_forall hnone, reversed_of_forall hnone]

end Script

/-- An actor whose first move was reversed a number of times. -/
def Actor.reversed (k : Nat) (a : Actor) : Actor := { a with script := a.script.reversed k }

theorem Actor.reversed_reversed (m n : Nat) (a : Actor) :
    (a.reversed m).reversed n = a.reversed (m + n) := by
  simp only [reversed, Script.reversed_reversed]

/-! ## Collisions -/

/-- A collision reverses each of the two actors once, and no other. -/
theorem Stage.handleCollision_actors {s : Stage} (h : s.Distinct) {e : CollisionEvent}
    (hfirst : e.first ∈ s.ids) (hsecond : e.second ∈ s.ids) :
    ((s.handleCollision e.first e.second).1.getD s).actors =
      s.actors.map fun a => a.reversed ([e].countP (·.names a.id)) := by
  obtain ⟨x, hx, hxid⟩ := List.mem_map.mp hfirst
  obtain ⟨y, hy, hyid⟩ := List.mem_map.mp hsecond
  have hfound : s.actor? e.first = some x := hxid ▸ actor?_of_mem h.actorIds hx
  have hfound' : s.actor? e.second = some y := hyid ▸ actor?_of_mem h.actorIds hy
  -- what is put in for an actor that is named is its own script, reversed if it can be
  have hget : ∀ a ∈ s.actors, Assoc.get? ((reversal x).toList ++ (reversal y).toList) a.id =
      if e.names a.id then a.script.negateFirstMove else none := by
    intro a ha
    simp only [CollisionEvent.names, ← hxid, ← hyid, Bool.or_eq_true, decide_eq_true_eq]
    by_cases hxa : x.id = a.id <;> by_cases hya : y.id = a.id
    · obtain rfl := h.eq_of_id hx ha hxa
      obtain rfl := h.eq_of_id hy ha hya
      cases hneg : y.script.negateFirstMove <;> simp [reversal, Assoc.get?, hneg]
    · obtain rfl := h.eq_of_id hx ha hxa
      cases hneg : x.script.negateFirstMove <;> cases hneg' : y.script.negateFirstMove <;>
        simp [reversal, Assoc.get?, hneg, hneg', hya]
    · obtain rfl := h.eq_of_id hy ha hya
      cases hneg : y.script.negateFirstMove <;> cases hneg' : x.script.negateFirstMove <;>
        simp [reversal, Assoc.get?, hneg, hneg', hxa]
    · cases hneg : y.script.negateFirstMove <;> cases hneg' : x.script.negateFirstMove <;>
        simp [reversal, Assoc.get?, hneg, hneg', hxa, hya]
  have hput : (s.putScripts ((reversal x).toList ++ (reversal y).toList)).actors =
      s.actors.map fun a => a.reversed ([e].countP (·.names a.id)) := by
    refine List.map_congr_left fun a ha => ?_
    rw [hget a ha, List.countP_cons, List.countP_nil, Nat.zero_add]
    by_cases hnamed : e.names a.id = true
    · rw [if_pos hnamed, if_pos hnamed, Actor.reversed, ← Script.negateFirstMove_eq (h.blockIds a ha)]
      cases a.script.negateFirstMove <;> rfl
    · rw [if_neg hnamed, if_neg hnamed]
      rfl
  rw [← hput]
  simp only [handleCollision, hfound, hfound']
  split
  · rename_i hempty
    rw [List.isEmpty_iff.mp hempty]
    exact (List.map_id _).symm
  · rfl

end ScriptedStage
