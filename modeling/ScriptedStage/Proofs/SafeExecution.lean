import ScriptedStage.Proofs.FiniteDoubles
import ScriptedStage.Proofs.LoopUnrolling
import ScriptedStage.Proofs.Printing

/-!
A malformed program does not stop the interpreter. Literals of every kind reach places where a
double or an integer is needed, and the progress that is recorded for a repeat block may be from
before its children changed. Each of these places lies behind a test, and the tests are spread over
the reading of literals, the saying of texts and the plan of a repeat block.

What is proved, for the behaviours of the palette:
  1. `Value.asNumber_toFloat` and `Value.asNumber_integerPart`: whatever a literal is, the number
     that it is read as fits a double and has an integer part;
  2. `planRepeat_child`: a repeat block only plans to run a child that it has;
  3. `executeSlot_returns`: every call gives a result, for an actor with doubles as its numbers and
     a heading that has an angle.
-/
namespace ScriptedStage

/-! ## Literals as numbers -/

theorem Number.toFloat_of_fits {n : Int} (h : n.natAbs ≤ Numeric.largest) :
    ∃ x, (Number.int n).toFloat = .ok x := by
  have hinf := Numeric.isInf_of_isFinite (Numeric.ofInteger_isFinite h)
  exact ⟨_, by rw [toFloat, if_neg (by simp [hinf])]⟩

namespace Value

/-- The number that a literal is read as fits a double: an integer is read as zero unless it does,
and a text is read as an integer only if it spells a finite double. -/
theorem asNumber_toFloat (v : Value) : ∃ x, v.asNumber.toFloat = .ok x := by
  have hzero : ∃ x, (Number.int 0).toFloat = .ok x := Number.toFloat_of_fits (Nat.zero_le _)
  cases v with
  | int n =>
    rw [asNumber]
    split_ifs with hinf
    · exact hzero
    · exact ⟨_, by rw [Number.toFloat, if_neg hinf]⟩
  | float x =>
    rw [asNumber]
    split_ifs
    · exact ⟨x, rfl⟩
    · exact hzero
  | str s =>
    rw [asNumber]
    split
    · exact hzero
    · rename_i x _
      split_ifs with hnot hwhole
      · exact hzero
      · have hfinite : x.isFinite = true := by simpa using hnot
        exact Number.toFloat_of_fits (Numeric.truncate_le hfinite)
      · exact ⟨x, rfl⟩
  | null | bool _ | date _ | list _ | object _ => exact hzero

/-- The number that a literal is read as has an integer part. -/
theorem asNumber_integerPart (v : Value) : ∃ n, v.asNumber.integerPart = .ok n := by
  have hfinite : ∀ {x : Float}, x.isFinite = true → ∃ n, (Number.float x).integerPart = .ok n := by
    intro x h
    have hnan : ¬x.isNaN = true := by rw [Numeric.isNaN_of_isFinite h]; exact Bool.false_ne_true
    have hinf : ¬x.isInf = true := by rw [Numeric.isInf_of_isFinite h]; exact Bool.false_ne_true
    exact ⟨Numeric.truncate x, by rw [Number.integerPart, if_neg hnan, if_neg hinf]⟩
  cases v with
  | int n =>
    rw [asNumber]
    split_ifs <;> exact ⟨_, rfl⟩
  | float x =>
    rw [asNumber]
    split_ifs with h
    · exact hfinite h
    · exact ⟨0, rfl⟩
  | str s =>
    rw [asNumber]
    split
    · exact ⟨0, rfl⟩
    · split_ifs with hnot hwhole
      · exact ⟨0, rfl⟩
      · exact ⟨_, rfl⟩
      · exact hfinite (by simpa using hnot)
  | null | bool _ | date _ | list _ | object _ => exact ⟨0, rfl⟩

end Value

/-! ## Arithmetic with a double -/

namespace Number

variable {exact : Int → Int → Int} {rounded : Float → Float → Float} {n : Number} {y : Float}

theorem combine_float_left (x : Float) (h : n.toFloat = .ok y) :
    combine exact rounded (.float x) n = .ok (.float (rounded x y)) := by
  cases n <;> simp only [combine, h] <;> rfl

theorem combine_float_right (x : Float) (h : n.toFloat = .ok y) :
    combine exact rounded n (.float x) = .ok (.float (rounded y x)) := by
  cases n <;> simp only [combine, h] <;> rfl

end Number

/-- An actor whose position, scale and heading are doubles, the heading one that has an angle. -/
structure Actor.Steerable (a : Actor) : Prop where
  x : ∃ v, a.x = .float v
  y : ∃ v, a.y = .float v
  scale : ∃ v, a.scale = .float v
  heading : ∃ v, a.heading = .float v ∧ ((v - 90) * (3.141592653589793 / 180)).isInf = false

namespace Interpreter

open Block

variable {i : Interpreter} {a : Actor} {st : Execution} {b : Block}

/-! ## Blocks that change the actor -/

theorem angle_ok (ha : a.Steerable) : ∃ r, angle a.heading = .ok r := by
  obtain ⟨v, hv, hangle⟩ := ha.heading
  have hninety : (Number.int 90).toFloat = .ok 90 := by decide +kernel
  refine ⟨(v - 90) * (3.141592653589793 / 180), ?_⟩
  have hturned : (Number.float v).sub (.int 90) = .ok (.float (v - 90)) :=
    Number.combine_float_left v hninety
  simp only [angle, hv, Value.number, hturned, bind, Except.bind, Number.toFloat, hangle]
  rfl

theorem moveDelta_ok (ha : a.Steerable) {steps : Number} {d : Float} (h : steps.toFloat = .ok d) :
    ∃ delta, moveDelta a steps = .ok delta := by
  obtain ⟨r, hr⟩ := angle_ok ha
  obtain ⟨x, hx⟩ := ha.x
  obtain ⟨y, hy⟩ := ha.y
  have hway : ∀ c : Float, steps.mul (.float c) = .ok (.float (d * c)) :=
    fun c => Number.combine_float_right c h
  have hsum : ∀ u v : Float, (Number.float u).add (.float v) = .ok (.float (u + v)) := fun _ _ => rfl
  simp only [moveDelta, hr, hx, hy, Value.number, hway, hsum, bind, Except.bind]
  exact ⟨_, rfl⟩

theorem turnDelta_ok (ha : a.Steerable) {exact : Int → Int → Int} {rounded : Float → Float → Float}
    {degrees : Number} {d : Float} (h : degrees.toFloat = .ok d) :
    ∃ delta, turnDelta a (Number.combine exact rounded) degrees = .ok delta := by
  obtain ⟨v, hv, -⟩ := ha.heading
  simp only [turnDelta, hv, Value.number, Number.combine_float_left v h, bind, Except.bind]
  exact ⟨_, rfl⟩

theorem larger_float (u v : Float) : ∃ w, larger (.float u) (.float v) = .ok (.float w) := by
  have hless : Value.less (.float u) (.float v) = .ok (u < v) := rfl
  by_cases huv : u < v <;> simp [larger, hless, huv, bind, Except.bind, pure, Except.pure]

theorem smaller_float (u v : Float) : ∃ w, smaller (.float u) (.float v) = .ok (.float w) := by
  have hless : Value.less (.float v) (.float u) = .ok (v < u) := rfl
  by_cases hvu : v < u <;> simp [smaller, hless, hvu, bind, Except.bind, pure, Except.pure]

theorem sizeDelta_ok (ha : a.Steerable) (hmin : ∃ v, i.minScale = .float v)
    (hmax : ∃ v, i.maxScale = .float v) {amount : Number} {d : Float} (h : amount.toFloat = .ok d) :
    ∃ delta, sizeDelta i a amount = .ok delta := by
  obtain ⟨s, hs⟩ := ha.scale
  obtain ⟨lo, hlo⟩ := hmin
  obtain ⟨hi, hhi⟩ := hmax
  have hsum : (Number.float s).add amount = .ok (.float (s + d)) := Number.combine_float_left s h
  obtain ⟨raised, hraised⟩ := larger_float (s + d) lo
  obtain ⟨clamped, hclamped⟩ := smaller_float raised hi
  simp only [sizeDelta, hs, hlo, hhi, Value.number, hsum, bind, Except.bind, Number.toValue,
    hraised, hclamped]
  exact ⟨_, rfl⟩

/-- A block that does not repeat gives a result. -/
theorem execute_ok_of_not_repeats (hi : i.behaviours = builtInBehaviours)
    (hmin : ∃ v, i.minScale = .float v) (hmax : ∃ v, i.maxScale = .float v) (ha : a.Steerable)
    (hb : ¬b.Repeats) : ∃ r, i.execute a st b = .ok r := by
  obtain ⟨id, type, values, children⟩ := b
  have hleaf : ∀ {d : Except Fault Delta}, (∃ delta, d = .ok delta) →
      ∃ r, d.map (fun d => (⟨some d, true, st, []⟩ : StepResult)) = .ok r := by
    rintro _ ⟨delta, rfl⟩
    exact ⟨_, rfl⟩
  obtain ⟨d, hd⟩ := (parameter ⟨id, type, values, children⟩ 0).asNumber_toFloat
  rw [execute, hi]
  cases hg : builtInBehaviours.get? type with
  | none => exact ⟨_, rfl⟩
  | some behaviour =>
    cases behaviour with
    | repeatTimes => exact absurd (builtIn_repeatTimes hg) hb
    | fixed delta advance => exact absurd hg builtIn_ne_fixed
    | nothing => exact ⟨_, rfl⟩
    | move => exact hleaf (moveDelta_ok ha hd)
    | turnRight => exact hleaf (turnDelta_ok ha hd)
    | turnLeft => exact hleaf (turnDelta_ok ha hd)
    | goTo => exact hleaf ⟨_, rfl⟩
    | say => exact hleaf ⟨_, rfl⟩
    | changeSize => exact hleaf (sizeDelta_ok ha hmin hmax hd)

/-! ## Repeat blocks -/

/-- A child is only planned if the block has it. Its position is the recorded one, or the first. -/
theorem planRepeat_child {p : LoopProgress} (h : planRepeat b st = .child p) :
    p.child < b.kids.length ∧ (st.loops.get? b.id = some p ∨ p.child = 0) := by
  unfold planRepeat at h
  dsimp only at h
  split at h
  · rename_i progress hentry
    split_ifs at h with hover hpast
    obtain rfl := RepeatCall.child.inj h
    exact ⟨Int.not_le.mp hpast, .inl hentry⟩
  · split_ifs at h with hidle hpast
    obtain rfl := RepeatCall.child.inj h
    exact ⟨Int.not_le.mp hpast, .inr rfl⟩

theorem executeNth_ok {cs : List Block} (h : ∀ c ∈ cs, ∃ r, i.execute a st c = .ok r) {n : Nat}
    (hn : n < cs.length) :
    ∃ r, i.executeNth a st cs n = .ok r := by
  obtain ⟨before, c, after, hcs, rfl⟩ : ∃ before c after, cs = before ++ c :: after ∧ before.length = n :=
    ⟨cs.take n, cs[n], cs.drop (n + 1), by simp, by simp; omega⟩
  rw [hcs, executeNth_at]
  exact h c (by rw [hcs]; simp)

theorem execute_ok_of_repeats (hi : i.behaviours = builtInBehaviours)
    (hst : ∀ id p, st.loops.get? id = some p → 0 ≤ p.child) (hb : b.Repeats)
    (hkids : ∀ c ∈ b.kids, ∃ r, i.execute a st c = .ok r) : ∃ r, i.execute a st b = .ok r := by
  rw [execute_of_repeats (regular_of_builtIn hi) hb]
  cases hplan : planRepeat b st with
  | done result => exact ⟨result, rfl⟩
  | child p =>
    obtain ⟨hlt, hentry⟩ := planRepeat_child hplan
    have hchild : 0 ≤ p.child := by
      rcases hentry with hentry | hfirst
      · exact hst b.id p hentry
      · exact Int.le_of_eq hfirst.symm
    obtain ⟨cs, hcs⟩ : ∃ cs, b.children = some cs := by
      cases hc : b.children with
      | none =>
        rw [kids, hc] at hlt
        exact absurd hlt (Int.not_lt.mpr hchild)
      | some cs => exact ⟨cs, rfl⟩
    have hsame : b.kids = cs := by rw [kids, hcs, Option.getD_some]
    rw [hsame] at hlt hkids
    obtain ⟨r, hr⟩ := executeNth_ok hkids (show p.child.toNat < cs.length by omega)
    simp only [position?, if_pos hchild, hcs, hr]
    exact ⟨_, rfl⟩

/-! ## Every call -/

/-- The passes of a repeat block are the integer part of its parameter; none are made up. -/
theorem passes_eq (b : Block) : (b.parameter 0).asNumber.integerPart = .ok (passes b) := by
  obtain ⟨n, hn⟩ := (b.parameter 0).asNumber_integerPart
  rw [passes, hn]
  rfl

/-- **Every call of the interpreter gives a result**, for the behaviours of the palette, limits
of the scale that are doubles, an actor with doubles as its numbers and a heading that has an
angle, and recorded progress at children that are not counted from the end: whatever the types,
the literals and the children of the blocks, and whether or not what is recorded still fits them.
The two places where the interpreter goes on after a fault hide none: the passes of a repeat
block are those that its parameter says, and a text that cannot be made is always that of an
integer with too many digits. -/
theorem executeSlot_returns (hi : i.behaviours = builtInBehaviours) (hmin : ∃ v, i.minScale = .float v)
    (hmax : ∃ v, i.maxScale = .float v) (ha : a.Steerable)
    (hst : ∀ id p, st.loops.get? id = some p → 0 ≤ p.child) (slot : Option Block) :
    (∃ r, i.executeSlot a st slot = .ok r) ∧
      ∀ b ∈ Script.preorder slot.toList, (b.parameter 0).asNumber.integerPart = .ok (passes b) ∧
        ∀ v ∈ b.values.head?, ∀ fault, v.display = .error fault → fault = .badValue := by
  refine ⟨?_, fun b _ => ⟨passes_eq b, fun v _ => v.display_fails⟩⟩
  cases slot with
  | none => exact ⟨_, rfl⟩
  | some b =>
    rw [executeSlot]
    induction b using kids_induction with
    | h b ih =>
      by_cases hb : b.Repeats
      · exact execute_ok_of_repeats hi hst hb ih
      · exact execute_ok_of_not_repeats hi hmin hmax ha hb

/-- A repeat block around literals that are not numbers or are too large for one. Two of the blocks
share an id, and a block that is no container has children. -/
def oddProgram : Block :=
  ⟨"r", BlockType.repeatTimes, [.str " 3 "], some
    [⟨"r", BlockType.repeatTimes, [.int (10 ^ 400)], none⟩,
     ⟨"m", BlockType.moveSteps, [.float (0 / 0)], some [⟨"t", BlockType.turnLeft, [.null], none⟩]⟩,
     ⟨"s", BlockType.say, [.int (10 ^ 5000)], none⟩,
     ⟨"u", "UNKNOWN", [.list [.object []]], some []⟩]⟩

/-- The recorded child of `"r"` is past the four that the block has. -/
theorem executeSlot_returns_oddProgram :
    ∃ r, ({} : Interpreter).executeSlot { id := "cat1" }
      { loops := [("r", ⟨2, 7⟩), ("gone", ⟨0, 1⟩)] } (some oddProgram) =
      .ok r := by
  have hsteerable : Actor.Steerable { id := "cat1" } :=
    ⟨⟨0, rfl⟩, ⟨0, rfl⟩, ⟨100, rfl⟩, ⟨90, rfl, by decide +kernel⟩⟩
  have hrecorded : ∀ id p, Assoc.get? [("r", (⟨2, 7⟩ : LoopProgress)), ("gone", ⟨0, 1⟩)] id =
      some p → 0 ≤ p.child := by
    intro id p h
    simp only [Assoc.get?] at h
    split_ifs at h
    · obtain rfl := Option.some.inj h
      decide
    · obtain rfl := Option.some.inj h
      decide
  exact (executeSlot_returns rfl ⟨10, rfl⟩ ⟨500, rfl⟩ hsteerable hrecorded (some oddProgram)).1

end Interpreter

end ScriptedStage
