import Mathlib
import ScriptedStage.Numeric.Dyadic

/-!
Finite doubles and the integers that fit them. A double is finite exactly if its exponent field is
not all ones, so a question about the result of a rounding becomes one about natural numbers:
whether the mantissa and the exponent that are put together leave that field free.

What is proved:
  1. `isFinite_iff` and `isFinite_ofBits`: the exponent field of a double, read and written;
  2. `ofInteger_isFinite`: an integer that is not larger than the largest double has a
     finite nearest double. Only at the top of the range may the mantissa not be rounded
     up, and there it is not;
  3. `truncate_le`: the integer part of a finite double is such an integer;
  4. `ofInteger_neg_isInf`, `isFinite_neg` and `neg_neg_of_isFinite`: the opposite of a number
     that fits fits too, and to take it twice gives the number back. Of a double it changes the
     sign bit and no other.
-/
namespace ScriptedStage.Numeric

open Float.Model Float.Model.UnpackedFloat

theorem twoPow_pos (n : Nat) : 0 < twoPow n := Nat.two_pow_pos n

theorem twoPow_le {m n : Nat} (h : m ≤ n) : twoPow m ≤ twoPow n := Nat.pow_le_pow_right (by decide) h

/-! ## The exponent field -/

/-- The exponent field of the bits of a double. -/
def exponentField (w : UInt64) : Nat := w.toNat / twoPow 52 % twoPow 11

theorem exponentField_lt (w : UInt64) : exponentField w < 2048 := Nat.mod_lt _ (by decide)

theorem unpackExponent_toNat (w : UInt64) :
    (@unpackExponent Format.binary64 w.toBitVec).toNat = exponentField w := by
  simp [unpackExponent, exponentField, twoPow, Nat.shiftRight_eq_div_pow]

theorem unpackExponent_eq_neg_one (w : UInt64) :
    @unpackExponent Format.binary64 w.toBitVec = -1#_ ↔ exponentField w = 2047 := by
  rw [← unpackExponent_toNat, ← BitVec.toNat_inj]
  simp

theorem isFinite_iff (x : Float) : x.isFinite = true ↔ exponentField x.toBits ≠ 2047 := by
  rw [ne_eq, ← unpackExponent_eq_neg_one]
  simp only [Float.isFinite, Float.Model.isFinite, Float.Model.unpack, Float.toBits, UnpackedFloat.unpack]
  split_ifs <;> simp_all [UnpackedFloat.isFinite]

theorem isInf_of_isFinite {x : Float} (h : x.isFinite = true) : x.isInf = false := by
  simp only [Float.isFinite, Float.Model.isFinite, Float.isInf, Float.Model.isInf] at h ⊢
  cases hu : x.toModel.unpack <;> simp_all [UnpackedFloat.isFinite, UnpackedFloat.isInf]

theorem isNaN_of_isFinite {x : Float} (h : x.isFinite = true) : x.isNaN = false := by
  simp only [Float.isFinite, Float.Model.isFinite, Float.isNaN, Float.Model.isNaN] at h ⊢
  cases hu : x.toModel.unpack <;> simp_all [UnpackedFloat.isFinite, UnpackedFloat.isNaN]

/-- A number whose exponent fits is not packed as an infinity or a NaN. -/
theorem unpackExponent_pack {s : Sign} {m : Nat} {e : Int} {hm : 0 < m} (h : e + 1075 < 2047) :
    unpackExponent (UnpackedFloat.pack Format.binary64 (.finite s m e hm)) ≠ -1#_ := by
  have hbias : (e + Format.binary64.exponentBias + (52 : Nat)).toNat = (e + 1075).toNat := by
    rw [show (Format.binary64.exponentBias : Int) = 1023 from rfl]
    omega
  simp only [UnpackedFloat.pack, hbias]
  rw [if_neg (by simp; omega)]
  split_ifs with hnormal
  · rw [unpackExponent_packComponents, ne_eq, ← BitVec.toNat_inj]
    simp
    omega
  · rw [unpackExponent_packComponents]
    decide

theorem isFinite_ofBits {w : UInt64} (h : exponentField w ≠ 2047) : (Float.ofBits w).isFinite = true := by
  have hlt := exponentField_lt w
  have hbias : (Format.binary64.exponentBias : Int) = 1023 := rfl
  have hfield : ¬@unpackExponent Format.binary64 w.toBitVec = -1#_ := by
    rwa [unpackExponent_eq_neg_one]
  rw [isFinite_iff, ne_eq, ← unpackExponent_eq_neg_one]
  simp only [Float.toBits, Float.ofBits, Float.Model.ofBits, Float.Model.pack, UnpackedFloat.unpack,
    if_neg hfield]
  -- the bits are those of a zero, of a number below the normal ones, or of a normal one
  split_ifs with hzero hmantissa
  · simp [UnpackedFloat.pack, packedZero]
  · apply unpackExponent_pack
    rw [hzero, hbias]
    decide
  · apply unpackExponent_pack
    rw [unpackExponent_toNat, hbias]
    omega

/-- The exponent field of bits that are put together from their parts. -/
theorem exponentField_ofNat (negative : Bool) {field fraction : Nat} (hfield : field < 2048)
    (hfraction : fraction < twoPow 52) :
    exponentField (UInt64.ofNat ((if negative then twoPow 63 else 0) +
      (field * twoPow 52 + fraction))) = field := by
  have h52 : twoPow 52 = 4503599627370496 := rfl
  have h63 : twoPow 63 = 9223372036854775808 := rfl
  have h11 : twoPow 11 = 2048 := rfl
  rw [exponentField, UInt64.toNat_ofNat']
  rw [h52] at hfraction
  rw [h52, h63, h11]
  cases negative <;> simp <;> omega

/-! ## Integers that fit -/

/-- The largest finite double. -/
def largest : Nat := (twoPow 53 - 1) * twoPow 971

theorem largest_lt : largest < 2 ^ 1024 := by decide +kernel

/-- Rounding does not go beyond a whole number. -/
theorem roundDiv_le {num den m : Nat} (h : num ≤ m * den) (hden : 0 < den) : roundDiv num den ≤ m := by
  have hq : num / den ≤ m := Nat.div_le_of_le_mul (by rwa [Nat.mul_comm])
  rcases Nat.lt_or_eq_of_le hq with hlt | heq
  · unfold roundDiv
    dsimp only
    split_ifs <;> omega
  · have hrest : num % den = 0 := by
      have hsplit := Nat.div_add_mod num den
      rw [heq, Nat.mul_comm] at hsplit
      omega
    simp [roundDiv, hrest, heq, hden]

theorem encode_isFinite (negative : Bool) {m : Nat} {e : Int} (hm : m < twoPow 53)
    (he : m < twoPow 52 ∨ e ≤ maxExponent) : (encode negative m e).isFinite = true := by
  have h53 : twoPow 53 = 2 * twoPow 52 := rfl
  unfold encode
  rw [if_neg (Nat.ne_of_lt hm)]
  apply isFinite_ofBits
  by_cases hsub : m < twoPow 52
  · have hfield := exponentField_ofNat negative (show 0 < 2048 by decide) hsub
    rw [Nat.zero_mul, Nat.zero_add] at hfield
    rw [if_pos hsub, hfield]
    decide
  · replace he := he.resolve_left hsub
    have hbound : (e + 1075).toNat < 2047 := by
      rw [maxExponent] at he
      omega
    rw [if_neg hsub, if_neg (Int.not_lt.mpr he), exponentField_ofNat negative (by omega) (by omega)]
    omega

/-- A mantissa that was rounded up to one bit more goes to the next exponent. -/
theorem encode_carry (negative : Bool) (e : Int) :
    encode negative (twoPow 53) e = encode negative (twoPow 52) (e + 1) := by
  have h : twoPow 52 ≠ twoPow 53 := by decide
  simp only [encode, if_true, if_neg h]

/-- Scaled by the position of its first bit, a natural number has 53 bits before the point. At the
top of the range it is not beyond the mantissa of the largest double. -/
theorem scaleRatio_log2 {num : Nat} (hnum : num ≠ 0) :
    ∃ a b, scaleRatio num 1 ((num.log2 : Int) - 52) = (a, b) ∧ 0 < b ∧ twoPow 52 * b ≤ a ∧
      a < twoPow 53 * b ∧
      (num ≤ largest → num.log2 = 1023 → a ≤ (twoPow 53 - 1) * b) := by
  have hlo : 2 ^ num.log2 ≤ num := Nat.log2_self_le hnum
  have hhi : num < 2 ^ (num.log2 + 1) := Nat.lt_log2_self
  generalize num.log2 = k at hlo hhi ⊢
  by_cases hneg : (k : Int) - 52 < 0
  · have hshift : (-((k : Int) - 52)).toNat = 52 - k := by omega
    refine ⟨num * twoPow (52 - k), 1, by rw [scaleRatio, if_pos hneg, hshift], Nat.one_pos, ?_, ?_,
      by omega⟩
    · calc twoPow 52 * 1 = 2 ^ k * 2 ^ (52 - k) := by
            rw [← Nat.pow_add, show k + (52 - k) = 52 by omega]; rfl
        _ ≤ num * 2 ^ (52 - k) := Nat.mul_le_mul_right _ hlo
    · calc num * twoPow (52 - k) < 2 ^ (k + 1) * 2 ^ (52 - k) :=
            Nat.mul_lt_mul_of_pos_right hhi (Nat.two_pow_pos _)
        _ = twoPow 53 * 1 := by rw [← Nat.pow_add, show k + 1 + (52 - k) = 53 by omega]; rfl
  · have hshift : ((k : Int) - 52).toNat = k - 52 := by omega
    refine ⟨num, twoPow (k - 52), by rw [scaleRatio, if_neg hneg, hshift, Nat.one_mul],
      twoPow_pos _, ?_, ?_, ?_⟩
    · calc twoPow 52 * twoPow (k - 52) = 2 ^ k := by
            rw [twoPow, twoPow, Nat.pow_eq, Nat.pow_eq, ← Nat.pow_add,
              show 52 + (k - 52) = k by omega]
        _ ≤ num := hlo
    · calc num < 2 ^ (k + 1) := hhi
        _ = twoPow 53 * twoPow (k - 52) := by
            rw [twoPow, twoPow, Nat.pow_eq, Nat.pow_eq, ← Nat.pow_add,
              show 53 + (k - 52) = k + 1 by omega]
    · intro hlargest htop
      rwa [htop, show 1023 - 52 = 971 from rfl]

/-- The double nearest to a natural number is put together from a mantissa of 53 bits, or one that
was rounded up to 54, and the position of the first bit. -/
theorem ofRatio_one {num : Nat} (h : num ≠ 0) :
    ∃ m, (∀ negative, ofRatio negative num 1 = encode negative m ((num.log2 : Int) - 52)) ∧ m ≤ twoPow 53 ∧
      (num ≤ largest → num.log2 = 1023 → m ≤ twoPow 53 - 1) := by
  obtain ⟨a, b, hscaled, hpos, hlow, hhigh, htop⟩ := scaleRatio_log2 h
  have hfull : ¬a / b < twoPow 52 := Nat.not_lt.mpr ((Nat.le_div_iff_mul_le hpos).mpr hlow)
  have hestimate : (num.log2 : Int) - (Nat.log2 1 : Nat) - 52 = (num.log2 : Int) - 52 := by
    rw [show Nat.log2 1 = 0 from rfl]
    omega
  have hmax : max ((num.log2 : Int) - 52) minExponent = (num.log2 : Int) - 52 := by
    rw [minExponent]
    omega
  refine ⟨roundDiv a b, ?_, roundDiv_le (Nat.le_of_lt hhigh) hpos,
    fun hn hlog => roundDiv_le (htop hn hlog) hpos⟩
  intro negative
  simp only [ofRatio, if_neg h, hestimate, hscaled, if_neg hfull, hmax]

/-- An integer that is not larger than the largest double fits. -/
theorem ofInteger_isFinite {n : Int} (h : n.natAbs ≤ largest) : (ofInteger n).isFinite = true := by
  by_cases hzero : n = 0
  · rw [hzero, ofInteger, ofRatio, if_pos Int.natAbs_zero]
    exact encode_isFinite _ (by decide) (.inl (by decide))
  · have hne : n.natAbs ≠ 0 := by omega
    have hlog : n.natAbs.log2 < 1024 := by
      rw [Nat.log2_lt hne]
      exact Nat.lt_of_le_of_lt h largest_lt
    obtain ⟨m, hm, hround, htop⟩ := ofRatio_one hne
    rw [ofInteger, hm]
    rcases Nat.lt_or_eq_of_le hround with hlt | hcarry
    · exact encode_isFinite _ hlt (.inr (by rw [maxExponent]; omega))
    · -- the carry goes to the next exponent, which is there unless the number is at the top of the range
      have hbelow : n.natAbs.log2 ≠ 1023 := by
        intro hlog
        have hless := htop h hlog
        rw [hcarry] at hless
        exact absurd hless (by decide)
      rw [hcarry, encode_carry]
      exact encode_isFinite _ (by decide) (.inr (by rw [maxExponent]; omega))

/-! ## The integer part of a double -/

theorem ofFloat_bounds {x : Float} (h : x.isFinite = true) :
    (Dyadic.ofFloat x).mantissa ≤ twoPow 53 - 1 ∧ (Dyadic.ofFloat x).exponent ≤ 971 := by
  have hfield : x.toBits.toNat / twoPow 52 % twoPow 11 ≠ 2047 := (isFinite_iff x).mp h
  have h52 : twoPow 52 = 4503599627370496 := rfl
  have h53 : twoPow 53 = 9007199254740992 := rfl
  have h11 : twoPow 11 = 2048 := rfl
  simp only [Dyadic.ofFloat]
  rw [h52, h11] at hfield ⊢
  rw [h53]
  split_ifs
  · simp only [minExponent]
    omega
  · dsimp only
    omega

/-- The integer part of a finite double is not larger than the largest double. -/
theorem truncate_le {x : Float} (h : x.isFinite = true) : (truncate x).natAbs ≤ largest := by
  obtain ⟨hm, he⟩ := ofFloat_bounds h
  have hmagnitude : (if (Dyadic.ofFloat x).exponent < 0 then
      (Dyadic.ofFloat x).mantissa / twoPow (-(Dyadic.ofFloat x).exponent).toNat
      else (Dyadic.ofFloat x).mantissa * twoPow (Dyadic.ofFloat x).exponent.toNat) ≤
        (twoPow 53 - 1) * twoPow 971 := by
    split_ifs
    · calc (Dyadic.ofFloat x).mantissa / twoPow (-(Dyadic.ofFloat x).exponent).toNat
          ≤ (Dyadic.ofFloat x).mantissa := Nat.div_le_self _ _
        _ ≤ twoPow 53 - 1 := hm
        _ ≤ (twoPow 53 - 1) * twoPow 971 := Nat.le_mul_of_pos_right _ (twoPow_pos 971)
    · exact Nat.mul_le_mul hm (twoPow_le (by omega))
  unfold truncate
  dsimp only
  generalize (if (Dyadic.ofFloat x).exponent < 0 then _ else _ : Nat) = magnitude at hmagnitude ⊢
  split_ifs
  · rwa [Int.natAbs_neg, Int.natAbs_natCast]
  · rwa [Int.natAbs_natCast]

/-! ## Opposites -/

/-- Whether a number is too large for a double does not depend on its sign. -/
theorem encode_isInf_eq (a b : Bool) {m : Nat} {e : Int} (hm : m < twoPow 53) :
    (encode a m e).isInf = (encode b m e).isInf := by
  by_cases hfits : m < twoPow 52 ∨ e ≤ maxExponent
  · rw [isInf_of_isFinite (encode_isFinite a hm hfits), isInf_of_isFinite (encode_isFinite b hm hfits)]
  · rw [not_or, Int.not_le] at hfits
    obtain ⟨hfull, hlarge⟩ := hfits
    have hinfinite : ∀ negative, (encode negative m e).isInf = true := by
      intro negative
      simp only [encode, if_neg (Nat.ne_of_lt hm), if_neg hfull, if_pos hlarge]
      cases negative <;> decide
    rw [hinfinite a, hinfinite b]

/-- An integer fits exactly if its opposite does. -/
theorem ofInteger_neg_isInf (n : Int) : (ofInteger (-n)).isInf = (ofInteger n).isInf := by
  by_cases hzero : n = 0
  · rw [hzero, Int.neg_zero]
  · have hne : n.natAbs ≠ 0 := by omega
    obtain ⟨m, hm, hround, -⟩ := ofRatio_one hne
    rw [ofInteger, ofInteger, Int.natAbs_neg, hm, hm]
    rcases Nat.lt_or_eq_of_le hround with hlt | hcarry
    · exact encode_isInf_eq _ _ hlt
    · rw [hcarry, encode_carry, encode_carry]
      exact encode_isInf_eq _ _ (by decide)

theorem unpackSign_packComponents (s : Sign) (e : BitVec 11) (m : BitVec 52) :
    Sign.ofBitVec (unpackSign (packComponents Format.binary64 s e m)) = s := by
  have hbit : unpackSign (packComponents Format.binary64 s e m) = s.toBitVec := by
    simp only [unpackSign, packComponents, BitVec.extractLsb]
    ext i hi
    grind
  rw [hbit]
  cases s <;> rfl

/-- The bits of a double are its sign, its exponent and its mantissa. -/
theorem packComponents_unpack (b : BitVec Format.binary64.numBits) :
    packComponents Format.binary64 (Sign.ofBitVec (unpackSign b)) (unpackExponent b)
      (unpackMantissa b) = b := by
  have hsign : ∀ c : BitVec 1, (Sign.ofBitVec c).toBitVec = c := by decide
  simp only [packComponents, hsign, unpackSign, unpackExponent, unpackMantissa, BitVec.extractLsb]
  ext i hi
  grind

theorem toNat_implicit (m : BitVec 52) : (1#1 ++ m).toNat = 2 ^ 52 + m.toNat := by
  rw [BitVec.toNat_append, ← Nat.shiftLeft_add_eq_or_of_lt m.isLt]
  rfl

/-- The opposite of a finite double is packed from its exponent, its mantissa and the other sign. -/
theorem pack_neg_unpack {b : BitVec Format.binary64.numBits} (h : unpackExponent b ≠ -1#_) :
    UnpackedFloat.pack Format.binary64 (UnpackedFloat.unpack Format.binary64 b).neg =
      packComponents Format.binary64 (-Sign.ofBitVec (unpackSign b)) (unpackExponent b)
        (unpackMantissa b) := by
  have hbias : (Format.binary64.exponentBias : Int) = 1023 := rfl
  have hwidth : (Format.binary64.mantissaBitsWithoutImplicit : Int) = 52 := rfl
  have hbits : Format.binary64.mantissaBits = 53 := rfl
  have hm : (unpackMantissa b).toNat < 2 ^ 52 := (unpackMantissa b).isLt
  simp only [UnpackedFloat.unpack, if_neg h]
  split_ifs with hzero hmantissa
  · simp only [UnpackedFloat.neg, UnpackedFloat.pack, packedZero, hzero, hmantissa]
    rfl
  · -- a number below the normal ones has no more than 52 bits
    have hlog : ¬(unpackMantissa b).toNat.log2 + 1 = 53 := by
      have hne : (unpackMantissa b).toNat ≠ 0 := by
        rwa [← BitVec.toNat_inj] at hmantissa
      have := (Nat.log2_lt hne).mpr hm
      omega
    simp only [UnpackedFloat.neg, UnpackedFloat.pack, hzero, hbias, hwidth, hbits, if_neg hlog]
    rw [if_neg (by decide), BitVec.ofNat_toNat, BitVec.setWidth_eq]
  · have hne : (unpackExponent b).toNat ≠ 2047 := by
      rwa [ne_eq, ← BitVec.toNat_inj] at h
    have hlt : (unpackExponent b).toNat < 2048 := (unpackExponent b).isLt
    have hfull : (1#1 ++ unpackMantissa b).toNat = 2 ^ 52 + (unpackMantissa b).toNat := toNat_implicit _
    have hlog : (2 ^ 52 + (unpackMantissa b).toNat).log2 + 1 = 53 := by
      rw [(Nat.log2_eq_iff (by omega)).mpr ⟨(by omega : 2 ^ 52 ≤ _), by omega⟩]
    have hexponent : ((unpackExponent b).toNat - (1023 + 52) + 1023 + 52 : Int).toNat =
        (unpackExponent b).toNat := by
      omega
    simp only [UnpackedFloat.neg, UnpackedFloat.pack, hfull, hbias, hwidth, hbits, hexponent, hlog, if_true]
    rw [if_neg (by change ¬2048 ≤ _; omega), BitVec.ofNat_toNat, BitVec.setWidth_eq]
    congr 1
    rw [← BitVec.toNat_inj, BitVec.toNat_ofNat]
    change (2 ^ 52 + (unpackMantissa b).toNat) % 2 ^ 52 = _
    omega

theorem eq_of_toBits {x y : Float} (h : x.toBits = y.toBits) : x = y := by
  obtain ⟨⟨_, _⟩⟩ := x
  obtain ⟨⟨_, _⟩⟩ := y
  cases h
  rfl

theorem isFinite_iff_unpackExponent (x : Float) :
    x.isFinite = true ↔ @unpackExponent Format.binary64 x.toBits.toBitVec ≠ -1#_ := by
  rw [isFinite_iff, ne_eq, ne_eq, unpackExponent_eq_neg_one]

theorem toBits_neg {x : Float} (h : x.isFinite = true) :
    (-x).toBits.toBitVec =
      packComponents Format.binary64 (-Sign.ofBitVec (@unpackSign Format.binary64 x.toBits.toBitVec))
        (unpackExponent x.toBits.toBitVec) (unpackMantissa x.toBits.toBitVec) :=
  pack_neg_unpack ((isFinite_iff_unpackExponent x).mp h)

theorem isFinite_neg {x : Float} (h : x.isFinite = true) : (-x).isFinite = true := by
  rw [isFinite_iff_unpackExponent, toBits_neg h, unpackExponent_packComponents]
  exact (isFinite_iff_unpackExponent x).mp h

/-- The opposite of the opposite of a finite double is the double. -/
theorem neg_neg_of_isFinite {x : Float} (h : x.isFinite = true) : - -x = x := by
  have hsign : ∀ s : Sign, - -s = s := by
    intro s
    cases s <;> rfl
  have hbits : (- -x).toBits.toBitVec = x.toBits.toBitVec := by
    rw [toBits_neg (isFinite_neg h), toBits_neg h, unpackSign_packComponents, unpackExponent_packComponents,
      unpackMantissa_packComponents, hsign, packComponents_unpack]
  exact eq_of_toBits (UInt64.toBitVec_inj.mp hbits)

end ScriptedStage.Numeric
