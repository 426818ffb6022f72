import DevicePoll.Document.Reader
import Mathlib

/-! Whole numbers as reals. Rounding a whole number to a real raises its exponent by at most twice its
bits, which for the numbers of a data file is far from the exponents that overflow. -/
namespace DevicePoll

open Float.Model Float.Model.UnpackedFloat

namespace Rounding

theorem repeat_shiftRightOne_le (n : Nat) (em : ExtendedMantissa) :
    (n.repeat ExtendedMantissa.shiftRightOne em).mantissa ≤ em.mantissa := by
  induction n with
  | zero => rfl
  | succ n ih => exact (Nat.div_le_self _ _).trans ih

theorem roundedMantissa_le (em : ExtendedMantissa) : em.roundedMantissa ≤ em.mantissa + 1 := by
  unfold ExtendedMantissa.roundedMantissa Accuracy.roundToNearestEven
  split <;> omega

theorem mantissa_ofMantissaAndAccuracy (mantissa : Nat) (accuracy : Accuracy) :
    (ExtendedMantissa.ofMantissaAndAccuracy mantissa accuracy).mantissa = mantissa := by
  unfold ExtendedMantissa.ofMantissaAndAccuracy
  split <;> rfl

theorem log2_le {mantissa bits : Nat} (h : mantissa ≤ 2 ^ bits) : mantissa.log2 ≤ bits := by
  by_cases hzero : mantissa = 0
  · simp [hzero]
  · have hlt : mantissa.log2 < bits + 1 := by
      rw [Nat.log2_lt hzero]
      exact h.trans_lt (Nat.pow_lt_pow_right (by omega) (by omega))
    omega

/-- Shifting a mantissa to the exponent that its bits ask for. -/
theorem shiftToTargetExponent_le {mantissa bits : Nat} (h : mantissa ≤ 2 ^ bits) (exponent : Int)
    (accuracy : Accuracy) :
    (shiftToTargetExponent Format.binary64 mantissa exponent accuracy).1.mantissa ≤ mantissa ∧
      (shiftToTargetExponent Format.binary64 mantissa exponent accuracy).2 ≤
        max exponent (-1074) + bits := by
  have hlog := log2_le h
  constructor
  · refine (repeat_shiftRightOne_le _ _).trans ?_
    rw [mantissa_ofMantissaAndAccuracy]
  · simp only [shiftToTargetExponent, shiftToExponent, totalExponent, Format.targetExponent,
      Format.minExponent, Format.mantissaBits]
    omega

/-- Zero, or a real whose exponent is bounded. -/
def AtMost (bound : Int) : UnpackedFloat → Prop
  | .zero _ => True
  | .finite _ _ exponent _ => exponent ≤ bound
  | _ => False

theorem AtMost.mono {low high : Int} (h : low ≤ high) {x : UnpackedFloat} (hx : AtMost low x) :
    AtMost high x := by
  cases x with
  | zero sign => trivial
  | finite sign mantissa exponent hpos => exact le_trans (show exponent ≤ low from hx) h
  | infinity sign => cases hx
  | notANumber => cases hx

theorem roundWithAccuracy_atMost {mantissa bits : Nat} (h : mantissa < 2 ^ bits) (sign : Sign)
    (exponent : Int) (accuracy : Accuracy) : AtMost (max exponent (-1074) + 2 * bits)
      (roundWithAccuracy Format.binary64 sign mantissa exponent accuracy) := by
  obtain ⟨hmantissa, hfirst⟩ := shiftToTargetExponent_le h.le exponent accuracy
  have hrounded := roundedMantissa_le
    (shiftToTargetExponent Format.binary64 mantissa exponent accuracy).1
  -- rounding up may take one more bit, so the mantissa is shifted a second time
  obtain ⟨-, hsecond⟩ := shiftToTargetExponent_le (hrounded.trans (by omega : _ ≤ 2 ^ bits))
    (shiftToTargetExponent Format.binary64 mantissa exponent accuracy).2 .exact
  unfold roundWithAccuracy
  dsimp only
  split
  · trivial
  · show _ ≤ _
    omega

/-- Zero, or a real as it is packed, with a bounded exponent. -/
def Packed (bound : Int) : UnpackedFloat → Prop
  | .zero _ => True
  | .finite _ mantissa exponent _ => mantissa < 2 ^ 53 ∧ exponent ≤ bound
  | _ => False

theorem Packed.isFinite {x : UnpackedFloat} {bound : Int} (h : Packed bound x) :
    x.isFinite = true := by
  cases x with
  | zero sign => rfl
  | finite sign mantissa exponent hpos => rfl
  | infinity sign => cases h
  | notANumber => cases h

theorem unpack_packComponents (sign : Sign) (mantissa : BitVec 52) {exponent : BitVec 11}
    (h : exponent ≠ -1#_) : Packed (max (exponent.toNat - 1075) (-1074))
      (UnpackedFloat.unpack Format.binary64
        (packComponents Format.binary64 sign exponent mantissa)) := by
  have hmantissa := mantissa.isLt
  have himplicit := (1#1 ++ mantissa).isLt
  unfold UnpackedFloat.unpack
  simp only [unpackExponent_packComponents, unpackMantissa_packComponents, h, ↓reduceIte]
  split
  · rename_i hzero
    subst hzero
    split
    · trivial
    · refine ⟨by omega, ?_⟩
      simp only [Format.exponentBias]
      decide
  · refine ⟨himplicit, ?_⟩
    simp only [Format.exponentBias]
    omega

theorem Packed.mono {low high : Int} (h : low ≤ high) {x : UnpackedFloat} (hx : Packed low x) :
    Packed high x := by
  cases x with
  | zero sign => trivial
  | finite sign mantissa exponent hpos => exact ⟨hx.1, hx.2.trans h⟩
  | infinity sign => cases hx
  | notANumber => cases hx

/-- A real whose exponent does not overflow is packed with its own exponent, or as a small one. -/
theorem pack_finite (sign : Sign) (mantissa : Nat) {exponent : Int} (hpos : 0 < mantissa)
    (h : exponent ≤ 900) : ∃ packed : BitVec 11, packed.toNat ≤ (exponent + 1075).toNat ∧
      packed.toNat < 2047 ∧ ∃ rest : BitVec 52,
        UnpackedFloat.pack Format.binary64 (.finite sign mantissa exponent hpos) =
          packComponents Format.binary64 sign packed rest := by
  have hbias : exponent + 1023 + 52 = exponent + 1075 := by omega
  have hfits : ¬2048 ≤ (exponent + 1075).toNat + 1 := by omega
  have hmod : (exponent + 1075).toNat % 2 ^ 11 = (exponent + 1075).toNat :=
    Nat.mod_eq_of_lt (by omega)
  by_cases hnormal : mantissa.log2 + 1 = Format.binary64.mantissaBits
  · refine ⟨BitVec.ofNat 11 (exponent + 1075).toNat, ?_, ?_, BitVec.ofNat 52 mantissa, ?_⟩
    · rw [BitVec.toNat_ofNat, hmod]
    · rw [BitVec.toNat_ofNat, hmod]
      omega
    · simp only [UnpackedFloat.pack, Format.exponentBias]
      norm_num [hbias, hfits, hnormal]
  · refine ⟨0, by simp, by simp, BitVec.ofNat 52 mantissa, ?_⟩
    simp only [UnpackedFloat.pack, Format.exponentBias]
    norm_num [hbias, hfits, hnormal]
    rfl

/-- Packing keeps a real whose exponent does not overflow. -/
theorem unpack_pack {x : UnpackedFloat} {bound : Int} (h : AtMost bound x) (hbound : bound ≤ 900) :
    Packed (max bound (-1074)) (Float.Model.pack x).unpack := by
  have hlast : ∀ packed : BitVec 11, packed.toNat < 2047 → packed ≠ -1#_ := by
    rintro packed hpacked rfl
    exact absurd hpacked (by decide)
  cases x with
  | zero sign =>
    refine (unpack_packComponents sign 0 (hlast 0 (by decide))).mono ?_
    simp
  | finite sign mantissa exponent hpos =>
    have hexponent : exponent ≤ bound := h
    obtain ⟨packed, hpacked, hsmall, rest, heq⟩ := pack_finite sign mantissa hpos
      (hexponent.trans hbound)
    have hunpacked := unpack_packComponents sign rest (hlast packed hsmall)
    rw [← heq] at hunpacked
    refine hunpacked.mono ?_
    omega
  | infinity sign => cases h
  | notANumber => cases h

/-- The product of two packed reals is bounded by the sum of their exponents. -/
theorem mul_atMost {a b : UnpackedFloat} {low high : Int} (ha : Packed low a) (hb : Packed high b) :
    AtMost (max (low + high) (-1074) + 212) (mul Format.binary64 a b) := by
  cases a with
  | zero sign =>
    cases b with
    | zero sign => trivial
    | finite sign mantissa exponent hpos => trivial
    | infinity sign => cases hb
    | notANumber => cases hb
  | finite sign mantissa exponent hpos =>
    cases b with
    | zero sign => trivial
    | finite sign' mantissa' exponent' hpos' =>
      have hproduct : mantissa * mantissa' < 2 ^ 106 :=
        (Nat.mul_lt_mul'' ha.1 hb.1).trans_le (by norm_num)
      have hlow := ha.2
      have hhigh := hb.2
      refine (roundWithAccuracy_atMost hproduct (sign * sign') (exponent + exponent') .exact).mono ?_
      omega
    | infinity sign => cases hb
    | notANumber => cases hb
  | infinity sign => cases ha
  | notANumber => cases ha

/-- A whole number of at most 64 bits, rounded. -/
theorem ofNat_atMost {n : Nat} (h : n < 2 ^ 64) :
    AtMost 232 (UnpackedFloat.ofNat Format.binary64 n) := by
  by_cases hzero : n = 0
  · subst hzero
    trivial
  · have hpos : compare (n : Int) 0 = .gt := by
      rw [compare_gt_iff_gt]
      omega
    unfold UnpackedFloat.ofNat UnpackedFloat.ofInt UnpackedFloat.normalize
    rw [hpos]
    simp only [UnpackedFloat.round, decreaseExponent, Int.toNat_natCast]
    generalize hshift : (0 - Format.binary64.targetExponent (totalExponent n 0)).toNat = shift
    have hsmall : shift ≤ 52 := by
      simp only [Format.targetExponent, Format.minExponent, Format.mantissaBits,
        totalExponent] at hshift
      omega
    have hshifted : n <<< shift < 2 ^ 116 := by
      rw [Nat.shiftLeft_eq]
      calc n * 2 ^ shift < 2 ^ 64 * 2 ^ shift := Nat.mul_lt_mul_of_pos_right h (by positivity)
        _ ≤ 2 ^ 64 * 2 ^ 52 := Nat.mul_le_mul_left _ (Nat.pow_le_pow_right (by omega) hsmall)
        _ = 2 ^ 116 := by norm_num
    refine (roundWithAccuracy_atMost hshifted _ _ _).mono ?_
    omega

theorem ofScientific_atMost {n : Nat} (h : n < 2 ^ 64) :
    AtMost 300 (UnpackedFloat.ofScientific Format.binary64 n 0) := by
  unfold UnpackedFloat.ofScientific
  split
  · trivial
  · rename_i hpos
    have hlow : ¬(0 : Int) > 2 ^ Format.binary64.exponentBits := by norm_num
    have hhigh : ¬(0 : Int) < -((2 ^ Format.binary64.exponentBits : Int) + n.log2) := by
      norm_num
    have hshifted : n <<< Format.binary64.mantissaBits * 10 ^ (0 : Int).toNat < 2 ^ 117 := by
      rw [Nat.shiftLeft_eq]
      simp only [Format.mantissaBits]
      norm_num
      omega
    rw [if_neg hlow, if_neg hhigh, if_pos le_rfl]
    simp only [UnpackedFloat.mul]
    refine (roundWithAccuracy_atMost hshifted _ _ _).mono ?_
    simp only [Format.mantissaBits]
    omega

theorem ofNat_packed {n : Nat} (h : n < 2 ^ 64) : Packed 600 (Float.ofNat n).toModel.unpack := by
  show Packed 600 (Float.ofScientific n false 0).toModel.unpack
  unfold Float.ofScientific
  split
  · -- few digits: the number itself, times the power of ten that is one
    have hword : n.toUInt64.toNat = n := by
      simp only [Nat.toUInt64, UInt64.toNat_ofNat']
      omega
    have hmodel : AtMost 232 (UnpackedFloat.ofUInt64 Format.binary64 n.toUInt64) := by
      unfold UnpackedFloat.ofUInt64
      rw [hword]
      exact ofNat_atMost h
    have hone : Packed (-52) (Float.exactlyRepresentablePowersOfTen[0]).toModel.unpack :=
      ⟨show (2 ^ 52 : Nat) < 2 ^ 53 by norm_num, le_refl (-52 : Int)⟩
    have hproduct := mul_atMost (unpack_pack hmodel (by omega)) hone
    exact (unpack_pack hproduct (by omega)).mono (by omega)
  · exact (unpack_pack (ofScientific_atMost h) (by omega)).mono (by omega)

theorem neg_atMost {x : UnpackedFloat} {bound : Int} (h : Packed bound x) : AtMost bound x.neg := by
  cases x with
  | zero sign => trivial
  | finite sign mantissa exponent hpos => exact h.2
  | infinity sign => cases h
  | notANumber => cases h

end Rounding

namespace Document

/-- Every whole number of 64 bits denotes a finite real. -/
theorem isFinite_realOfInt {n : Int} (hlow : Decimal.minSigned ≤ n)
    (hhigh : n ≤ (Decimal.maxUnsigned : Int)) : (realOfInt n).isFinite = true := by
  unfold Decimal.minSigned at hlow
  unfold Decimal.maxUnsigned at hhigh
  cases n with
  | ofNat n =>
    have hbits : (n : Int) ≤ 0xFFFFFFFFFFFFFFFF := hhigh
    exact (Rounding.ofNat_packed (by omega)).isFinite
  | negSucc n =>
    have hpacked := Rounding.ofNat_packed (n := n + 1) (by omega)
    exact (Rounding.unpack_pack (Rounding.neg_atMost hpacked) (by omega)).isFinite

end Document
end DevicePoll
