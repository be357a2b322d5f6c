import Accelerator.Decimal.Layout
import Mathlib

/-!
# The bits of a float

A float is known by its 64 bits: the sign, eleven bits of exponent and 52 bits of fraction.  A finite
float is a zero or the `Dyadic` of its lower 63 bits with its sign (`unpack_of_finite`), and these
are known from that value (`ofBits_injective`).  Equality of floats is symmetric and transitive, and
holds of a float and itself iff that is a number.
-/

namespace Accelerator

open Float.Model Float.Model.UnpackedFloat

/-- The bits of a float as a number. -/
abbrev bitsOf (x : Float) : Nat :=
  x.toBits.toNat

theorem bitsOf_lt (x : Float) : bitsOf x < 2 ^ 64 :=
  x.toBits.toBitVec.isLt

theorem eq_of_bitsOf {x y : Float} (h : bitsOf x = bitsOf y) : x = y :=
  Float.toBits_inj.1 (UInt64.toNat_inj.1 h)

/-! ## Unpacking -/

section Unpacking

variable (b : BitVec Format.binary64.numBits)

theorem toNat_unpackExponent : (unpackExponent b).toNat = b.toNat / 2 ^ 52 % 2 ^ 11 := by
  simp only [unpackExponent, BitVec.toNat_cast, BitVec.extractLsb_toNat, Nat.shiftRight_eq_div_pow]

theorem toNat_unpackMantissa : (unpackMantissa b).toNat = b.toNat % 2 ^ 52 := by
  simp [unpackMantissa, BitVec.extractLsb_toNat]

theorem toNat_unpackSign : (unpackSign b).toNat = b.toNat / 2 ^ 63 := by
  have hlt : b.toNat < 2 ^ 64 := b.isLt
  simp only [unpackSign, BitVec.toNat_cast, BitVec.extractLsb_toNat, Nat.shiftRight_eq_div_pow]
  apply Nat.mod_eq_of_lt
  change b.toNat / 2 ^ 63 < 2 ^ 1
  omega

theorem unpackSign_eq_negative_iff :
    Sign.ofBitVec (unpackSign b) = .negative ↔ b.toNat / 2 ^ 63 = 1 := by
  have hlt : b.toNat < 2 ^ 64 := b.isLt
  have hzero : unpackSign b = 0#1 ↔ b.toNat / 2 ^ 63 = 0 := by
    rw [← BitVec.toNat_inj, toNat_unpackSign]
    rfl
  rw [Sign.ofBitVec]
  split_ifs with h
  · rw [hzero] at h
    exact iff_of_false nofun (by omega)
  · rw [hzero] at h
    exact iff_of_true rfl (by omega)

theorem unpackExponent_eq_iff (e : BitVec 11) :
    unpackExponent b = e ↔ b.toNat / 2 ^ 52 % 2 ^ 11 = e.toNat := by
  rw [← BitVec.toNat_inj, toNat_unpackExponent]

theorem unpackMantissa_eq_zero_iff : unpackMantissa b = 0#_ ↔ b.toNat % 2 ^ 52 = 0 := by
  rw [← BitVec.toNat_inj, toNat_unpackMantissa]
  rfl

theorem toNat_implicit_append :
    (1#1 ++ unpackMantissa b).toNat = 2 ^ 52 + b.toNat % 2 ^ 52 := by
  rw [BitVec.toNat_append, ← Nat.shiftLeft_add_eq_or_of_lt (unpackMantissa b).isLt,
    toNat_unpackMantissa]
  rfl

/-- Bits are those of a finite float iff not all bits of the exponent are set. -/
theorem isFinite_unpack_iff : (UnpackedFloat.unpack Format.binary64 b).isFinite = true ↔
    b.toNat / 2 ^ 52 % 2 ^ 11 ≠ 2047 := by
  have hall := unpackExponent_eq_iff b (-1#11)
  rw [UnpackedFloat.unpack]
  by_cases he : unpackExponent b = -1#11
  · apply iff_of_false _ (not_not.2 (hall.1 he))
    rw [if_pos he]
    split_ifs <;> exact Bool.false_ne_true
  · apply iff_of_true _ (mt hall.2 he)
    rw [if_neg he]
    split_ifs <;> rfl

theorem ofBits_of_eq_zero {n : Nat} (h : n / 2 ^ 52 % 2 ^ 11 = 0) :
    Dyadic.ofBits n = ⟨n % 2 ^ 52, -1074, false⟩ :=
  if_pos h

theorem ofBits_of_ne_zero {n : Nat} (h : n / 2 ^ 52 % 2 ^ 11 ≠ 0) :
    Dyadic.ofBits n = ⟨2 ^ 52 + n % 2 ^ 52, (n / 2 ^ 52 % 2 ^ 11 : Nat) - 1075,
      n % 2 ^ 52 = 0 && n / 2 ^ 52 % 2 ^ 11 > 1⟩ :=
  if_neg h

theorem significand_ofBits_lt (n : Nat) : (Dyadic.ofBits n).significand < 2 ^ 53 := by
  by_cases h : n / 2 ^ 52 % 2 ^ 11 = 0
  · rw [ofBits_of_eq_zero h]
    show n % 2 ^ 52 < 2 ^ 53
    omega
  · rw [ofBits_of_ne_zero h]
    show 2 ^ 52 + n % 2 ^ 52 < 2 ^ 53
    omega

theorem exponent_ofBits_le {n : Nat} (h : n / 2 ^ 52 % 2 ^ 11 ≠ 2047) :
    (Dyadic.ofBits n).exponent ≤ 971 := by
  by_cases h0 : n / 2 ^ 52 % 2 ^ 11 = 0
  · rw [ofBits_of_eq_zero h0]
    show (-1074 : Int) ≤ 971
    decide
  · rw [ofBits_of_ne_zero h0]
    show ((n / 2 ^ 52 % 2 ^ 11 : Nat) : Int) - 1075 ≤ 971
    omega

/-- The bits of a finite float stand for a zero, or for the value of the lower 63 bits. -/
theorem unpack_of_finite (h : b.toNat / 2 ^ 52 % 2 ^ 11 ≠ 2047) :
    (b.toNat % 2 ^ 63 = 0 ∧
      UnpackedFloat.unpack Format.binary64 b = .zero (Sign.ofBitVec (unpackSign b))) ∨
    (b.toNat % 2 ^ 63 ≠ 0 ∧ ∃ hpos, UnpackedFloat.unpack Format.binary64 b =
      .finite (Sign.ofBitVec (unpackSign b)) (Dyadic.ofBits (b.toNat % 2 ^ 63)).significand
        (Dyadic.ofBits (b.toNat % 2 ^ 63)).exponent hpos) := by
  have hlt : b.toNat < 2 ^ 64 := b.isLt
  have hm := toNat_unpackMantissa b
  have hx := toNat_unpackExponent b
  have he : unpackExponent b ≠ -1#11 := mt (unpackExponent_eq_iff b (-1#11)).1 h
  have hfrac : b.toNat % 2 ^ 63 % 2 ^ 52 = b.toNat % 2 ^ 52 := by omega
  have hexp : b.toNat % 2 ^ 63 / 2 ^ 52 % 2 ^ 11 = b.toNat / 2 ^ 52 % 2 ^ 11 := by omega
  rw [UnpackedFloat.unpack]
  simp only [if_neg he]
  by_cases h0 : unpackExponent b = 0#11
  · have h0' : b.toNat / 2 ^ 52 % 2 ^ 11 = 0 := (unpackExponent_eq_iff b (0#11)).1 h0
    rw [if_pos h0, ofBits_of_eq_zero (hexp.trans h0'), hfrac]
    by_cases h1 : unpackMantissa b = 0#_
    · have h1' := (unpackMantissa_eq_zero_iff b).1 h1
      rw [dif_pos h1]
      exact .inl ⟨by omega, rfl⟩
    · have h1' := mt (unpackMantissa_eq_zero_iff b).2 h1
      rw [dif_neg h1]
      refine .inr ⟨by omega, Nat.pos_of_ne_zero h1', ?_⟩
      simp only [hm, hx, h0']
      rfl
  · have h0' : b.toNat / 2 ^ 52 % 2 ^ 11 ≠ 0 := mt (unpackExponent_eq_iff b (0#11)).2 h0
    rw [if_neg h0, ofBits_of_ne_zero (hexp.trans_ne h0'), hfrac, hexp]
    refine .inr ⟨by omega, Nat.add_pos_left (by decide) _, ?_⟩
    rw [UnpackedFloat.finite.injEq, hx]
    exact ⟨rfl, toNat_implicit_append b, rfl⟩

end Unpacking

/-! ## Equality -/

instance partialEquiv_float : PartialEquivBEq Float where
  symm {x y} h := by
    rw [Float.beq_iff_ne_nan_and_eq] at h ⊢
    obtain ⟨hx, hy, rfl | ⟨hx0, hy0⟩ | ⟨hx0, hy0⟩⟩ := h
    · exact ⟨hx, hx, .inl rfl⟩
    · exact ⟨hy, hx, .inr (.inr ⟨hy0, hx0⟩)⟩
    · exact ⟨hy, hx, .inr (.inl ⟨hy0, hx0⟩)⟩
  trans {x y z} hxy hyz := by
    rw [Float.beq_iff_ne_nan_and_eq] at hxy hyz ⊢
    obtain ⟨hx, -, hxy⟩ := hxy
    obtain ⟨-, hz, hyz⟩ := hyz
    -- The middle float is one of the others, or all three are zeros.
    refine ⟨hx, hz, ?_⟩
    grind

theorem beq_self_iff_isNaN (x : Float) : (x == x) = true ↔ x.isNaN = false := by
  rw [Float.beq_self_iff, Float.isNaN_eq_decide_eq_nan, decide_eq_false_iff_not]

/-! ## Finite floats -/

theorem isFinite_iff (x : Float) : x.isFinite = true ↔ bitsOf x / 2 ^ 52 % 2 ^ 11 ≠ 2047 :=
  isFinite_unpack_iff x.toBits.toBitVec

theorem isNaN_of_isFinite {x : Float} (h : x.isFinite = true) : x.isNaN = false := by
  rw [Float.isNaN_eq_decide_eq_nan, decide_eq_false_iff_not]
  rintro rfl
  revert h
  decide

/-- The lower 63 bits are known from the value that they stand for. -/
theorem ofBits_injective {m n : Nat} (hm : m < 2 ^ 63) (hn : n < 2 ^ 63)
    (hsig : (Dyadic.ofBits m).significand = (Dyadic.ofBits n).significand)
    (hexp : (Dyadic.ofBits m).exponent = (Dyadic.ofBits n).exponent) : m = n := by
  by_cases h : m / 2 ^ 52 % 2 ^ 11 = 0 <;> by_cases k : n / 2 ^ 52 % 2 ^ 11 = 0 <;>
    simp only [ofBits_of_eq_zero, ofBits_of_ne_zero, h, k, ne_eq, not_false_eq_true]
      at hsig hexp <;>
    omega

/-- Apart from the negative zero, finite floats are equal iff they are the same. -/
theorem beq_iff_eq_of_isFinite {x y : Float} (hx : x.isFinite = true) (hy : y.isFinite = true)
    (hx0 : x ≠ -0.0) (hy0 : y ≠ -0.0) : (x == y) = true ↔ x = y := by
  have hnan {z : Float} (hz : z.isFinite = true) : z ≠ Float.nan := by
    rintro rfl
    revert hz
    decide
  have hzero : (-0 : Float) = -0.0 := by decide
  rw [Float.beq_iff_ne_nan_and_eq, and_iff_right (hnan hx), and_iff_right (hnan hy), hzero]
  constructor
  · rintro (h | ⟨-, h⟩ | ⟨h, -⟩)
    · exact h
    · exact absurd h hy0
    · exact absurd h hx0
  · exact .inl

end Accelerator
