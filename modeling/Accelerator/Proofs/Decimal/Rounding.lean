import Accelerator.Proofs.Decimal.Floats

/-!
# Rounding of products and quotients

Rounding shifts a mantissa to the right and keeps two bits of what it drops (`Keeps`), so that the
rounded mantissa is at most half a unit above the exact one (`Keeps.rounded_le`).  A rounded value
overflows by its exponent alone (`isFinite_pack`).  A number that is not subnormal is rounded to a
full mantissa (`RoundsTo`, `round_exact`).
-/

namespace Accelerator

open Float.Model Float.Model.UnpackedFloat

/-! ## The bits that are dropped -/

/-- An extended mantissa keeps the whole part of a number, and whether the rest is a half or more. -/
structure Keeps (em : ExtendedMantissa) (q : ℚ) : Prop where
  le : em.mantissa ≤ q
  lt : q < em.mantissa + 1
  roundBit_iff : em.roundBit = true ↔ (em.mantissa : ℚ) + 1 / 2 ≤ q

variable {em : ExtendedMantissa} {q : ℚ}

theorem keeps_exact (m : Nat) : Keeps (.ofMantissaAndAccuracy m .exact) m := by
  refine ⟨le_rfl, lt_add_one _, iff_of_false Bool.false_ne_true ?_⟩
  show ¬(m : ℚ) + 1 / 2 ≤ m
  linarith

theorem Keeps.shiftRightOne (h : Keeps em q) : Keeps em.shiftRightOne (q / 2) := by
  obtain ⟨m, round, sticky⟩ := em
  obtain ⟨hle, hlt, -⟩ := h
  simp only at hle hlt
  have hdiv : (m : ℚ) = 2 * (m / 2 : Nat) + (m % 2 : Nat) := by
    exact_mod_cast (Nat.div_add_mod m 2).symm
  refine ⟨?_, ?_, ?_⟩
  · show ((m / 2 : Nat) : ℚ) ≤ q / 2
    have : (0 : ℚ) ≤ (m % 2 : Nat) := Nat.cast_nonneg _
    linarith
  · show q / 2 < (m / 2 : Nat) + 1
    have : ((m % 2 : Nat) : ℚ) ≤ 1 := by exact_mod_cast (by omega : m % 2 ≤ 1)
    linarith
  · show (m % 2 != 0) = true ↔ ((m / 2 : Nat) : ℚ) + 1 / 2 ≤ q / 2
    rcases Nat.mod_two_eq_zero_or_one m with hm | hm
    · rw [hm, Nat.cast_zero] at hdiv
      rw [hm]
      exact iff_of_false Bool.false_ne_true (by linarith)
    · rw [hm, Nat.cast_one] at hdiv
      rw [hm]
      exact iff_of_true rfl (by linarith)

theorem Keeps.shiftRight (h : Keeps em q) (n : Nat) : Keeps (em >>> n) (q / 2 ^ n) := by
  induction n with
  | zero =>
    rw [pow_zero, div_one]
    exact h
  | succ n ih =>
    rw [pow_succ, ← div_div]
    exact ih.shiftRightOne

theorem mantissa_shiftRight (em : ExtendedMantissa) (n : Nat) :
    (em >>> n).mantissa = em.mantissa / 2 ^ n := by
  induction n with
  | zero => exact (Nat.div_one _).symm
  | succ n ih =>
    change (em >>> n).mantissa / 2 = _
    rw [ih, Nat.div_div_eq_div_mul, Nat.pow_succ]

theorem mantissa_le_rounded (em : ExtendedMantissa) : em.mantissa ≤ em.roundedMantissa := by
  obtain ⟨m, _ | _, _ | _⟩ := em
  · exact le_rfl
  · exact le_rfl
  · exact Nat.le_add_right _ _
  · exact Nat.le_add_right _ _

theorem rounded_le_succ (em : ExtendedMantissa) : em.roundedMantissa ≤ em.mantissa + 1 := by
  obtain ⟨m, _ | _, _ | _⟩ := em
  · exact Nat.le_add_right _ _
  · exact Nat.le_add_right _ _
  · exact Nat.add_le_add_left (by omega : m % 2 ≤ 1) m
  · exact le_rfl

/-- Rounding adds half a unit at most. -/
theorem Keeps.rounded_le (h : Keeps em q) : (em.roundedMantissa : ℚ) ≤ q + 1 / 2 := by
  by_cases hround : em.roundBit = true
  · have hnat : (em.roundedMantissa : ℚ) ≤ em.mantissa + 1 := by
      exact_mod_cast rounded_le_succ em
    linarith [h.roundBit_iff.1 hround]
  · have hdown : em.roundedMantissa = em.mantissa := by
      obtain ⟨m, _ | _, _ | _⟩ := em
      · rfl
      · rfl
      · exact absurd rfl hround
      · exact absurd rfl hround
    rw [hdown]
    linarith [h.le]

/-! ## The rounded value -/

/-- The exponent that a mantissa is rounded to. -/
def unitOf (m : Nat) (e : Int) : Int :=
  max e (max (m.log2 + e - 52) (-1074))

/-- A mantissa that is shifted to that exponent. -/
def shifted (m : Nat) (e : Int) (accuracy : Accuracy) : ExtendedMantissa :=
  ExtendedMantissa.ofMantissaAndAccuracy m accuracy >>> (unitOf m e - e).toNat

/-- A value from its rounded mantissa, which is halved if it became too long. -/
def carried (s : Sign) (r : Nat) (t : Int) : UnpackedFloat :=
  if r = 2 ^ 53 then .finite s (2 ^ 52) (t + 1) (by decide)
  else if h : r = 0 then .zero s
  else .finite s r t (Nat.pos_of_ne_zero h)

theorem log2_le_of_lt {m : Nat} (h : m < 2 ^ 53) : m.log2 ≤ 52 := by
  rcases Nat.eq_zero_or_pos m with h0 | h0
  · rw [h0, Nat.log2_zero]
    decide
  · exact Nat.le_of_lt_succ ((Nat.log2_lt h0.ne').2 h)

theorem targetExponent_eq (m : Nat) (e : Int) :
    Format.binary64.targetExponent (totalExponent m e) = max (m.log2 + e - 52) (-1074) := by
  change max ((m.log2 : Int) + 1 + e - 53) (-1074) = _
  congr 1
  omega

theorem shiftToTargetExponent_eq (m : Nat) (e : Int) (accuracy : Accuracy) :
    shiftToTargetExponent Format.binary64 m e accuracy = (shifted m e accuracy, unitOf m e) := by
  have hshift : (max ((m.log2 : Int) + e - 52) (-1074) - e).toNat = (unitOf m e - e).toNat := by
    unfold unitOf
    omega
  have hexp : e + ((unitOf m e - e).toNat : Int) = unitOf m e := by
    unfold unitOf
    omega
  rw [shiftToTargetExponent, targetExponent_eq, shiftToExponent]
  simp only [hshift, hexp]
  rfl

theorem mantissa_shifted (m : Nat) (e : Int) (accuracy : Accuracy) :
    (shifted m e accuracy).mantissa = m / 2 ^ (unitOf m e - e).toNat := by
  rw [shifted, mantissa_shiftRight]
  cases accuracy with
  | exact => rfl
  | inexact o => cases o <;> rfl

/-- Rounding leaves a mantissa of 53 bits, or the next power of two. -/
theorem rounded_shifted_le (m : Nat) (e : Int) (accuracy : Accuracy) :
    (shifted m e accuracy).roundedMantissa ≤ 2 ^ 53 := by
  apply (rounded_le_succ _).trans
  rw [mantissa_shifted, Nat.succ_le_iff, Nat.div_lt_iff_lt_mul (Nat.two_pow_pos _), ← Nat.pow_add]
  apply Nat.lt_log2_self.trans_le
  apply Nat.pow_le_pow_right (by decide)
  unfold unitOf
  omega

theorem roundWithAccuracy_eq (s : Sign) (m : Nat) (e : Int) (accuracy : Accuracy) :
    roundWithAccuracy Format.binary64 s m e accuracy =
      carried s (shifted m e accuracy).roundedMantissa (unitOf m e) := by
  have hle := rounded_shifted_le m e accuracy
  have hmin : -1074 ≤ unitOf m e := (le_max_right _ _).trans (le_max_right _ _)
  rw [roundWithAccuracy, shiftToTargetExponent_eq]
  simp only [shiftToTargetExponent_eq]
  generalize (shifted m e accuracy).roundedMantissa = r at hle
  generalize unitOf m e = t at hmin
  rw [carried]
  by_cases hr : r = 2 ^ 53
  · have hunit : unitOf r t = t + 1 := by
      rw [hr, unitOf, Nat.log2_two_pow]
      omega
    have hmant : (shifted r t .exact).mantissa = 2 ^ 52 := by
      rw [mantissa_shifted, hunit, hr, show (t + 1 - t).toNat = 1 by omega]
      rfl
    rw [if_pos hr]
    simp only [hunit, hmant]
    rfl
  · have hlog := log2_le_of_lt (lt_of_le_of_ne hle hr)
    have hunit : unitOf r t = t := by
      unfold unitOf
      omega
    have hmant : (shifted r t .exact).mantissa = r := by
      rw [mantissa_shifted, hunit, Int.sub_self]
      exact Nat.div_one r
    rw [if_neg hr]
    simp only [hunit, hmant]

/-! ## Packing -/

section Packing

variable {s : Sign} {m : Nat} {e : Int} {hm : 0 < m}

/-- The bits of a value without overflow. -/
theorem pack_of_le (he : e ≤ 971) : UnpackedFloat.pack Format.binary64 (.finite s m e hm) =
    packComponents Format.binary64 s
      (if m.log2 = 52 then BitVec.ofNat 11 (e + 1075).toNat else 0#11) (BitVec.ofNat 52 m) := by
  have hbias : (e + Format.binary64.exponentBias + (52 : Nat)).toNat = (e + 1075).toNat := by
    change (e + 1023 + 52).toNat = _
    omega
  have hfits : ¬2 ^ 11 ≤ (e + 1075).toNat + 1 := by omega
  have hbits : m.log2 + 1 = Format.binary64.mantissaBits ↔ m.log2 = 52 := Nat.succ_inj
  rw [UnpackedFloat.pack]
  simp only [hbias, if_neg hfits, hbits]
  split_ifs <;> rfl

theorem isFinite_pack (he : e ≤ 971) : (UnpackedFloat.unpack Format.binary64
    (UnpackedFloat.pack Format.binary64 (.finite s m e hm))).isFinite = true := by
  rw [isFinite_unpack_iff, ← toNat_unpackExponent, pack_of_le he, unpackExponent_packComponents]
  split_ifs
  · show (e + 1075).toNat % 2 ^ 11 ≠ 2047
    omega
  · decide

theorem isFinite_pack_carried {r : Nat} {t : Int} (ht : t ≤ 970) : (UnpackedFloat.unpack
    Format.binary64 (UnpackedFloat.pack Format.binary64 (carried s r t))).isFinite = true := by
  unfold carried
  split_ifs
  · exact isFinite_pack (by omega)
  · cases s <;> decide
  · exact isFinite_pack (by omega)

/-- Packing loses nothing of a value with a full mantissa. -/
theorem unpack_pack (hlow : 2 ^ 52 ≤ m) (hhigh : m < 2 ^ 53) (hmin : -1074 ≤ e) (he : e ≤ 971) :
    UnpackedFloat.unpack Format.binary64
      (UnpackedFloat.pack Format.binary64 (.finite s m e hm)) = .finite s m e hm := by
  have hlog : m.log2 = 52 := (Nat.log2_eq_iff hm.ne').2 ⟨hlow, hhigh⟩
  have hexp : (BitVec.ofNat 11 (e + 1075).toNat).toNat = (e + 1075).toNat := by
    rw [BitVec.toNat_ofNat]
    omega
  have hall : BitVec.ofNat 11 (e + 1075).toNat ≠ -1#11 := by
    rw [ne_eq, ← BitVec.toNat_inj, hexp]
    change ¬(e + 1075).toNat = 2047
    omega
  have hzero : BitVec.ofNat 11 (e + 1075).toNat ≠ 0#11 := by
    rw [ne_eq, ← BitVec.toNat_inj, hexp]
    change ¬(e + 1075).toNat = 0
    omega
  have hmant : (1#1 ++ BitVec.ofNat 52 m).toNat = m := by
    rw [BitVec.toNat_append, ← Nat.shiftLeft_add_eq_or_of_lt (BitVec.ofNat 52 m).isLt,
      BitVec.toNat_ofNat]
    change 2 ^ 52 + m % 2 ^ 52 = m
    omega
  rw [pack_of_le he, if_pos hlog, UnpackedFloat.unpack]
  simp only [unpackExponent_packComponents, unpackMantissa_packComponents,
    unpackSign_packComponents, Sign.ofBitVec_toBitVec]
  rw [if_neg hall, if_neg hzero, UnpackedFloat.finite.injEq]
  refine ⟨rfl, hmant, ?_⟩
  rw [hexp]
  change ((e + 1075).toNat : Int) - (1023 + 52) = e
  omega

end Packing

/-! ## Rounding to a full mantissa -/

/-- Positive numbers below this one are rounded to finite values. -/
def overflowAt : ℚ :=
  (2 ^ 53 - 1 / 2) * 2 ^ (971 : Int)

/-- A full mantissa and an exponent that a positive number is rounded to, up by half a unit at most
and down by less than a unit, with an exponent in range unless the number is too large. -/
structure RoundsTo (q : ℚ) (r : Nat) (f : Int) : Prop where
  low : 2 ^ 52 ≤ r
  high : r < 2 ^ 53
  le : (r * 2 ^ f : ℚ) ≤ q * (1 + 1 / 2 ^ 53)
  lt : q < (r + 1) * 2 ^ f
  exponent_le : q < overflowAt → f ≤ 971

theorem unit_le_of_lt_overflowAt {q : ℚ} {t : Int} (hunit : 2 ^ 52 * 2 ^ t ≤ q)
    (h : q < overflowAt) : t ≤ 971 := by
  have hnext : (2 : ℚ) ^ (972 : Int) = 2 * 2 ^ (971 : Int) := zpow_one_add₀ two_ne_zero 971
  have htop : (0 : ℚ) < 2 ^ (971 : Int) := by positivity
  have hlt : (2 : ℚ) ^ t < 2 ^ (972 : Int) := by
    unfold overflowAt at h
    rw [hnext]
    generalize (2 : ℚ) ^ (971 : Int) = top at h htop
    linarith
  exact Int.le_of_lt_add_one ((zpow_lt_zpow_iff_right₀ (by norm_num : (1 : ℚ) < 2)).1 hlt)

/-- A mantissa of 53 bits stays full, also when it is carried. -/
theorem carried_eq (s : Sign) {q : ℚ} {r : Nat} {t : Int} (hunit : 2 ^ 52 * 2 ^ t ≤ q)
    (hlow : 2 ^ 52 ≤ r) (hhigh : r ≤ 2 ^ 53) (hle : (r * 2 ^ t : ℚ) ≤ q + 2 ^ t / 2)
    (hlt : q < (r + 1) * 2 ^ t) :
    ∃ r' f hr, carried s r t = .finite s r' f hr ∧ t ≤ f ∧ RoundsTo q r' f := by
  have hsmall : (r * 2 ^ t : ℚ) ≤ q * (1 + 1 / 2 ^ 53) := by linarith
  rw [carried]
  by_cases hr : r = 2 ^ 53
  · subst hr
    rw [if_pos rfl]
    refine ⟨_, _, _, rfl, by omega, le_rfl, by decide, ?_, ?_, ?_⟩
    · rw [zpow_add_one₀ two_ne_zero]
      push_cast at hsmall ⊢
      linarith
    · rw [zpow_add_one₀ two_ne_zero]
      push_cast at hlt ⊢
      linarith
    · -- the half unit that was added is missing from the bound
      intro h
      by_contra hgt
      have htop : t = 971 := by
        have := unit_le_of_lt_overflowAt hunit h
        omega
      unfold overflowAt at h
      rw [htop, Nat.cast_pow, Nat.cast_ofNat] at hle
      generalize (2 : ℚ) ^ (971 : Int) = top at h hle
      linarith
  · rw [if_neg hr, dif_neg (by omega)]
    exact ⟨_, _, _, rfl, le_rfl, hlow, lt_of_le_of_ne hhigh hr, hsmall, hlt,
      unit_le_of_lt_overflowAt hunit⟩

theorem two_pow_toNat_mul {e f : Int} (h : f ≤ e) : (2 : ℚ) ^ (e - f).toNat * 2 ^ f = 2 ^ e := by
  rw [← zpow_natCast, ← zpow_add₀ two_ne_zero]
  congr 1
  omega

theorem keeps_shifted (m : Nat) (e : Int) :
    Keeps (shifted m e .exact) (m / 2 ^ (unitOf m e - e).toNat) :=
  (keeps_exact m).shiftRight _

/-- What a mantissa is shifted to counts the units of its exponent. -/
theorem div_mul_unit (m : Nat) (e : Int) :
    (m / 2 ^ (unitOf m e - e).toNat : ℚ) * 2 ^ unitOf m e = m * 2 ^ e := by
  have hunit : (2 : ℚ) ^ (unitOf m e - e).toNat * 2 ^ e = 2 ^ unitOf m e :=
    two_pow_toNat_mul (le_max_left _ _)
  rw [← hunit, ← mul_assoc, div_mul_cancel₀ _ (by positivity)]

theorem rounded_mul_le (m : Nat) (e : Int) :
    ((shifted m e .exact).roundedMantissa * 2 ^ unitOf m e : ℚ) ≤
      m * 2 ^ e + 2 ^ unitOf m e / 2 := by
  have hunit : (0 : ℚ) ≤ 2 ^ unitOf m e := by positivity
  have hle := mul_le_mul_of_nonneg_right (keeps_shifted m e).rounded_le hunit
  rw [add_mul, div_mul_unit] at hle
  linarith

theorem lt_rounded_succ_mul (m : Nat) (e : Int) :
    (m * 2 ^ e : ℚ) < ((shifted m e .exact).roundedMantissa + 1) * 2 ^ unitOf m e := by
  have hle : ((shifted m e .exact).mantissa : ℚ) ≤ (shifted m e .exact).roundedMantissa := by
    exact_mod_cast mantissa_le_rounded _
  rw [← div_mul_unit]
  exact mul_lt_mul_of_pos_right ((keeps_shifted m e).lt.trans_le (by linarith)) (by positivity)

section Full

variable {m : Nat} {e : Int} (hm : 2 ^ 52 ≤ m) (he : -1074 ≤ e)

include hm he

theorem unitOf_of_le : unitOf m e = m.log2 + e - 52 := by
  have hlog : 52 ≤ m.log2 := (Nat.le_log2 (by omega)).2 hm
  unfold unitOf
  omega

/-- A mantissa that is long enough is shifted to 53 bits. -/
theorem two_pow_le_mantissa_shifted (accuracy : Accuracy) :
    2 ^ 52 ≤ (shifted m e accuracy).mantissa := by
  have hlog : 52 ≤ m.log2 := (Nat.le_log2 (by omega)).2 hm
  have hbits : 52 + (unitOf m e - e).toNat = m.log2 := by
    have := unitOf_of_le hm he
    omega
  rw [mantissa_shifted, Nat.le_div_iff_mul_le (Nat.two_pow_pos _), ← Nat.pow_add, hbits]
  exact Nat.log2_self_le (by omega)

theorem two_pow_mul_unit_le : (2 ^ 52 * 2 ^ unitOf m e : ℚ) ≤ m * 2 ^ e := by
  have hfull : (2 ^ 52 : ℚ) ≤ (shifted m e .exact).mantissa := by
    exact_mod_cast two_pow_le_mantissa_shifted hm he .exact
  rw [← div_mul_unit]
  exact mul_le_mul_of_nonneg_right (hfull.trans (keeps_shifted m e).le) (by positivity)

/-- An exact mantissa that is long enough is rounded to a full one. -/
theorem roundWithAccuracy_exact (s : Sign) : ∃ r f hr,
    roundWithAccuracy Format.binary64 s m e .exact = .finite s r f hr ∧ m.log2 + e - 52 ≤ f ∧
      RoundsTo (m * 2 ^ e) r f := by
  have hlow := (two_pow_le_mantissa_shifted hm he .exact).trans (mantissa_le_rounded _)
  rw [roundWithAccuracy_eq, ← unitOf_of_le hm he]
  exact carried_eq s (two_pow_mul_unit_le hm he) hlow (rounded_shifted_le m e .exact)
    (rounded_mul_le m e) (lt_rounded_succ_mul m e)

end Full

theorem log2_mul_two_pow {m : Nat} (h : 0 < m) (j : Nat) : (m * 2 ^ j).log2 = m.log2 + j := by
  have hpos : m * 2 ^ j ≠ 0 := (Nat.mul_pos h (Nat.two_pow_pos j)).ne'
  rw [Nat.log2_eq_iff hpos, pow_add, Nat.add_right_comm, pow_add]
  exact ⟨Nat.mul_le_mul_right _ (Nat.log2_self_le h.ne'),
    Nat.mul_lt_mul_of_pos_right Nat.lt_log2_self (Nat.two_pow_pos j)⟩

/-- A full mantissa with zeros after it loses nothing when it is rounded. -/
theorem roundWithAccuracy_full (s : Sign) {r : Nat} (j : Nat) {e : Int} (hlow : 2 ^ 52 ≤ r)
    (hhigh : r < 2 ^ 53) (he : -1074 ≤ e) :
    roundWithAccuracy Format.binary64 s (r * 2 ^ j) e .exact =
      .finite s r (e + j) (by omega) := by
  have hlog : (r * 2 ^ j).log2 = 52 + j := by
    rw [log2_mul_two_pow (by omega), (Nat.log2_eq_iff (by omega)).2 ⟨hlow, hhigh⟩]
  have hunit : unitOf (r * 2 ^ j) e = e + j := by
    unfold unitOf
    omega
  have hshift : (unitOf (r * 2 ^ j) e - e).toNat = j := by omega
  have hmant : (shifted (r * 2 ^ j) e .exact).mantissa = r := by
    rw [mantissa_shifted, hshift, Nat.mul_div_cancel _ (Nat.two_pow_pos j)]
  have hkeeps : Keeps (shifted (r * 2 ^ j) e .exact) r := by
    have h := keeps_shifted (r * 2 ^ j) e
    rwa [hshift, Nat.cast_mul, Nat.cast_pow, Nat.cast_ofNat,
      mul_div_cancel_right₀ _ (by positivity)] at h
  have hround : (shifted (r * 2 ^ j) e .exact).roundedMantissa = r := by
    apply le_antisymm
    · have h : ((shifted (r * 2 ^ j) e .exact).roundedMantissa : ℚ) < (r + 1 : Nat) := by
        push_cast
        linarith [hkeeps.rounded_le]
      exact Nat.le_of_lt_succ (Nat.cast_lt.1 h)
    · conv_lhs => rw [← hmant]
      exact mantissa_le_rounded _
  rw [roundWithAccuracy_eq, hround, hunit, carried, if_neg (by omega), dif_neg (by omega)]

/-- How many places a mantissa is shifted to the left before it is rounded. -/
def lengthening (m : Nat) (e : Int) : Nat :=
  (e - max (m.log2 + e - 52) (-1074)).toNat

theorem round_eq (s : Sign) (m : Nat) (e : Int) :
    UnpackedFloat.round Format.binary64 s m e =
      roundWithAccuracy Format.binary64 s (m * 2 ^ lengthening m e) (e - lengthening m e)
        .exact := by
  simp only [UnpackedFloat.round, targetExponent_eq, decreaseExponent, Nat.shiftLeft_eq,
    lengthening]

/-- Whatever its length is, a mantissa is rounded to a full one if the value is not subnormal. -/
theorem round_exact (s : Sign) {m : Nat} {e : Int} (hm : 0 < m) (he : -1074 ≤ e)
    (hnormal : -1022 ≤ m.log2 + e) : ∃ r f hr,
      UnpackedFloat.round Format.binary64 s m e = .finite s r f hr ∧ m.log2 + e - 52 ≤ f ∧
        RoundsTo (m * 2 ^ e) r f := by
  have hk : 52 ≤ m.log2 + lengthening m e ∧ -1074 ≤ e - lengthening m e := by
    unfold lengthening
    omega
  rw [round_eq]
  generalize lengthening m e = k at hk
  have hvalue : ((m * 2 ^ k : Nat) : ℚ) * 2 ^ (e - k) = m * 2 ^ e := by
    rw [Nat.cast_mul, Nat.cast_pow, zpow_sub₀ two_ne_zero, zpow_natCast]
    push_cast
    field_simp
  have hlow : 2 ^ 52 ≤ m * 2 ^ k := by
    rw [← Nat.le_log2 (Nat.mul_pos hm (Nat.two_pow_pos k)).ne', log2_mul_two_pow hm]
    exact hk.1
  obtain ⟨r, f, hr, hround, hf, hrounds⟩ := roundWithAccuracy_exact hlow hk.2 s
  rw [hvalue] at hrounds
  rw [log2_mul_two_pow hm] at hf
  exact ⟨r, f, hr, hround, by omega, hrounds⟩

/-! ## Operations on floats -/

/-- The sign, the mantissa and the exponent of a float. -/
abbrev unpacked (x : Float) : UnpackedFloat :=
  x.toModel.unpack

/-- The float of a sign, a mantissa and an exponent. -/
abbrev packed (u : UnpackedFloat) : Float :=
  Float.ofModel (Float.Model.pack u)

theorem unpacked_packed {s : Sign} {m : Nat} {e : Int} {hm : 0 < m} (hlow : 2 ^ 52 ≤ m)
    (hhigh : m < 2 ^ 53) (hmin : -1074 ≤ e) (he : e ≤ 971) :
    unpacked (packed (.finite s m e hm)) = .finite s m e hm :=
  unpack_pack hlow hhigh hmin he

section Operations

variable {x y : Float} {s t : Sign} {m n : Nat} {e f : Int} {hm : 0 < m} {hn : 0 < n}

theorem isFinite_mul (hx : unpacked x = .finite s m e hm) (hy : unpacked y = .finite t n f hn)
    (hlow : 2 ^ 52 ≤ m) (hmin : -1074 ≤ e + f)
    (hlimit : (m * 2 ^ e * (n * 2 ^ f) : ℚ) < overflowAt) : (x * y).isFinite = true := by
  have hmul : (x * y).isFinite = (UnpackedFloat.unpack Format.binary64
      (UnpackedFloat.pack Format.binary64
        (UnpackedFloat.mul Format.binary64 (unpacked x) (unpacked y)))).isFinite := rfl
  have hlow : 2 ^ 52 ≤ m * n := hlow.trans (Nat.le_mul_of_pos_right m hn)
  obtain ⟨r, g, hr, hround, -, hrounds⟩ := roundWithAccuracy_exact hlow hmin (s * t)
  rw [hmul, hx, hy, UnpackedFloat.mul, hround]
  apply isFinite_pack (hrounds.exponent_le _)
  rw [Nat.cast_mul, zpow_add₀ two_ne_zero]
  linarith

theorem unpacked_of_isFinite (h : x.isFinite = true) : (∃ s, unpacked x = .zero s) ∨
    ∃ s m e hm, unpacked x = .finite s m e hm ∧ m < 2 ^ 53 ∧ e ≤ 971 := by
  have hfinite := (isFinite_iff x).1 h
  rcases unpack_of_finite _ hfinite with ⟨-, h⟩ | ⟨-, hpos, h⟩
  · exact .inl ⟨_, h⟩
  · refine .inr ⟨_, _, _, hpos, h, significand_ofBits_lt _, exponent_ofBits_le ?_⟩
    change bitsOf x % 2 ^ 63 / 2 ^ 52 % 2 ^ 11 ≠ 2047
    omega

/-- A float that is neither a zero nor infinite is the `Dyadic` of its lower 63 bits. -/
theorem ofBits_of_unpacked (h : unpacked x = .finite s m e hm) : bitsOf x % 2 ^ 63 ≠ 0 ∧
    (Dyadic.ofBits (bitsOf x % 2 ^ 63)).significand = m ∧
    (Dyadic.ofBits (bitsOf x % 2 ^ 63)).exponent = e ∧
    (bitsOf x / 2 ^ 63 = 1 ↔ s = .negative) := by
  have hfinite : x.isFinite = true := by
    change (unpacked x).isFinite = true
    rw [h]
    rfl
  rcases unpack_of_finite _ ((isFinite_iff x).1 hfinite) with ⟨-, hx⟩ | ⟨h0, hpos, hx⟩
  · cases h.symm.trans hx
  · obtain ⟨rfl, rfl, rfl⟩ := UnpackedFloat.finite.inj (hx.symm.trans h)
    exact ⟨h0, rfl, rfl, (unpackSign_eq_negative_iff _).symm⟩

/-- The exponent of a quotient before it is rounded. -/
def quotientUnit (m : Nat) (e : Int) (n : Nat) (f : Int) : Int :=
  min (e - f) (max (totalExponent m e - totalExponent n f - 53) (-1074))

theorem divCore_eq (m : Nat) (e : Int) (n : Nat) (f : Int) :
    divCore Format.binary64 m e n f =
      (m * 2 ^ (e - f - quotientUnit m e n f).toNat / n, quotientUnit m e n f,
        accuracyOfFraction (m * 2 ^ (e - f - quotientUnit m e n f).toNat % n) n) := by
  rw [← Nat.shiftLeft_eq]
  rfl

theorem unitOf_quotient_le (hm : m < 2 ^ 53) (hn : 0 < n) (he : e ≤ 971) (hf : 1 ≤ n.log2 + f) :
    unitOf (m * 2 ^ (e - f - quotientUnit m e n f).toNat / n) (quotientUnit m e n f) ≤ 970 := by
  have hlogm := log2_le_of_lt hm
  have hunit : quotientUnit m e n f ≤ e - f ∧ quotientUnit m e n f ≤ 969 := by
    unfold quotientUnit totalExponent
    omega
  generalize quotientUnit m e n f = g at hunit
  obtain ⟨k, hk⟩ : ∃ k : Nat, e - f - g = k := ⟨(e - f - g).toNat, by omega⟩
  rw [hk, Int.toNat_natCast]
  have hquot : (m * 2 ^ k / n).log2 + n.log2 ≤ 52 + k ∨ (m * 2 ^ k / n).log2 = 0 := by
    rcases Nat.eq_zero_or_pos (m * 2 ^ k / n) with h0 | h0
    · rw [h0]
      exact .inr Nat.log2_zero
    · left
      apply Nat.le_of_lt_succ
      rw [← Nat.pow_lt_pow_iff_right (by decide : 1 < 2), pow_add]
      calc 2 ^ (m * 2 ^ k / n).log2 * 2 ^ n.log2
          ≤ m * 2 ^ k / n * n :=
            Nat.mul_le_mul (Nat.log2_self_le h0.ne') (Nat.log2_self_le hn.ne')
        _ ≤ m * 2 ^ k := Nat.div_mul_le_self _ _
        _ < 2 ^ 53 * 2 ^ k := Nat.mul_lt_mul_of_pos_right hm (Nat.two_pow_pos k)
        _ = 2 ^ (52 + k + 1) := by rw [← pow_add, Nat.add_right_comm]
  unfold unitOf
  omega

/-- The quotient of a value by one that is not less than `2` does not overflow. -/
theorem isFinite_div (hx : x.isFinite = true) (hy : unpacked y = .finite t n f hn)
    (hlow : 1 ≤ n.log2 + f) : (x / y).isFinite = true := by
  have hdiv : (x / y).isFinite = (UnpackedFloat.unpack Format.binary64
      (UnpackedFloat.pack Format.binary64
        (UnpackedFloat.div Format.binary64 (unpacked x) (unpacked y)))).isFinite := rfl
  rw [hdiv, hy]
  rcases unpacked_of_isFinite hx with ⟨s, h⟩ | ⟨s, m, e, hm, h, hlt, he⟩
  · rw [h, UnpackedFloat.div]
    cases s <;> cases t <;> decide
  · rw [h, UnpackedFloat.div]
    simp only [divCore_eq, roundWithAccuracy_eq]
    exact isFinite_pack_carried (unitOf_quotient_le hlt hn he hlow)

theorem lt_overflowAt {q : ℚ} (h : q < 2 ^ 64) : q < overflowAt := by
  have htop : (2 : ℚ) ^ 64 ≤ 2 ^ (971 : Int) := by
    rw [← zpow_natCast]
    exact zpow_le_zpow_right₀ (by norm_num) (by decide)
  unfold overflowAt
  generalize (2 : ℚ) ^ (971 : Int) = top at htop
  linarith

/-- A number that is not too large is rounded to a float. -/
theorem unpacked_round (s : Sign) (hm : 0 < m) (he : -1074 ≤ e) (hnormal : -1022 ≤ m.log2 + e)
    (hlimit : (m * 2 ^ e : ℚ) < 2 ^ 64) : ∃ r f hr,
      unpacked (packed (UnpackedFloat.round Format.binary64 s m e)) = .finite s r f hr ∧
        m.log2 + e - 52 ≤ f ∧ RoundsTo (m * 2 ^ e) r f := by
  obtain ⟨r, f, hr, hround, hf, hrounds⟩ := round_exact s hm he hnormal
  refine ⟨r, f, hr, ?_, hf, hrounds⟩
  rw [hround, unpacked_packed hrounds.low hrounds.high (by omega)
    (hrounds.exponent_le (lt_overflowAt hlimit))]

theorem toFloat_eq_packed {w : Nat} (h0 : 0 < w) (hw : w < 2 ^ 64) :
    (UInt64.ofNat w).toFloat = packed (UnpackedFloat.round Format.binary64 .positive w 0) := by
  have hpos : compare (w : Int) 0 = .gt := Int.compare_eq_gt.2 (Int.natCast_pos.2 h0)
  change packed (UnpackedFloat.normalize Format.binary64 ((UInt64.ofNat w).toNat : Int) 0
    .positive) = _
  rw [UInt64.toNat_ofNat_of_lt' hw, UnpackedFloat.normalize]
  simp only [hpos, Int.toNat_natCast]

/-- A positive word becomes a float that is at most half a unit greater. -/
theorem unpacked_toFloat {w : Nat} (h0 : 0 < w) (hw : w < 2 ^ 64) : ∃ r f hr,
    unpacked (UInt64.ofNat w).toFloat = .finite .positive r f hr ∧ 2 ^ 52 ≤ r ∧ -52 ≤ f ∧
      (r * 2 ^ f : ℚ) ≤ w * (1 + 1 / 2 ^ 53) := by
  have hlimit : (w * 2 ^ (0 : Int) : ℚ) < 2 ^ 64 := by
    rw [zpow_zero, mul_one]
    exact_mod_cast hw
  obtain ⟨r, f, hr, hround, hf, hrounds⟩ :=
    unpacked_round .positive h0 (by decide) (by omega) hlimit
  rw [zpow_zero, mul_one] at hrounds
  rw [toFloat_eq_packed h0 hw]
  exact ⟨r, f, hr, hround, hrounds.low, by omega, hrounds.le⟩

end Operations

end Accelerator
