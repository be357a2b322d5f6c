import Accelerator.Edit
import Accelerator.Proofs.Decimal.Range

/-!
# Floats with one more

The sum of a float and one is exact before it is rounded (`raise_eq_packed`), and rounding takes
less than a unit off it and adds half a unit at most.  So a float whose last bit counts one or less
is changed (`raise_beq_of_exponent_nonpos`), and with it every float between `-2 ^ 53` and `2 ^ 53`
(`raise_beq_of_lt`).  A zero, an infinity and what is no number need no bound.  Where the sum is
equal to the float, it is the same float (`raise_eq_of_beq`).
-/

namespace Accelerator

open Float.Model Float.Model.UnpackedFloat

theorem beq_eq_unpacked (x y : Float) : (x == y) = (unpacked x).beq (unpacked y) :=
  rfl

theorem eq_of_beq_finite {s t : Sign} {m n : Nat} {e f : Int} {hm : 0 < m} {hn : 0 < n}
    (h : (UnpackedFloat.finite s m e hm).beq (.finite t n f hn) = true) :
    s = t ∧ m = n ∧ e = f := by
  have heq := eq_of_beq h
  cases s <;> cases t <;> simp only [UnpackedFloat.compare, Option.some_inj, reduceCtorEq] at heq
  · rw [Ordering.swap_eq_eq, Ordering.then_eq_eq, Int.compare_eq_eq, Nat.compare_eq_eq] at heq
    exact ⟨rfl, heq.2, heq.1⟩
  · rw [Ordering.then_eq_eq, Int.compare_eq_eq, Nat.compare_eq_eq] at heq
    exact ⟨rfl, heq.2, heq.1⟩

/-! ## Sums -/

theorem normalize_zero (e : Int) (s : Sign) :
    UnpackedFloat.normalize Format.binary64 0 e s = .zero s := by
  rw [UnpackedFloat.normalize, Int.compare_eq_eq.2 rfl]

/-- A sum that is not zero is rounded with its sign. -/
theorem unpacked_normalize {n : Int} {e : Int} {s : Sign} (h0 : n ≠ 0) (he : -1074 ≤ e)
    (hnormal : -1022 ≤ n.natAbs.log2 + e) (hlimit : (n.natAbs * 2 ^ e : ℚ) < 2 ^ 64) :
    ∃ r f hr, unpacked (packed (UnpackedFloat.normalize Format.binary64 n e s)) =
        .finite (if n < 0 then .negative else .positive) r f hr ∧
      RoundsTo (n.natAbs * 2 ^ e) r f := by
  have hpos := Int.natAbs_pos.2 h0
  rcases lt_or_gt_of_ne h0 with h | h
  · obtain ⟨r, f, hr, hround, -, hrounds⟩ := unpacked_round .negative hpos he hnormal hlimit
    refine ⟨r, f, hr, ?_, hrounds⟩
    rw [UnpackedFloat.normalize, Int.compare_eq_lt.2 h, if_pos h, ← hround]
    simp only [show (-n).toNat = n.natAbs by omega]
  · obtain ⟨r, f, hr, hround, -, hrounds⟩ := unpacked_round .positive hpos he hnormal hlimit
    refine ⟨r, f, hr, ?_, hrounds⟩
    rw [UnpackedFloat.normalize, Int.compare_eq_gt.2 h, if_neg (by omega), ← hround]
    simp only [show n.toNat = n.natAbs by omega]

theorem natAbs_mul_zpow (n e : Int) : (n.natAbs * 2 ^ e : ℚ) = |(n : ℚ) * 2 ^ e| := by
  have hpos : (0 : ℚ) < 2 ^ e := by positivity
  rw [abs_mul, abs_of_pos hpos, Nat.cast_natAbs, Int.cast_abs]

theorem natAbs_apply (s : Sign) (m : Nat) : (s.apply (m : Int)).natAbs = m := by
  cases s
  · exact (Int.natAbs_neg m).trans (Int.natAbs_natCast m)
  · exact Int.natAbs_natCast m

theorem cast_apply_negative (m : Nat) : (Sign.negative.apply (m : Int) : ℚ) = -m :=
  (Int.cast_neg _).trans (congrArg Neg.neg (Int.cast_natCast m))

theorem apply_mul (s : Sign) (m k : Nat) :
    s.apply ((m * k : Nat) : Int) = s.apply (m : Int) * k := by
  cases s
  · change -((m * k : Nat) : Int) = -m * k
    rw [Nat.cast_mul, neg_mul]
  · exact Nat.cast_mul m k

/-- A power of two is hardly less if a small number is added that may be negative. -/
theorem pred_le_log2_add {k : Int} {p : Nat} (hk : k.natAbs < 2 ^ 53) (hp : 54 ≤ p) :
    p - 1 ≤ (k + (2 ^ p : Nat)).natAbs.log2 := by
  have hhalf : 2 ^ p = 2 ^ (p - 1) * 2 := by
    rw [← pow_succ]
    congr 1
    omega
  have hbig : 2 ^ 53 ≤ 2 ^ (p - 1) := Nat.pow_le_pow_right (by decide) (by omega)
  rw [Nat.le_log2 (by omega), hhalf]
  omega

/-! ## One more -/

section Raise

variable {x : Float} {s : Sign} {m : Nat} {e : Int} {hm : 0 < m}

/-- The sum with one is exact before it is rounded. -/
theorem raise_eq_packed (hx : unpacked x = .finite s m e hm) (hlt : m < 2 ^ 53)
    (hmin : -1074 ≤ e) : ∃ (n u : Int),
      raise x = packed (UnpackedFloat.normalize Format.binary64 n u .positive) ∧
      (n * 2 ^ u : ℚ) = s.apply (m : Int) * 2 ^ e + 1 ∧ -1074 ≤ u ∧
      (n ≠ 0 → -1022 ≤ n.natAbs.log2 + u) := by
  have hone : unpacked 1.0 = .finite .positive (2 ^ 52) (-52) (by decide) := rfl
  obtain ⟨u, hu⟩ : ∃ u, u = min e (-52) := ⟨_, rfl⟩
  have hpow : 2 ^ 52 * 2 ^ (-52 - u).toNat = 2 ^ (-u).toNat := by
    rw [← pow_add]
    congr 1
    omega
  refine ⟨s.apply (m : Int) * (2 ^ (e - u).toNat : Nat) + (2 ^ (-u).toNat : Nat), u, ?_, ?_,
    by omega, ?_⟩
  · change packed (UnpackedFloat.add Format.binary64 (unpacked x) (unpacked 1.0)) = _
    rw [hx, hone, UnpackedFloat.add, ← apply_mul]
    simp only [decreaseExponent, Nat.shiftLeft_eq, ← hu, hpow]
    rfl
  · push_cast
    rw [add_mul, mul_assoc, two_pow_toNat_mul (show u ≤ e by omega), ← zero_sub,
      two_pow_toNat_mul (show u ≤ 0 by omega), zpow_zero]
  · intro h0
    by_cases hlow : u < -1022
    · -- Where the unit is that small, the float is nothing beside the one.
      have hlog := pred_le_log2_add (p := (-u).toNat) ((natAbs_apply s m).trans_lt hlt) (by omega)
      rw [show (e - u).toNat = 0 by omega, pow_zero, Nat.cast_one, mul_one]
      omega
    · omega

theorem mul_zpow_lt_of_nonpos (hlt : m < 2 ^ 53) (he : e ≤ 0) : (m * 2 ^ e : ℚ) < 2 ^ 53 := by
  have hunit : (2 : ℚ) ^ e ≤ 1 := zpow_le_one_of_nonpos₀ (by norm_num) he
  have hrat : (m : ℚ) < 2 ^ 53 := by exact_mod_cast hlt
  exact (mul_le_of_le_one_right (Nat.cast_nonneg m) hunit).trans_lt hrat

/-- One more is not rounded down to what it was, if the last bit counts one or less. -/
theorem not_roundsTo_add_one (he : e ≤ 0) : ¬RoundsTo (m * 2 ^ e + 1) m e := by
  intro h
  have hunit : (2 : ℚ) ^ e ≤ 1 := zpow_le_one_of_nonpos₀ (by norm_num) he
  linarith [h.lt]

/-- One less is not rounded up to what it was. -/
theorem not_roundsTo_sub_one (hlt : m < 2 ^ 53) (he : e ≤ 0) : ¬RoundsTo (m * 2 ^ e - 1) m e := by
  intro h
  linarith [h.le, mul_zpow_lt_of_nonpos hlt he]

/-- A float whose last bit counts one or less is changed. -/
theorem raise_beq_of_exponent_nonpos (hx : unpacked x = .finite s m e hm) (hlt : m < 2 ^ 53)
    (hmin : -1074 ≤ e) (he : e ≤ 0) : (raise x == x) = false := by
  obtain ⟨n, u, hraise, hexact, hu, hnormal⟩ := raise_eq_packed hx hlt hmin
  rw [hraise, beq_eq_unpacked, hx, Bool.eq_false_iff]
  by_cases h0 : n = 0
  · rw [h0, normalize_zero]
    cases s <;> exact Bool.false_ne_true
  have hlimit : (n.natAbs * 2 ^ u : ℚ) < 2 ^ 64 := by
    calc (n.natAbs * 2 ^ u : ℚ) = |(s.apply (m : Int) : ℚ) * 2 ^ e + 1| := by
          rw [natAbs_mul_zpow, hexact]
      _ ≤ |(s.apply (m : Int) : ℚ) * 2 ^ e| + |1| := abs_add_le _ _
      _ = m * 2 ^ e + 1 := by rw [← natAbs_mul_zpow, natAbs_apply, abs_one]
      _ < 2 ^ 64 := by linarith [mul_zpow_lt_of_nonpos hlt he]
  obtain ⟨r, f, hr, hround, hrounds⟩ :=
    unpacked_normalize (s := .positive) h0 hu (hnormal h0) hlimit
  rw [hround]
  intro hbeq
  obtain ⟨hsign, rfl, rfl⟩ := eq_of_beq_finite hbeq
  rw [natAbs_mul_zpow] at hrounds
  -- The sum has the sign of the float, so that one is added to its size or taken off it.
  split_ifs at hsign with hn
  · subst hsign
    have hneg : (n * 2 ^ u : ℚ) < 0 :=
      mul_neg_of_neg_of_pos (by exact_mod_cast hn) (by positivity)
    have hsum : (n * 2 ^ u : ℚ) = -(r * 2 ^ f - 1) := by
      rw [hexact, cast_apply_negative]
      ring
    rw [abs_of_neg hneg, hsum, neg_neg] at hrounds
    exact not_roundsTo_sub_one hlt he hrounds
  · subst hsign
    have hsum : (n * 2 ^ u : ℚ) = r * 2 ^ f + 1 := hexact
    rw [hsum, abs_of_nonneg (by positivity)] at hrounds
    exact not_roundsTo_add_one he hrounds

/-- The last bit of a float counts two or more only from `2 ^ 53` on. -/
theorem exponent_nonpos_of_lt (hx : unpacked x = .finite s m e hm)
    (hlow : (UnpackedFloat.finite .negative (2 ^ 52) 1 (by decide)).lt (unpacked x) = true)
    (hhigh : (unpacked x).lt (.finite .positive (2 ^ 52) 1 (by decide)) = true) : e ≤ 0 := by
  obtain ⟨hbits, rfl, rfl, -⟩ := ofBits_of_unpacked hx
  by_contra hexp
  have hfull := (Dyadic.canonical_ofBits hbits).normal (by omega)
  rw [hx] at hlow hhigh
  cases s
  · have hgt := eq_of_beq hlow
    simp only [UnpackedFloat.compare, Option.some_inj, Ordering.swap_eq_lt, Ordering.then_eq_gt,
      Int.compare_eq_gt, Int.compare_eq_eq, Nat.compare_eq_gt] at hgt
    omega
  · have hlt := eq_of_beq hhigh
    simp only [UnpackedFloat.compare, Option.some_inj, Ordering.then_eq_lt, Int.compare_eq_lt,
      Int.compare_eq_eq, Nat.compare_eq_lt] at hlt
    omega

/-- A float that is less than `2 ^ 53`, and greater than the negative of that, is changed. -/
theorem raise_beq_of_lt (hlow : -9007199254740992 < x) (hhigh : x < 9007199254740992) :
    (raise x == x) = false := by
  have hlow : (UnpackedFloat.finite .negative (2 ^ 52) 1 (by decide)).lt (unpacked x) = true :=
    of_decide_eq_true hlow
  have hhigh : (unpacked x).lt (.finite .positive (2 ^ 52) 1 (by decide)) = true :=
    of_decide_eq_true hhigh
  cases hx : unpacked x with
  | notANumber =>
    rw [hx] at hlow
    cases hlow
  | infinity s =>
    rw [hx] at hlow hhigh
    cases s
    · cases hlow
    · cases hhigh
  | zero s =>
    change (unpacked (packed (UnpackedFloat.add Format.binary64 (unpacked x)
      (unpacked 1.0)))).beq (unpacked x) = false
    rw [hx]
    cases s <;> decide
  | finite s m e hm =>
    have hexp := exponent_nonpos_of_lt hx hlow hhigh
    obtain ⟨hbits, rfl, rfl, -⟩ := ofBits_of_unpacked hx
    have hcan := Dyadic.canonical_ofBits hbits
    exact raise_beq_of_exponent_nonpos hx hcan.lt hcan.le_exponent hexp

/-- A float that is equal to one more is not changed at all: it is no zero. -/
theorem raise_eq_of_beq (h : (raise x == x) = true) : raise x = x := by
  obtain ⟨-, -, heq | ⟨-, hx⟩ | ⟨-, hx⟩⟩ := Float.beq_iff_ne_nan_and_eq.1 h
  · exact heq
  · rw [hx] at h
    exact absurd h (by decide +kernel)
  · rw [hx] at h
    exact absurd h (by decide +kernel)

end Raise

end Accelerator
