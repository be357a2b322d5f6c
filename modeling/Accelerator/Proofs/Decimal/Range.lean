import Accelerator.Json.Writing
import Accelerator.Proofs.Decimal.Rounding
import Accelerator.Proofs.Decimal.Shortest

/-!
# Numerals in range

A numeral of moderate size is read as a finite value although it is rounded twice on the way
(`Numeral.isSome_magnitude`).  So whatever finite float is written, its numeral is in range
(`isSome_value_numeralOf`).
-/

namespace Accelerator

open Float.Model Float.Model.UnpackedFloat

/-! ## Powers of ten -/

/-- The powers of ten up to `10 ^ 22` are tabulated, and are those that are computed. -/
theorem powerOfTen_eq (k : Nat) :
    powerOfTen k = Float.ofModel (Float.Model.ofScientific 1 (k : Int)) := by
  by_cases hk : k ≤ 22
  · have htable : ∀ i : Fin 23,
        powerOfTen i = Float.ofModel (Float.Model.ofScientific 1 (i : Nat)) := by
      decide +kernel
    exact htable ⟨k, by omega⟩
  · rw [powerOfTen, Float.ofScientific, dif_neg fun h => hk h.2]
    rfl

theorem ten_pow_lt_overflowAt {k : Nat} (hk : k ≤ 308) : (10 : ℚ) ^ k < overflowAt := by
  have hnat : 2 * 10 ^ k + 2 ^ 971 < 2 ^ 54 * 2 ^ 971 := by
    have hlast : 2 * 10 ^ 308 + 2 ^ 971 < 2 ^ 54 * 2 ^ 971 := by decide +kernel
    have := Nat.pow_le_pow_right (by decide : 0 < 10) hk
    omega
  have hrat : 2 * (10 : ℚ) ^ k + 2 ^ 971 < 2 ^ 54 * 2 ^ 971 := by exact_mod_cast hnat
  rw [overflowAt, zpow_ofNat]
  generalize (2 : ℚ) ^ 971 = top at hrat
  linarith

/-- A power of ten up to `10 ^ 308` is at most half a unit above the exact one. -/
theorem unpacked_powerOfTen {k : Nat} (hk : k ≤ 308) : ∃ m e hm,
    unpacked (powerOfTen k) = .finite .positive m e hm ∧ 2 ^ 52 ≤ m ∧
      ((10 ^ k).log2 : Int) - 52 ≤ e ∧ (m * 2 ^ e : ℚ) ≤ 10 ^ k * (1 + 1 / 2 ^ 53) := by
  have hpow : 0 < 10 ^ k := Nat.pow_pos (by decide)
  have hfloat : unpacked (powerOfTen k) = UnpackedFloat.unpack Format.binary64
      (UnpackedFloat.pack Format.binary64
        (roundWithAccuracy Format.binary64 .positive (2 ^ 53 * 10 ^ k) (-53) .exact)) := by
    have hlow : ¬(k : Int) < -(2 ^ 11 + (1 : Nat).log2) := by omega
    have hhigh : ¬(k : Int) > 2 ^ 11 := by omega
    rw [powerOfTen_eq]
    change UnpackedFloat.unpack _ (UnpackedFloat.pack _
      (UnpackedFloat.ofScientific Format.binary64 1 k)) = _
    rw [UnpackedFloat.ofScientific, dif_neg one_ne_zero, if_neg hhigh, if_neg hlow,
      if_pos (Int.natCast_nonneg k)]
    rfl
  have hvalue : ((2 ^ 53 * 10 ^ k : Nat) : ℚ) * 2 ^ (-53 : Int) = 10 ^ k := by
    rw [Nat.cast_mul, Nat.cast_pow, Nat.cast_pow, zpow_neg, zpow_ofNat]
    push_cast
    field_simp
  have hlog : 53 + (10 ^ k).log2 ≤ (2 ^ 53 * 10 ^ k).log2 := by
    rw [Nat.le_log2 (by omega), pow_add]
    exact Nat.mul_le_mul_left _ (Nat.log2_self_le hpow.ne')
  obtain ⟨r, f, hr, hround, hf, hrounds⟩ :=
    roundWithAccuracy_exact (show 2 ^ 52 ≤ 2 ^ 53 * 10 ^ k by omega)
      (show -1074 ≤ (-53 : Int) by decide) .positive
  rw [hvalue] at hrounds
  refine ⟨r, f, hr, ?_, hrounds.low, by omega, hrounds.le⟩
  rw [hfloat, hround, unpack_pack hrounds.low hrounds.high (by omega)
    (hrounds.exponent_le (ten_pow_lt_overflowAt hk))]

/-! ## Scaling -/

/-- Numbers up to this one do not overflow when they are rounded twice. -/
def safeLimit : ℚ :=
  (2 ^ 53 - 5 / 2) * 2 ^ (971 : Int)

/-- Each of the two roundings adds half a unit of the last of 53 bits at most. -/
theorem safeLimit_mul_lt : safeLimit * (1 + 1 / 2 ^ 53) ^ 2 < overflowAt := by
  have htop : (0 : ℚ) < 2 ^ (971 : Int) := by positivity
  have hfactor : ((2 : ℚ) ^ 53 - 5 / 2) * (1 + 1 / 2 ^ 53) ^ 2 < 2 ^ 53 - 1 / 2 := by norm_num
  rw [safeLimit, overflowAt, mul_right_comm]
  exact mul_lt_mul_of_pos_right hfactor htop

theorem safeLimit_lt_ten_pow {k : Nat} (hk : 308 < k) : safeLimit < 10 ^ k := by
  have hnat : 2 ^ 53 * 2 ^ 971 ≤ 10 ^ k := by
    calc 2 ^ 53 * 2 ^ 971 ≤ 10 ^ 309 := by decide +kernel
      _ ≤ 10 ^ k := Nat.pow_le_pow_right (by decide) (by omega)
  have hrat : (2 : ℚ) ^ 53 * 2 ^ 971 ≤ 10 ^ k := by exact_mod_cast hnat
  have htop : (0 : ℚ) < 2 ^ 971 := by positivity
  rw [safeLimit, zpow_ofNat]
  generalize (2 : ℚ) ^ 971 = top at hrat htop
  linarith

theorem isFinite_div_powerOfTen {x : Float} (hx : x.isFinite = true) {k : Nat} (h0 : 0 < k)
    (hk : k ≤ 308) : (x / powerOfTen k).isFinite = true := by
  obtain ⟨m, e, hm, hfloat, hlow, hexp, -⟩ := unpacked_powerOfTen hk
  have hlogm : 52 ≤ m.log2 := (Nat.le_log2 hm.ne').2 hlow
  have hlogk : 1 ≤ (10 ^ k).log2 := by
    rw [Nat.le_log2 (Nat.pow_pos (by decide)).ne']
    calc 2 ^ 1 ≤ 10 ^ 1 := by decide
      _ ≤ 10 ^ k := Nat.pow_le_pow_right (by decide) h0
  exact isFinite_div hx hfloat (by omega)

/-- Division by a power of ten does not leave the range, in one step or in several. -/
theorem isSome_scale_of_neg {x : Float} (hx : x.isFinite = true) {e : Int} (he : e < 0) :
    (scale x e).isSome = true := by
  induction x, e using scale.induct with
  | case1 x e hlow h0 =>
    rw [scale, if_pos hlow, if_pos h0]
    rfl
  | case2 x e hlow h0 ih =>
    rw [scale, if_pos hlow, if_neg h0]
    exact ih (isFinite_div_powerOfTen hx (by decide) le_rfl) (by omega)
  | case3 x e hlow hneg =>
    rw [scale, if_neg hlow, if_pos hneg, scale.finite,
      if_pos (isFinite_div_powerOfTen hx (by omega) (by omega))]
    rfl
  | case4 x e _ hneg => exact absurd he hneg
  | case5 x e _ hneg => exact absurd he hneg
  | case6 x e _ hneg => exact absurd he hneg

theorem isFinite_toFloat {w : Nat} (hw : w < 2 ^ 64) :
    (UInt64.ofNat w).toFloat.isFinite = true := by
  rcases Nat.eq_zero_or_pos w with rfl | h0
  · decide
  · obtain ⟨r, f, hr, hfloat, -⟩ := unpacked_toFloat h0 hw
    change (unpacked (UInt64.ofNat w).toFloat).isFinite = true
    rw [hfloat]
    rfl

theorem isFinite_toFloat_mul_powerOfTen {w k : Nat} (hw : w < 2 ^ 64) (hk : k ≤ 308)
    (h : (w * 10 ^ k : ℚ) ≤ safeLimit) :
    ((UInt64.ofNat w).toFloat * powerOfTen k).isFinite = true := by
  obtain ⟨n, f, hn, hten, -, hf, hnle⟩ := unpacked_powerOfTen hk
  rcases Nat.eq_zero_or_pos w with rfl | h0
  · have hzero : unpacked (UInt64.ofNat 0).toFloat = .zero .positive := rfl
    change (UnpackedFloat.unpack Format.binary64 (UnpackedFloat.pack Format.binary64
      (UnpackedFloat.mul Format.binary64 (unpacked (UInt64.ofNat 0).toFloat)
        (unpacked (powerOfTen k))))).isFinite = true
    rw [hzero, hten, UnpackedFloat.mul]
    decide
  · obtain ⟨m, e, hm, hword, hlow, he, hmle⟩ := unpacked_toFloat h0 hw
    apply isFinite_mul hword hten hlow (by omega)
    calc (m * 2 ^ e * (n * 2 ^ f) : ℚ)
        ≤ w * (1 + 1 / 2 ^ 53) * (10 ^ k * (1 + 1 / 2 ^ 53)) :=
          mul_le_mul hmle hnle (by positivity) (by positivity)
      _ = w * 10 ^ k * (1 + 1 / 2 ^ 53) ^ 2 := by ring
      _ ≤ safeLimit * (1 + 1 / 2 ^ 53) ^ 2 := mul_le_mul_of_nonneg_right h (by positivity)
      _ < overflowAt := safeLimit_mul_lt

theorem isSome_scale {w : Nat} (hw : w < 2 ^ 64) {e : Int} (h : (w * 10 ^ e : ℚ) ≤ safeLimit) :
    (scale (UInt64.ofNat w).toFloat e).isSome = true := by
  by_cases hneg : e < 0
  · exact isSome_scale_of_neg (isFinite_toFloat hw) hneg
  obtain ⟨k, rfl⟩ := Int.eq_ofNat_of_zero_le (Int.not_lt.1 hneg)
  rw [scale, if_neg (by omega), if_neg hneg]
  rw [zpow_natCast] at h
  split_ifs with hk hzero
  · rw [scale.finite, Int.toNat_natCast,
      if_pos (isFinite_toFloat_mul_powerOfTen hw (by omega) h)]
    rfl
  · rfl
  · have h0 : w ≠ 0 := by
      rintro rfl
      exact hzero (by decide)
    have h1 : (1 : ℚ) ≤ w := by exact_mod_cast Nat.pos_of_ne_zero h0
    have hlarge : (10 : ℚ) ^ k ≤ w * 10 ^ k := le_mul_of_one_le_left (by positivity) h1
    exact absurd (hlarge.trans h) (safeLimit_lt_ten_pow (by omega)).not_ge

/-! ## Numerals -/

/-- The digits that a word gathers stand for no more than all digits. -/
theorem gather_le (n : Nat) (ds : List Digit) :
    (gather n ds).1 * 10 ^ (gather n ds).2.length ≤ appendDigits n ds := by
  induction ds generalizing n with
  | nil => exact (Nat.mul_one n).le
  | cons d ds ih =>
    rw [gather]
    split_ifs
    · exact ih (n * 10 + d.val)
    · rw [appendDigits_eq]
      exact Nat.le_add_right _ _

theorem gather_lt {n : Nat} (hn : n < 2 ^ 64) (ds : List Digit) : (gather n ds).1 < 2 ^ 64 := by
  induction ds generalizing n with
  | nil => exact hn
  | cons d ds ih =>
    rw [gather]
    split_ifs with h
    · exact ih h
    · exact hn

theorem length_gather_le (n : Nat) (ds : List Digit) : (gather n ds).2.length ≤ ds.length := by
  induction ds generalizing n with
  | nil => exact le_rfl
  | cons d ds ih =>
    rw [gather]
    split_ifs
    · exact (ih (n * 10 + d.val)).trans (Nat.le_succ _)
    · exact le_rfl

namespace Numeral

variable {n : Numeral}

theorem elim_toInt_of_exponentValue? {e : Int} (h : exponentValue? n.exponent = some e) :
    n.exponent.elim 0 Exponent.toInt = e := by
  cases hx : n.exponent with
  | none =>
    rw [hx] at h
    exact Option.some_inj.1 h
  | some x =>
    simp only [hx, exponentValue?] at h
    split_ifs at h with hlt hmark
    · exact (if_pos hmark).trans (Option.some_inj.1 h)
    · exact (if_neg hmark).trans (Option.some_inj.1 h)

/-- An exponent that cannot be read is negative, if the others fit. -/
theorem not_any_mark_of_exponentValue?
    (hexp : ∀ e ∈ n.exponent, e.mark ≠ .minus → ofDigits e.digits < 2 ^ 31)
    (h : exponentValue? n.exponent = none) : ¬(n.exponent.any (·.mark ≠ .minus)) = true := by
  intro hany
  obtain ⟨x, hx, hmark⟩ := (Option.any_eq_true _ _).1 hany
  have hfits : ofDigits x.digits < 0x80000000 := hexp x hx (of_decide_eq_true hmark)
  simp only [hx, exponentValue?, if_pos hfits] at h
  cases h

/-- A numeral of moderate size is read as a finite value, unless its exponent cannot be read. -/
theorem isSome_magnitude (hwhole : ofDigits n.whole < 2 ^ 64)
    (hexp : ∀ e ∈ n.exponent, e.mark ≠ .minus → ofDigits e.digits < 2 ^ 31)
    (hsize : n.size ≤ safeLimit) : n.magnitude.isSome = true := by
  have hg : gather 0 n.whole = (ofDigits n.whole, []) := gather_eq_of_lt hwhole
  have hall : appendDigits (ofDigits n.whole) n.fraction = ofDigits (n.whole ++ n.fraction) :=
    (appendDigits_append 0 n.whole n.fraction).symm
  have hle := gather_le (ofDigits n.whole) n.fraction
  have hlt := gather_lt hwhole n.fraction
  have hlen := length_gather_le (ofDigits n.whole) n.fraction
  rw [hall] at hle
  simp only [magnitude, hg]
  generalize gather (ofDigits n.whole) n.fraction = taken at hle hlt hlen
  obtain ⟨w, untaken⟩ := taken
  simp only at hle hlt hlen
  cases hvalue : exponentValue? n.exponent with
  | none =>
    have hminus := not_any_mark_of_exponentValue? hexp hvalue
    simp only [if_neg fun h : w ≠ 0 ∧ _ => hminus h.2]
    rfl
  | some e =>
    apply isSome_scale hlt (le_trans _ hsize)
    have hpower : ([] : List Digit).length - ((n.fraction.length - untaken.length : Nat) : Int) +
        e = untaken.length + n.power := by
      rw [power, elim_toInt_of_exponentValue? hvalue]
      simp only [List.length_nil]
      omega
    simp only [hpower]
    rw [zpow_add₀ (by norm_num), zpow_natCast, ← mul_assoc, size]
    apply mul_le_mul_of_nonneg_right _ (by positivity)
    exact_mod_cast hle

end Numeral

/-! ## The numerals of floats -/

theorem ofDigits_lt (ds : List Digit) : ofDigits ds < 10 ^ ds.length := by
  induction ds with
  | nil => decide
  | cons d ds ih =>
    have hd : ofDigits [d] ≤ 9 := by
      change 0 * 10 + d.val ≤ 9
      omega
    have := Nat.mul_le_mul_right (10 ^ ds.length) hd
    rw [← List.singleton_append, ofDigits_append, List.singleton_append, List.length_cons, pow_succ]
    omega

theorem ten_pow_length_digits_le {n : Nat} (h : 0 < n) : 10 ^ (digits n).length ≤ 10 * n := by
  induction n using digits.induct with
  | case1 n hn =>
    rw [digits, dif_pos hn]
    change 10 ^ 1 ≤ 10 * n
    omega
  | case2 n hn ih =>
    have := ih (by omega)
    rw [digits, dif_neg hn, List.length_append, List.length_singleton, pow_succ]
    omega

/-- The first digit of a decimal counts a power of ten that is no more than the decimal. -/
theorem Decimal.ten_pow_le_toRat {d : Decimal} (hd : 0 < d.coefficient) :
    (10 : ℚ) ^ (d.exponent + ((digits d.coefficient).length - 1 : Int)) ≤ d.toRat := by
  have hrat : (10 : ℚ) ^ ((digits d.coefficient).length : Int) ≤ 10 * d.coefficient := by
    rw [zpow_natCast]
    exact_mod_cast ten_pow_length_digits_le hd
  have hscale : (0 : ℚ) < 10 ^ d.exponent := by positivity
  have hpow : (10 : ℚ) ^ (d.exponent + ((digits d.coefficient).length - 1 : Int)) =
      10 ^ ((digits d.coefficient).length : Int) / 10 * 10 ^ d.exponent := by
    rw [zpow_add₀ (by norm_num), zpow_sub_one₀ (by norm_num)]
    ring
  rw [hpow, toRat]
  exact mul_le_mul_of_nonneg_right (by linarith) hscale.le

namespace Layout

variable {l : Layout} (negative : Bool) {d : Decimal}

theorem length_whole_numeral_le (hl : l.plainTo ≤ 18) (d : Decimal) :
    (l.numeral negative d).whole.length ≤ 19 := by
  simp only [numeral]
  split_ifs
  · exact (by decide : 1 ≤ 19)
  · simp only [List.length_append, List.length_replicate]
    omega
  · simp only [List.length_take]
    omega
  · simp only [List.length_take]
    omega
  · simp only [List.length_take]
    omega

/-- The exponent that is written counts the places of the first digit. -/
theorem exponent_numeral_lt (hd : 0 < d.coefficient) (hsize : d.toRat ≤ safeLimit) :
    ∀ e ∈ (l.numeral negative d).exponent, e.mark ≠ .minus → ofDigits e.digits < 2 ^ 31 := by
  have hten := (Decimal.ten_pow_le_toRat hd).trans hsize
  simp only [numeral]
  split_ifs with hplain hneg hshort hexp
  · intro e he
    cases he
  · intro e he
    cases he
  · intro e he
    cases he
  · rintro _ ⟨⟩ hmark
    exact absurd rfl hmark
  · rintro _ ⟨⟩ -
    rw [ofDigits_digits]
    have hnonneg := Int.not_lt.1 hexp
    generalize d.exponent + ((digits d.coefficient).length - 1 : Int) = e at hten hnonneg ⊢
    obtain ⟨k, rfl⟩ := Int.eq_ofNat_of_zero_le hnonneg
    rw [zpow_natCast] at hten
    have hk : k ≤ 308 := Nat.le_of_not_lt fun hk => (safeLimit_lt_ten_pow hk).not_ge hten
    omega

theorem isSome_value_numeral (hl : l.plainTo ≤ 18) (hmark : l.mark ≠ .minus)
    (hd : 0 < d.coefficient) (hsize : d.toRat ≤ safeLimit) :
    (l.numeral negative d).value.isSome = true := by
  have hwhole : ofDigits (l.numeral negative d).whole < 2 ^ 64 := by
    apply (ofDigits_lt _).trans_le
    calc 10 ^ (l.numeral negative d).whole.length
        ≤ 10 ^ 19 := Nat.pow_le_pow_right (by decide) (length_whole_numeral_le negative hl d)
      _ ≤ 2 ^ 64 := by decide
  have hsize : (l.numeral negative d).size ≤ safeLimit := by rwa [size_numeral l negative d hmark]
  have hmag := Numeral.isSome_magnitude hwhole (exponent_numeral_lt negative hd ‹_›) hsize
  simp only [Numeral.value]
  split
  · split_ifs <;> rfl
  · rw [Option.isSome_map]
    exact hmag

end Layout

/-! ## Finite floats -/

/-- The reals that round to a value do not pass the limit, unless the value is one of the two
largest. -/
theorem upper_le_safeLimit {x : Dyadic} (hx : x.Canonical) (hexp : x.exponent ≤ 971)
    (h : x.exponent = 971 → x.significand ≤ 2 ^ 53 - 3) : x.upper ≤ safeLimit := by
  have htop : (0 : ℚ) < 2 ^ (971 : Int) := by positivity
  rw [Dyadic.upper, safeLimit]
  by_cases he : x.exponent = 971
  · have hsig : (x.significand : ℚ) + 3 ≤ 2 ^ 53 := by
      have := h he
      exact_mod_cast (by omega : x.significand + 3 ≤ 2 ^ 53)
    rw [he, mul_div_right_comm]
    exact mul_le_mul_of_nonneg_right (by linarith) htop.le
  · have hsig : (x.significand : ℚ) + 1 ≤ 2 ^ 53 := by exact_mod_cast hx.lt
    have hpow : (2 : ℚ) ^ x.exponent ≤ 2 ^ (971 : Int) / 2 := by
      rw [div_eq_mul_inv, ← zpow_sub_one₀ (two_ne_zero (α := ℚ))]
      exact zpow_le_zpow_right₀ (by norm_num) (by omega)
    have hle : (4 * x.significand + 2 : ℚ) * 2 ^ x.exponent ≤
        (4 * 2 ^ 53 - 2) * (2 ^ (971 : Int) / 2) :=
      mul_le_mul (by linarith) hpow (by positivity) (by norm_num)
    generalize (2 : ℚ) ^ (971 : Int) = top at htop hle ⊢
    linarith

theorem isSome_value_zero (negative : Bool) :
    (⟨negative, [0], [0], none⟩ : Numeral).value.isSome = true := by
  cases negative <;> decide +kernel

theorem isSome_value_largest : ∀ negative : Bool, ∀ i : Fin 2,
    (Json.layout.numeral negative ((Dyadic.ofBits (0x7FEFFFFFFFFFFFFE + i)).shortest
      Json.layout.tie)).value.isSome = true := by
  decide +kernel

/-- The numeral of a finite float is in range. -/
theorem isSome_value_numeralOf {x : Float} (h : x.isFinite = true) :
    (Json.layout.numeralOf x).value.isSome = true := by
  rw [isFinite_iff] at h
  by_cases h0 : bitsOf x % 2 ^ 63 = 0
  · rw [Layout.numeralOf_of_eq_zero _ h0]
    exact isSome_value_zero _
  rw [Layout.numeralOf_of_ne_zero _ h0]
  have hcan := Dyadic.canonical_ofBits h0
  by_cases hlast : 0x7FEFFFFFFFFFFFFE ≤ bitsOf x % 2 ^ 63
  · obtain ⟨i, hi⟩ : ∃ i : Fin 2, bitsOf x % 2 ^ 63 = 0x7FEFFFFFFFFFFFFE + i :=
      ⟨⟨bitsOf x % 2 ^ 63 - 0x7FEFFFFFFFFFFFFE, by omega⟩, by simp only; omega⟩
    rw [hi]
    exact isSome_value_largest _ i
  · have hle := (Dyadic.holds_shortest hcan.pos Json.layout.tie).le_upper
    refine Layout.isSome_value_numeral _ (by decide) (by decide)
      (Dyadic.coefficient_shortest_pos hcan.pos _) (hle.trans (upper_le_safeLimit hcan ?_ ?_))
    · exact exponent_ofBits_le (by omega)
    · by_cases hzero : bitsOf x % 2 ^ 63 / 2 ^ 52 % 2 ^ 11 = 0
      · rw [ofBits_of_eq_zero hzero]
        exact nofun
      · rw [ofBits_of_ne_zero hzero]
        simp only
        omega

end Accelerator
