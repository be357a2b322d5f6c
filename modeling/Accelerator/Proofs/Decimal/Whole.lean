import Accelerator.Proofs.Decimal.Finite

/-!
# Whole numbers as floats

A whole number below `2 ^ 53` is a float exactly (`unpacked_realOfInt`), and no two of them are the
same (`beq_realOfInt_iff`).  Such a float is written with all its whole digits and one zero after
the point (`numeralOf_realOfInt`).  The reader gathers the zero like any other digit and divides by
ten; the division is exact, so that the float comes back as it was (`value_numeralOf_realOfInt`).
-/

namespace Accelerator

open Float.Model Float.Model.UnpackedFloat

/-! ## Conversion -/

/-- A positive number, shifted until its mantissa is full. -/
def fullMantissa (w : Nat) : Nat :=
  w * 2 ^ (52 - w.log2)

theorem le_fullMantissa {w : Nat} (h : 0 < w) : 2 ^ 52 ≤ fullMantissa w := by
  calc 2 ^ 52 ≤ 2 ^ (w.log2 + (52 - w.log2)) := Nat.pow_le_pow_right (by decide) (by omega)
    _ = 2 ^ w.log2 * 2 ^ (52 - w.log2) := pow_add ..
    _ ≤ w * 2 ^ (52 - w.log2) := Nat.mul_le_mul_right _ (Nat.log2_self_le h.ne')

theorem fullMantissa_pos {w : Nat} (h : 0 < w) : 0 < fullMantissa w :=
  (Nat.two_pow_pos 52).trans_le (le_fullMantissa h)

theorem fullMantissa_lt {w : Nat} (hw : w < 2 ^ 53) : fullMantissa w < 2 ^ 53 := by
  have hlog := log2_le_of_lt hw
  calc w * 2 ^ (52 - w.log2)
      < 2 ^ (w.log2 + 1) * 2 ^ (52 - w.log2) :=
        Nat.mul_lt_mul_of_pos_right Nat.lt_log2_self (Nat.two_pow_pos _)
    _ = 2 ^ 53 := by
        rw [← pow_add]
        congr 1
        omega

theorem toFloat_of_lt {w : Nat} (h0 : 0 < w) (hw : w < 2 ^ 53) :
    (UInt64.ofNat w).toFloat = packed (.finite .positive (fullMantissa w) (-(52 - w.log2 : Nat))
      (fullMantissa_pos h0)) := by
  have hlog := log2_le_of_lt hw
  have hplaces : lengthening w 0 = 52 - w.log2 := by
    unfold lengthening
    omega
  have hround := roundWithAccuracy_full .positive 0 (le_fullMantissa h0) (fullMantissa_lt hw)
    (show -1074 ≤ (0 - (52 - w.log2 : Nat) : Int) by omega)
  rw [pow_zero, mul_one] at hround
  rw [toFloat_eq_packed h0 (hw.trans (by decide)), round_eq, hplaces, ← fullMantissa, hround]
  simp only [zero_sub, Nat.cast_zero, add_zero]

theorem unpacked_toFloat_of_lt {w : Nat} (h0 : 0 < w) (hw : w < 2 ^ 53) :
    unpacked (UInt64.ofNat w).toFloat = .finite .positive (fullMantissa w) (-(52 - w.log2 : Nat))
      (fullMantissa_pos h0) := by
  rw [toFloat_of_lt h0 hw]
  exact unpacked_packed (le_fullMantissa h0) (fullMantissa_lt hw) (by omega) (by omega)

/-- A whole number is a float exactly. -/
theorem unpacked_realOfInt {n : Int} (h0 : n ≠ 0) (hn : n.natAbs < 2 ^ 53) :
    unpacked (realOfInt n) = .finite (if n < 0 then .negative else .positive)
      (fullMantissa n.natAbs) (-(52 - n.natAbs.log2 : Nat))
      (fullMantissa_pos (Int.natAbs_pos.2 h0)) := by
  have hpos := Int.natAbs_pos.2 h0
  rw [realOfInt]
  split_ifs
  · change unpacked (packed (unpacked (UInt64.ofNat n.natAbs).toFloat).neg) = _
    rw [unpacked_toFloat_of_lt hpos hn]
    exact unpacked_packed (le_fullMantissa hpos) (fullMantissa_lt hn) (by omega) (by omega)
  · exact unpacked_toFloat_of_lt hpos hn

theorem unpacked_realOfInt_zero : unpacked (realOfInt 0) = .zero .positive :=
  rfl

/-! ## Equality -/

theorem eq_of_realOfInt_eq {m n : Int} (hm : m.natAbs < 2 ^ 53) (hn : n.natAbs < 2 ^ 53)
    (h : realOfInt m = realOfInt n) : m = n := by
  have h := congrArg unpacked h
  by_cases hm0 : m = 0 <;> by_cases hn0 : n = 0
  · rw [hm0, hn0]
  · rw [hm0, unpacked_realOfInt_zero, unpacked_realOfInt hn0 hn] at h
    cases h
  · rw [hn0, unpacked_realOfInt_zero, unpacked_realOfInt hm0 hm] at h
    cases h
  · rw [unpacked_realOfInt hm0 hm, unpacked_realOfInt hn0 hn] at h
    obtain ⟨hsign, hmant, hexp⟩ := UnpackedFloat.finite.inj h
    have hlogm := log2_le_of_lt hm
    have hlogn := log2_le_of_lt hn
    have hlog : m.natAbs.log2 = n.natAbs.log2 := by omega
    rw [fullMantissa, fullMantissa, hlog] at hmant
    have habs := Nat.eq_of_mul_eq_mul_right (Nat.two_pow_pos _) hmant
    split_ifs at hsign <;> omega

theorem realOfInt_ne_negative_zero {n : Int} (hn : n.natAbs < 2 ^ 53) : realOfInt n ≠ -0.0 := by
  intro h
  have h := congrArg unpacked h
  by_cases h0 : n = 0
  · rw [h0] at h
    cases h
  · rw [unpacked_realOfInt h0 hn] at h
    cases h

/-- Whole numbers are equal as floats iff they are equal. -/
theorem beq_realOfInt_iff {m n : Int} (hm : m.natAbs < 2 ^ 53) (hn : n.natAbs < 2 ^ 53) :
    (realOfInt m == realOfInt n) = true ↔ m = n := by
  rw [beq_iff_eq_of_isFinite (isFinite_realOfInt m) (isFinite_realOfInt n)
    (realOfInt_ne_negative_zero hm) (realOfInt_ne_negative_zero hn)]
  constructor
  · exact eq_of_realOfInt_eq hm hn
  · rintro rfl
    rfl

/-! ## Division by ten -/

theorem unpacked_powerOfTen_one :
    unpacked (powerOfTen 1) = .finite .positive (10 * 2 ^ 49) (-49) (by decide) :=
  rfl

theorem quotientUnit_powerOfTen_one {r : Nat} {e : Int} (hlow : 2 ^ 52 ≤ r) (hhigh : r < 2 ^ 53)
    (he : -1070 ≤ e) : quotientUnit r e (10 * 2 ^ 49) (-49) = e - 4 := by
  have hten : (10 * 2 ^ 49).log2 = 52 := (Nat.log2_eq_iff (by decide)).2 (by decide)
  have hlog : r.log2 = 52 := (Nat.log2_eq_iff (by omega)).2 ⟨hlow, hhigh⟩
  unfold quotientUnit totalExponent
  rw [hten, hlog]
  omega

/-- Ten times a number has three or four bits more. -/
theorem log2_mul_ten {w : Nat} (h0 : 0 < w) :
    w.log2 + 3 ≤ (w * 10).log2 ∧ (w * 10).log2 ≤ w.log2 + 4 := by
  have h10 : w * 10 ≠ 0 := by omega
  constructor
  · rw [← log2_mul_two_pow h0, Nat.le_log2 h10]
    exact (Nat.log2_self_le (by omega)).trans (by omega)
  · rw [← log2_mul_two_pow h0, Nat.le_log2 (by omega)]
    exact (Nat.log2_self_le h10).trans (by omega)

/-- The quotient by ten is the full mantissa of the number, or twice that. -/
theorem fullMantissa_mul_ten {w j : Nat}
    (hj : 52 - (w * 10).log2 + 4 = 52 - w.log2 + j) :
    fullMantissa (w * 10) * 2 ^ 53 = 10 * 2 ^ 49 * (fullMantissa w * 2 ^ j) := by
  have hpow : 2 ^ (52 - (w * 10).log2) * 2 ^ 4 = 2 ^ (52 - w.log2) * 2 ^ j := by
    rw [← pow_add, ← pow_add, hj]
  calc w * 10 * 2 ^ (52 - (w * 10).log2) * 2 ^ 53
      = 10 * 2 ^ 49 * (w * (2 ^ (52 - (w * 10).log2) * 2 ^ 4)) := by ring
    _ = 10 * 2 ^ 49 * (w * 2 ^ (52 - w.log2) * 2 ^ j) := by rw [hpow, mul_assoc w]

/-- Ten times a number, divided by ten, is the number. -/
theorem toFloat_mul_ten_div {w : Nat} (hw : w * 10 < 2 ^ 53) :
    (UInt64.ofNat (w * 10)).toFloat / powerOfTen 1 = (UInt64.ofNat w).toFloat := by
  rcases Nat.eq_zero_or_pos w with rfl | h0
  · decide
  have h10 : 0 < w * 10 := by omega
  have hwlt : w < 2 ^ 53 := by omega
  have hlogw := log2_le_of_lt hwlt
  have hlog := log2_le_of_lt hw
  have hbits := log2_mul_ten h0
  obtain ⟨j, hj⟩ : ∃ j : Nat, 52 - (w * 10).log2 + 4 = (52 - w.log2) + j :=
    Nat.exists_eq_add_of_le (by omega)
  have hunit : quotientUnit (fullMantissa (w * 10)) (-(52 - (w * 10).log2 : Nat))
      (10 * 2 ^ 49) (-49) = -(52 - (w * 10).log2 : Nat) - 4 :=
    quotientUnit_powerOfTen_one (le_fullMantissa h10) (fullMantissa_lt hw) (by omega)
  have hshift : (-((52 - (w * 10).log2 : Nat) : Int) - -49 -
      (-((52 - (w * 10).log2 : Nat) : Int) - 4)).toNat = 53 := by omega
  have hround := roundWithAccuracy_full .positive j (le_fullMantissa h0) (fullMantissa_lt hwlt)
    (show -1074 ≤ -((52 - (w * 10).log2 : Nat) : Int) - 4 by omega)
  have hexp : -((52 - (w * 10).log2 : Nat) : Int) - 4 + j = -(52 - w.log2 : Nat) := by omega
  simp only [hexp] at hround
  change packed (UnpackedFloat.div Format.binary64 (unpacked (UInt64.ofNat (w * 10)).toFloat)
    (unpacked (powerOfTen 1))) = _
  rw [unpacked_toFloat_of_lt h10 hw, unpacked_powerOfTen_one, UnpackedFloat.div, divCore_eq, hunit,
    toFloat_of_lt h0 hwlt]
  simp only [hshift, fullMantissa_mul_ten hj,
    Nat.mul_div_cancel_left _ (show 0 < 10 * 2 ^ 49 by decide), Nat.mul_mod_right]
  exact congrArg packed hround

/-! ## Shortest decimals -/

theorem digitCount_pos (n : Nat) : 0 < digitCount n := by
  rw [digitCount]
  split_ifs <;> omega

theorem digitCount_le {n k : Nat} (h : n < 10 ^ (k + 1)) : digitCount n ≤ k + 1 := by
  induction n using digitCount.induct generalizing k with
  | case1 n hn =>
    rw [digitCount, if_pos hn]
    omega
  | case2 n hn ih =>
    rw [digitCount, if_neg hn]
    cases k with
    | zero => omega
    | succ k =>
      rw [pow_succ] at h
      exact Nat.succ_le_succ (ih (by omega))

theorem Decimal.exponent_le_strip (d : Decimal) : d.exponent ≤ d.strip.exponent := by
  induction d using Decimal.strip.induct with
  | case1 d h ih =>
    rw [strip, dif_pos h]
    exact (Int.le_add_one le_rfl).trans ih
  | case2 d h => rw [strip, dif_neg h]

namespace Dyadic

/-- A value is a positive whole number, and its significand has bits after the point. -/
structure Whole (x : Dyadic) (w : Nat) : Prop where
  pos : 0 < w
  exponent_neg : x.exponent < 0
  significand_eq : x.significand = w * 2 ^ (-x.exponent).toNat

variable {x : Dyadic} {w : Nat}

theorem Whole.significand_pos (h : x.Whole w) : 0 < x.significand := by
  rw [h.significand_eq]
  exact Nat.mul_pos h.pos (Nat.two_pow_pos _)

theorem Whole.toRat_exact (h : x.Whole w) : x.exact.toRat = w := by
  rw [Dyadic.toRat_exact, h.significand_eq, Nat.cast_mul, Nat.cast_pow, Nat.cast_ofNat, mul_assoc,
    ← zero_sub, two_pow_toNat_mul h.exponent_neg.le, zpow_zero, mul_one]

/-- No other whole number rounds to the value. -/
theorem Whole.eq_of_holds (h : x.Whole w) {n : Nat} (hn : x.Holds n) : n = w := by
  have hvalue : (x.significand : ℚ) * 2 ^ x.exponent = w := by
    rw [← Dyadic.toRat_exact, h.toRat_exact]
  have hunit : (2 : ℚ) ^ x.exponent ≤ 1 / 2 := by
    have hexp := h.exponent_neg
    rw [one_div, ← zpow_neg_one]
    exact zpow_le_zpow_right₀ (by norm_num) (by omega)
  have hpos : (0 : ℚ) < 2 ^ x.exponent := by positivity
  have hbelow : (x.below : ℚ) * 2 ^ x.exponent ≤ 2 * 2 ^ x.exponent :=
    mul_le_mul_of_nonneg_right (by exact_mod_cast x.below_le) hpos.le
  have hlow := hn.lower_le
  have hhigh := hn.le_upper
  unfold lower at hlow
  unfold upper at hhigh
  have hlt : (n : ℚ) < (w + 1 : Nat) := by
    push_cast
    linarith
  have hgt : (w : ℚ) < (n + 1 : Nat) := by
    push_cast
    linarith
  have := Nat.cast_lt.1 hlt
  have := Nat.cast_lt.1 hgt
  omega

theorem Whole.floor_grid (h : x.Whole w) :
    x.significand * (x.grid 0).step / (x.grid 0).unit = w := by
  have hstep : (x.grid 0).step = 1 := by
    simp only [grid, Nat.pow_eq, Int.toNat_of_nonpos h.exponent_neg.le]
    rfl
  have hunit : (x.grid 0).unit = 2 ^ (-x.exponent).toNat := by
    simp only [grid, Nat.pow_eq]
    exact mul_one _
  rw [hstep, hunit, mul_one, h.significand_eq, Nat.mul_div_cancel _ (Nat.two_pow_pos _)]

theorem Whole.magnitude_eq (h : x.Whole w) : x.magnitude = digitCount w := by
  simp only [magnitude, h.floor_grid, if_neg h.pos.ne']

/-- The value itself is a point of the grid of whole numbers. -/
theorem Whole.candidate?_ne_none (h : x.Whole w) (tie : Tie) :
    x.candidate? tie (x.grid 0) ≠ none := by
  have hreads : x.readsBack (x.grid 0) w = true := by
    rw [readsBack_iff h.significand_pos, Decimal.toRat, zpow_zero, mul_one, ← h.toRat_exact]
    exact x.holds_exact
  simp only [candidate?, h.floor_grid, hreads]
  split
  · exact Option.some_ne_none _
  · exact Option.some_ne_none _
  · next heq _ => cases heq
  · next heq _ => cases heq

/-- No grid finer than that of whole numbers is tried. -/
theorem Whole.exponent_select_nonneg (h : x.Whole w) (hw : w < 10 ^ 17) (tie : Tie) :
    0 ≤ (x.select tie).exponent := by
  have hcount := digitCount_le (k := 16) hw
  have hpos := digitCount_pos w
  have hmem : digitCount w - 1 ∈ List.range 17 := List.mem_range.2 (by omega)
  have hfound : ((x.candidate? tie (x.grid (x.magnitude - 1 - (digitCount w - 1 : Nat)))).map
      fun d => (⟨d, x.magnitude - 1 - (digitCount w - 1 : Nat)⟩ : Decimal)) ≠ none := by
    rw [ne_eq, Option.map_eq_none_iff, show x.magnitude - 1 - (digitCount w - 1 : Nat) = 0 by
      rw [h.magnitude_eq]
      omega]
    exact h.candidate?_ne_none tie
  simp only [select]
  generalize hd : List.findSome? _ _ = found
  cases found with
  | none => exact absurd (List.findSome?_eq_none_iff.1 hd _ hmem) hfound
  | some d =>
    obtain ⟨before, n, after, hrange, hn, hbefore⟩ := List.findSome?_eq_some_iff.1 hd
    have hle : n ≤ digitCount w - 1 := by
      have hsorted := List.pairwise_lt_range (n := 17)
      rw [hrange] at hsorted hmem
      rcases List.mem_append.1 hmem with hmem | hmem
      · exact absurd (hbefore _ hmem) hfound
      · rcases List.mem_cons.1 hmem with hmem | hmem
        · exact hmem.ge
        · exact ((List.pairwise_cons.1 (List.pairwise_append.1 hsorted).2.1).1 _ hmem).le
    obtain ⟨c, -, rfl⟩ := Option.map_eq_some_iff.1 hn
    show 0 ≤ x.magnitude - 1 - (n : Int)
    rw [h.magnitude_eq]
    omega

/-- The shortest decimal of a whole number is that number. -/
theorem Whole.shortest_eq (h : x.Whole w) (hw : w < 10 ^ 17) (tie : Tie) :
    0 ≤ (x.shortest tie).exponent ∧ (x.shortest tie).toRat = w := by
  have hexp : 0 ≤ (x.shortest tie).exponent :=
    (h.exponent_select_nonneg hw tie).trans (Decimal.exponent_le_strip _)
  have hholds := holds_shortest h.significand_pos tie
  have hnat : (x.shortest tie).toRat =
      ((x.shortest tie).coefficient * 10 ^ (x.shortest tie).exponent.toNat : Nat) := by
    rw [Decimal.toRat, Nat.cast_mul, Nat.cast_pow, Nat.cast_ofNat, ← zpow_natCast,
      Int.toNat_of_nonneg hexp]
  rw [hnat] at hholds ⊢
  exact ⟨hexp, congrArg Nat.cast (h.eq_of_holds hholds)⟩

end Dyadic

/-! ## Numerals -/

/-- A whole number that is written in full has one zero after the point. -/
theorem Layout.numeral_of_whole (l : Layout) (negative : Bool) {d : Decimal}
    (hfrom : l.plainFrom ≤ 0) (hd : 0 < d.coefficient) (hexp : 0 ≤ d.exponent)
    (hsize : d.toRat < 10 ^ (l.plainTo + 1)) :
    ∃ whole, l.numeral negative d = ⟨negative, whole, [0], none⟩ := by
  have hten := (Decimal.ten_pow_le_toRat hd).trans_lt hsize
  have hlt := (zpow_lt_zpow_iff_right₀ (by norm_num : (1 : ℚ) < 10)).1 hten
  have hlen := List.length_pos_iff.2 (digits_ne_nil d.coefficient)
  simp only [numeral]
  rw [if_pos (by omega), if_neg (by omega), if_pos (by omega)]
  exact ⟨_, rfl⟩

theorem Dyadic.Whole.numeral_shortest {x : Dyadic} {w : Nat} (h : x.Whole w) {l : Layout}
    (negative : Bool) (hmark : l.mark ≠ .minus) (hfrom : l.plainFrom ≤ 0) (hw : w < 10 ^ 17)
    (hto : (w : ℚ) < 10 ^ (l.plainTo + 1)) : ∃ whole,
      l.numeral negative (x.shortest l.tie) = ⟨negative, whole, [0], none⟩ ∧
        ofDigits whole = w := by
  obtain ⟨hexp, hvalue⟩ := h.shortest_eq hw l.tie
  obtain ⟨whole, hnumeral⟩ := l.numeral_of_whole negative hfrom
    (coefficient_shortest_pos h.significand_pos _) hexp (hvalue ▸ hto)
  refine ⟨whole, hnumeral, ?_⟩
  have hsize := l.size_numeral negative (x.shortest l.tie) hmark
  have hdigits : ofDigits (whole ++ [0]) = ofDigits whole * 10 := ofDigits_append whole [0]
  have hpower : (⟨negative, whole, [0], none⟩ : Numeral).power = -1 := rfl
  rw [hnumeral, hvalue, Numeral.size, hdigits, hpower, Nat.cast_mul, Nat.cast_ofNat,
    zpow_neg_one, mul_inv_cancel_right₀ (by norm_num)] at hsize
  exact Nat.cast_injective hsize

/-- A whole number is written with its sign, its digits and one zero after the point. -/
theorem numeralOf_realOfInt {n : Int} (hn : n.natAbs < 2 ^ 52) : ∃ whole,
    Json.layout.numeralOf (realOfInt n) = ⟨decide (n < 0), whole, [0], none⟩ ∧
      ofDigits whole = n.natAbs := by
  by_cases h0 : n = 0
  · subst h0
    exact ⟨[0], by decide, rfl⟩
  obtain ⟨hbits, hsig, hexp, hsign⟩ := ofBits_of_unpacked (unpacked_realOfInt h0 (by omega))
  have hpos := Int.natAbs_pos.2 h0
  have hlog : n.natAbs.log2 < 52 := (Nat.log2_lt hpos.ne').2 hn
  have hwhole : (Dyadic.ofBits (bitsOf (realOfInt n) % 2 ^ 63)).Whole n.natAbs := by
    refine ⟨hpos, by omega, ?_⟩
    rw [hsig, hexp, Int.neg_neg, Int.toNat_natCast, fullMantissa]
  have hto : (n.natAbs : ℚ) < 10 ^ (16 : Int) := by
    have hrat : (n.natAbs : ℚ) < 2 ^ 52 := by exact_mod_cast hn
    exact hrat.trans (by norm_num)
  have hneg : decide (bitsOf (realOfInt n) / 2 ^ 63 = 1) = decide (n < 0) := by
    rw [decide_eq_decide, hsign]
    split_ifs <;> simp [*]
  rw [Layout.numeralOf_of_ne_zero _ hbits, hneg]
  exact hwhole.numeral_shortest _ (by decide) (by decide) (hn.trans (by decide)) hto

/-- A zero after the point is gathered like any other digit, and divided off again. -/
theorem value_of_whole (negative : Bool) {whole : List Digit} (h : ofDigits whole * 10 < 2 ^ 53) :
    (⟨negative, whole, [0], none⟩ : Numeral).value = some (.real (if negative then
      -(UInt64.ofNat (ofDigits whole)).toFloat else (UInt64.ofNat (ofDigits whole)).toFloat)) := by
  have hwhole : gather 0 whole = (ofDigits whole, []) :=
    gather_eq_of_lt (show ofDigits whole < 2 ^ 64 by omega)
  have hfraction : gather (ofDigits whole) [0] = (ofDigits whole * 10, []) :=
    gather_eq_of_lt (show ofDigits whole * 10 < 2 ^ 64 by omega)
  have hquotient : (UInt64.ofNat (ofDigits whole * 10)).toFloat / powerOfTen (- -1 : Int).toNat =
      (UInt64.ofNat (ofDigits whole)).toFloat := toFloat_mul_ten_div h
  have hscale : scale (UInt64.ofNat (ofDigits whole * 10)).toFloat (-1) =
      some (UInt64.ofNat (ofDigits whole)).toFloat := by
    rw [scale, if_neg (by decide), if_pos (by decide), hquotient, scale.finite,
      if_pos (isFinite_toFloat (by omega))]
  simp only [Numeral.value, Numeral.magnitude, hwhole, hfraction, Numeral.exponentValue?]
  rw [if_neg (by simp)]
  change (scale (UInt64.ofNat (ofDigits whole * 10)).toFloat (-1)).map _ = _
  rw [hscale]
  rfl

/-- A whole number comes back from its text as it is. -/
theorem value_numeralOf_realOfInt {n : Int} (hn : n.natAbs * 10 < 2 ^ 53) :
    (Json.layout.numeralOf (realOfInt n)).value = some (.real (realOfInt n)) := by
  obtain ⟨whole, hnumeral, hdigits⟩ := numeralOf_realOfInt (show n.natAbs < 2 ^ 52 by omega)
  rw [hnumeral, value_of_whole _ (by omega), hdigits, realOfInt]
  simp only [decide_eq_true_eq]

end Accelerator
