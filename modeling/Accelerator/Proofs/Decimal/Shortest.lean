import Accelerator.Proofs.Decimal.Floats
import Accelerator.Proofs.Decimal.Layout

/-!
# The shortest decimal determines the float

The reals that round to a binary64 value form an interval (`Dyadic.Holds`).  The decimal that is
written lies in the interval of the value (`Dyadic.holds_shortest`), and the intervals of two values
do not meet (`Dyadic.eq_of_holds`).  So a layout writes different floats as different numerals
(`Layout.numeralOf_injective`).
-/

namespace Accelerator

namespace Dyadic

/-! ## The reals that round to a value -/

/-- A positive value of the format, its significand as long as its exponent allows. -/
structure Canonical (x : Dyadic) : Prop where
  pos : 0 < x.significand
  lt : x.significand < 2 ^ 53
  le_exponent : -1074 ≤ x.exponent
  normal : x.exponent ≠ -1074 → 2 ^ 52 ≤ x.significand
  narrowBelow_iff : x.narrowBelow = true ↔ x.significand = 2 ^ 52 ∧ x.exponent ≠ -1074

/-- Four times the gap below the significand up to the midpoint, in units of the significand. -/
def below (x : Dyadic) : Nat :=
  if x.narrowBelow then 1 else 2

/-- The midpoint to the next smaller value. -/
def lower (x : Dyadic) : ℚ :=
  (4 * x.significand - x.below) * 2 ^ x.exponent / 4

/-- The midpoint to the next larger value. -/
def upper (x : Dyadic) : ℚ :=
  (4 * x.significand + 2) * 2 ^ x.exponent / 4

/-- A number lies among the reals that round to the value. -/
def Holds (x : Dyadic) (q : ℚ) : Prop :=
  if x.significand % 2 = 0 then x.lower ≤ q ∧ q ≤ x.upper else x.lower < q ∧ q < x.upper

variable {x y : Dyadic}

theorem below_le (x : Dyadic) : x.below ≤ 2 := by
  unfold below
  split_ifs <;> decide

theorem Holds.lower_le {q : ℚ} (h : x.Holds q) : x.lower ≤ q := by
  unfold Holds at h
  split_ifs at h
  · exact h.1
  · exact h.1.le

theorem Holds.le_upper {q : ℚ} (h : x.Holds q) : q ≤ x.upper := by
  unfold Holds at h
  split_ifs at h
  · exact h.2
  · exact h.2.le

theorem canonical_ofBits {n : Nat} (h : n % 2 ^ 63 ≠ 0) : (ofBits (n % 2 ^ 63)).Canonical := by
  have hlt := significand_ofBits_lt (n % 2 ^ 63)
  by_cases h0 : n % 2 ^ 63 / 2 ^ 52 % 2 ^ 11 = 0
  · rw [ofBits_of_eq_zero h0] at hlt ⊢
    refine ⟨?_, hlt, le_rfl, fun hc => absurd rfl hc, ?_⟩
    · show 0 < n % 2 ^ 63 % 2 ^ 52
      omega
    · exact iff_of_false Bool.false_ne_true fun hc => hc.2 rfl
  · rw [ofBits_of_ne_zero h0] at hlt ⊢
    refine ⟨?_, hlt, ?_, fun _ => Nat.le_add_right _ _, ?_⟩
    · exact Nat.add_pos_left (by decide) _
    · show -1074 ≤ ((n % 2 ^ 63 / 2 ^ 52 % 2 ^ 11 : Nat) : Int) - 1075
      omega
    · simp only [Bool.and_eq_true, decide_eq_true_eq]
      omega

/-! ## The intervals of two values do not meet -/

/-- A value with a larger exponent than another one has a normalised significand. -/
theorem Canonical.le_four_mul_sub_below (hy : y.Canonical) (he : y.exponent ≠ -1074) :
    (2 : ℚ) ^ 54 - 1 ≤ 4 * y.significand - y.below := by
  have h52 := hy.normal he
  have hnat : 2 ^ 54 - 1 + y.below ≤ 4 * y.significand := by
    unfold below
    split_ifs with hn
    · omega
    · have : y.significand ≠ 2 ^ 52 := by
        intro hc
        exact hn (hy.narrowBelow_iff.2 ⟨hc, he⟩)
      omega
  have : ((2 ^ 54 - 1 + y.below : Nat) : ℚ) ≤ (4 * y.significand : Nat) := by exact_mod_cast hnat
  push_cast at this
  linarith

/-- The interval of a value ends before that of another one starts; if it ends where the other one
starts, then one of them does not have its end point. -/
def Precedes (x y : Dyadic) : Prop :=
  x.upper ≤ y.lower ∧ (x.upper = y.lower → x.significand % 2 = 1 ∨ y.significand % 2 = 1)

theorem precedes_of_exponent_lt (hx : x.Canonical) (hy : y.Canonical)
    (he : x.exponent < y.exponent) : x.Precedes y := by
  have hP : (0 : ℚ) < 2 ^ x.exponent := by positivity
  have hQ : 2 * (2 : ℚ) ^ x.exponent ≤ 2 ^ y.exponent := by
    rw [← zpow_one_add₀ (by norm_num)]
    exact zpow_le_zpow_right₀ (by norm_num) (by omega)
  -- the end point is that of the greatest significand, and half a unit of the next exponent
  have hlow : ((2 : ℚ) ^ 54 - 1) * (2 * 2 ^ x.exponent) ≤
      (4 * y.significand - y.below) * 2 ^ y.exponent := by
    have hfull := hy.le_four_mul_sub_below (by have := hx.le_exponent; omega)
    exact mul_le_mul hfull hQ (by positivity) (by linarith)
  have hlt := hx.lt
  unfold Precedes upper lower
  by_cases htop : x.significand = 2 ^ 53 - 1
  · refine ⟨?_, fun _ => .inl (by omega)⟩
    have hsig : (x.significand : ℚ) = 2 ^ 53 - 1 := by rw [htop]; norm_num
    rw [hsig]
    linarith
  · have hsig : (x.significand : ℚ) ≤ 2 ^ 53 - 2 := by
      have : x.significand ≤ 2 ^ 53 - 2 := by omega
      calc (x.significand : ℚ) ≤ (2 ^ 53 - 2 : Nat) := by exact_mod_cast this
        _ = 2 ^ 53 - 2 := by norm_num
    have hstrict : (4 * (x.significand : ℚ) + 2) * 2 ^ x.exponent <
        ((2 : ℚ) ^ 54 - 1) * (2 * 2 ^ x.exponent) := by
      rw [← mul_assoc]
      exact mul_lt_mul_of_pos_right (by linarith) hP
    exact ⟨by linarith, fun heq => by linarith⟩

theorem precedes_of_significand_lt (hx : x.Canonical) (hy : y.Canonical)
    (he : x.exponent = y.exponent) (hm : x.significand < y.significand) : x.Precedes y := by
  have hP : (0 : ℚ) < 2 ^ x.exponent := by positivity
  have hbelow : y.below = 2 := by
    apply if_neg
    intro hn
    obtain ⟨h52, hne⟩ := hy.narrowBelow_iff.1 hn
    have := hx.normal (he ▸ hne)
    omega
  have hsig : (x.significand : ℚ) + 1 ≤ y.significand := by exact_mod_cast hm
  unfold Precedes upper lower
  rw [hbelow, ← he]
  push_cast
  constructor
  · have := mul_le_mul_of_nonneg_right hsig hP.le
    linarith
  · intro heq
    have hends : (4 * (x.significand : ℚ) + 2) * 2 ^ x.exponent =
        (4 * y.significand - 2) * 2 ^ x.exponent := by linarith
    have hnext : (x.significand : ℚ) + 1 = y.significand := by
      linarith [mul_right_cancel₀ hP.ne' hends]
    have : x.significand + 1 = y.significand := by exact_mod_cast hnext
    omega

theorem not_holds_of_lt (hx : x.Canonical) (hy : y.Canonical)
    (h : x.exponent < y.exponent ∨ x.exponent = y.exponent ∧ x.significand < y.significand)
    {q : ℚ} (hxq : x.Holds q) : ¬y.Holds q := by
  intro hyq
  have hprecedes : x.Precedes y := by
    rcases h with he | ⟨he, hm⟩
    · exact precedes_of_exponent_lt hx hy he
    · exact precedes_of_significand_lt hx hy he hm
  obtain ⟨hle, hodd⟩ := hprecedes
  have h1 : q = x.upper := le_antisymm hxq.le_upper (hle.trans hyq.lower_le)
  have h2 : q = y.lower := le_antisymm (hxq.le_upper.trans hle) hyq.lower_le
  rcases hodd (h1.symm.trans h2) with hm | hm
  · rw [Holds, if_neg (by omega)] at hxq
    exact hxq.2.ne h1
  · rw [Holds, if_neg (by omega)] at hyq
    exact hyq.1.ne h2.symm

/-- Two values to which one number rounds are the same. -/
theorem eq_of_holds (hx : x.Canonical) (hy : y.Canonical) {q : ℚ} (hxq : x.Holds q)
    (hyq : y.Holds q) : x.significand = y.significand ∧ x.exponent = y.exponent := by
  have h1 : ¬(x.exponent < y.exponent ∨ x.exponent = y.exponent ∧ x.significand < y.significand) :=
    fun h => not_holds_of_lt hx hy h hxq hyq
  have h2 : ¬(y.exponent < x.exponent ∨ y.exponent = x.exponent ∧ y.significand < x.significand) :=
    fun h => not_holds_of_lt hy hx h hyq hxq
  omega

/-! ## The decimal that is written -/

/-- A power with a natural exponent, for an integer exponent that may be negative. -/
theorem pow_toNat_eq {a : ℚ} (ha : a ≠ 0) (e : Int) :
    a ^ e.toNat = a ^ e * a ^ (-e).toNat := by
  rw [← zpow_natCast, ← zpow_natCast, ← zpow_add₀ ha]
  congr 1
  omega

/-- The steps of a grid are the units of the significand and the multiples of a power of ten, both
scaled to natural numbers. -/
theorem grid_scale (x : Dyadic) (g : Int) : ∃ k : ℚ, 0 < k ∧
    ((x.grid g).step : ℚ) = 2 ^ x.exponent * k ∧ ((x.grid g).unit : ℚ) = 10 ^ g * k := by
  refine ⟨2 ^ (-x.exponent).toNat * 10 ^ (-g).toNat, by positivity, ?_, ?_⟩
  · simp only [grid, Nat.pow_eq, Nat.cast_mul, Nat.cast_pow, Nat.cast_ofNat]
    rw [pow_toNat_eq (by norm_num)]
    ring
  · simp only [grid, Nat.pow_eq, Nat.cast_mul, Nat.cast_pow, Nat.cast_ofNat]
    rw [pow_toNat_eq (a := 10) (by norm_num) g]
    ring

theorem readsBack_iff (hx : 0 < x.significand) (g : Int) (d : Nat) :
    x.readsBack (x.grid g) d = true ↔ x.Holds (Decimal.toRat ⟨d, g⟩) := by
  obtain ⟨k, hk, hstep, hunit⟩ := grid_scale x g
  have hk4 : 0 < 4 * k := by linarith
  have hlow : (((4 * x.significand - x.below) * (x.grid g).step : Nat) : ℚ) =
      x.lower * (4 * k) := by
    rw [Nat.cast_mul, Nat.cast_sub (by have := x.below_le; omega), hstep, lower]
    push_cast
    ring
  have hhigh : (((4 * x.significand + 2) * (x.grid g).step : Nat) : ℚ) = x.upper * (4 * k) := by
    rw [Nat.cast_mul, hstep, upper]
    push_cast
    ring
  have hpoint : ((4 * d * (x.grid g).unit : Nat) : ℚ) = Decimal.toRat ⟨d, g⟩ * (4 * k) := by
    rw [Nat.cast_mul, hunit, Decimal.toRat]
    push_cast
    ring
  change (if x.significand % 2 = 0 then
      decide ((4 * x.significand - x.below) * (x.grid g).step ≤ 4 * d * (x.grid g).unit) &&
        decide (4 * d * (x.grid g).unit ≤ (4 * x.significand + 2) * (x.grid g).step)
    else
      decide ((4 * x.significand - x.below) * (x.grid g).step < 4 * d * (x.grid g).unit) &&
        decide (4 * d * (x.grid g).unit < (4 * x.significand + 2) * (x.grid g).step)) = true ↔ _
  rw [Holds]
  split_ifs
  · rw [Bool.and_eq_true, decide_eq_true_eq, decide_eq_true_eq, ← Nat.cast_le (α := ℚ),
      ← Nat.cast_le (α := ℚ), hlow, hhigh, hpoint, mul_le_mul_iff_left₀ hk4,
      mul_le_mul_iff_left₀ hk4]
  · rw [Bool.and_eq_true, decide_eq_true_eq, decide_eq_true_eq, ← Nat.cast_lt (α := ℚ),
      ← Nat.cast_lt (α := ℚ), hlow, hhigh, hpoint, mul_lt_mul_iff_left₀ hk4,
      mul_lt_mul_iff_left₀ hk4]

theorem nearest_eq_or (x : Dyadic) (tie : Tie) (k : Grid) :
    x.nearest tie k = x.significand * k.step / k.unit ∨
      x.nearest tie k = x.significand * k.step / k.unit + 1 := by
  simp only [nearest]
  split
  · exact .inl rfl
  · exact .inr rfl
  · exact .inr rfl
  · split_ifs
    · exact .inl rfl
    · exact .inr rfl

theorem readsBack_of_candidate? {tie : Tie} {k : Grid} {d : Nat}
    (h : x.candidate? tie k = some d) : x.readsBack k d = true := by
  simp only [candidate?] at h
  split at h
  · next hlow hhigh =>
    obtain rfl := Option.some_inj.1 h
    rcases nearest_eq_or x tie k with hn | hn
    · rwa [hn]
    · rwa [hn]
  · next hlow hhigh => rwa [← Option.some_inj.1 h]
  · next hlow hhigh => rwa [← Option.some_inj.1 h]
  · cases h

theorem toRat_exact (x : Dyadic) : x.exact.toRat = x.significand * 2 ^ x.exponent := by
  unfold exact
  split_ifs with he
  · rw [Decimal.toRat, zpow_zero, mul_one, Nat.pow_eq]
    push_cast
    rw [← zpow_natCast, Int.toNat_of_nonneg he]
  · rw [Decimal.toRat, Nat.pow_eq]
    push_cast
    have h5 : (5 : ℚ) ^ (-x.exponent).toNat = 5 ^ (-x.exponent) := by
      rw [← zpow_natCast, Int.toNat_of_nonneg (by omega)]
    have h10 : (10 : ℚ) ^ x.exponent = 5 ^ x.exponent * 2 ^ x.exponent := by
      rw [← mul_zpow]
      norm_num
    rw [h5, h10, zpow_neg]
    field_simp

theorem holds_exact (x : Dyadic) : x.Holds x.exact.toRat := by
  have hP : (0 : ℚ) < 2 ^ x.exponent := by positivity
  have hbelow : (0 : ℚ) < x.below := by
    unfold below
    split_ifs <;> norm_num
  have hlow : x.lower < x.exact.toRat := by
    rw [toRat_exact, lower]
    have := mul_pos hbelow hP
    linarith
  have hhigh : x.exact.toRat < x.upper := by
    rw [toRat_exact, upper]
    linarith
  unfold Holds
  split_ifs
  · exact ⟨hlow.le, hhigh.le⟩
  · exact ⟨hlow, hhigh⟩

theorem holds_select (hx : 0 < x.significand) (tie : Tie) : x.Holds (x.select tie).toRat := by
  simp only [select]
  generalize hd : List.findSome? _ _ = found
  cases found with
  | none => exact holds_exact x
  | some d =>
    obtain ⟨n, -, hn⟩ := List.exists_of_findSome?_eq_some hd
    obtain ⟨c, hc, rfl⟩ := Option.map_eq_some_iff.1 hn
    exact (readsBack_iff hx _ c).1 (readsBack_of_candidate? hc)

/-- The shortest decimal rounds to the value. -/
theorem holds_shortest (hx : 0 < x.significand) (tie : Tie) : x.Holds (x.shortest tie).toRat := by
  rw [shortest, Decimal.toRat_strip]
  exact holds_select hx tie

theorem lower_pos (hx : 0 < x.significand) : 0 < x.lower := by
  have hP : (0 : ℚ) < 2 ^ x.exponent := by positivity
  have hbelow : (x.below : ℚ) ≤ 2 := by exact_mod_cast x.below_le
  have hsig : (1 : ℚ) ≤ x.significand := by exact_mod_cast hx
  unfold lower
  have := mul_pos (show (0 : ℚ) < 4 * x.significand - x.below by linarith) hP
  linarith

theorem coefficient_shortest_pos (hx : 0 < x.significand) (tie : Tie) :
    0 < (x.shortest tie).coefficient := by
  have hpos := (lower_pos hx).trans_le (holds_shortest hx tie).lower_le
  apply Nat.pos_of_ne_zero
  intro h0
  rw [Decimal.toRat, h0, Nat.cast_zero, zero_mul] at hpos
  exact hpos.false

end Dyadic

namespace Layout

/-! ## Floats as numerals -/

theorem numeralOf_of_eq_zero (l : Layout) {x : Float} (h : bitsOf x % 2 ^ 63 = 0) :
    l.numeralOf x = ⟨bitsOf x / 2 ^ 63 = 1, [0], [0], none⟩ :=
  if_pos h

theorem numeralOf_of_ne_zero (l : Layout) {x : Float} (h : bitsOf x % 2 ^ 63 ≠ 0) :
    l.numeralOf x = l.numeral (bitsOf x / 2 ^ 63 = 1)
      ((Dyadic.ofBits (bitsOf x % 2 ^ 63)).shortest l.tie) :=
  if_neg h

theorem proper_numeralOf (l : Layout) (x : Float) : (l.numeralOf x).Proper := by
  by_cases h0 : bitsOf x % 2 ^ 63 = 0
  · rw [numeralOf_of_eq_zero l h0]
    exact proper_zero _
  · rw [numeralOf_of_ne_zero l h0]
    exact proper_numeral l _ (Dyadic.coefficient_shortest_pos (Dyadic.canonical_ofBits h0).pos _)

theorem negative_numeralOf (l : Layout) (x : Float) :
    (l.numeralOf x).negative = decide (bitsOf x / 2 ^ 63 = 1) := by
  by_cases h0 : bitsOf x % 2 ^ 63 = 0
  · rw [numeralOf_of_eq_zero l h0]
  · rw [numeralOf_of_ne_zero l h0]
    exact negative_numeral _ _ _

theorem holds_size_numeralOf {l : Layout} (hl : l.mark ≠ .minus) {x : Float}
    (h0 : bitsOf x % 2 ^ 63 ≠ 0) :
    (Dyadic.ofBits (bitsOf x % 2 ^ 63)).Holds (l.numeralOf x).size := by
  rw [numeralOf_of_ne_zero l h0, size_numeral l _ _ hl]
  exact Dyadic.holds_shortest (Dyadic.canonical_ofBits h0).pos _

theorem size_numeralOf_eq_zero_iff {l : Layout} (hl : l.mark ≠ .minus) (x : Float) :
    (l.numeralOf x).size = 0 ↔ bitsOf x % 2 ^ 63 = 0 := by
  by_cases h0 : bitsOf x % 2 ^ 63 = 0
  · apply iff_of_true _ h0
    rw [numeralOf_of_eq_zero l h0]
    simp [Numeral.size, ofDigits, appendDigits]
  · apply iff_of_false (ne_of_gt _) h0
    exact (Dyadic.lower_pos (Dyadic.canonical_ofBits h0).pos).trans_le
      (holds_size_numeralOf hl h0).lower_le

/-- Different floats are written as different numerals. -/
theorem numeralOf_injective {l : Layout} (hl : l.mark ≠ .minus) :
    Function.Injective l.numeralOf := by
  intro x y h
  have hsign : bitsOf x / 2 ^ 63 = 1 ↔ bitsOf y / 2 ^ 63 = 1 := by
    rw [← decide_eq_decide, ← negative_numeralOf l, ← negative_numeralOf l, h]
  have hzero : bitsOf x % 2 ^ 63 = 0 ↔ bitsOf y % 2 ^ 63 = 0 := by
    rw [← size_numeralOf_eq_zero_iff hl, h, size_numeralOf_eq_zero_iff hl]
  have hmag : bitsOf x % 2 ^ 63 = bitsOf y % 2 ^ 63 := by
    by_cases hx : bitsOf x % 2 ^ 63 = 0
    · rw [hx, hzero.1 hx]
    · have hy := mt hzero.2 hx
      obtain ⟨hm, he⟩ := Dyadic.eq_of_holds (Dyadic.canonical_ofBits hx)
        (Dyadic.canonical_ofBits hy) (holds_size_numeralOf hl hx) (h ▸ holds_size_numeralOf hl hy)
      exact ofBits_injective (Nat.mod_lt _ (by decide)) (Nat.mod_lt _ (by decide)) hm he
  have hx := bitsOf_lt x
  have hy := bitsOf_lt y
  exact eq_of_bitsOf (by omega)

end Layout

end Accelerator
