import Accelerator.Decimal.Layout
import Accelerator.Proofs.Decimal.Numerals
import Mathlib.Algebra.Order.Field.Power
import Mathlib.Data.Rat.Cast.Defs
import Mathlib.Tactic.FieldSimp
import Mathlib.Tactic.Positivity

/-!
# The number that a layout writes

Whatever part of a decimal is written as whole digits, as a fraction and as an exponent, the numeral
is proper (`Layout.proper_numeral`) and stands for the decimal (`Layout.size_numeral`).
-/

namespace Accelerator

/-! ## Sizes -/

/-- The exponent as a number. -/
def Exponent.toInt (e : Exponent) : Int :=
  if e.mark = .minus then -(ofDigits e.digits : Int) else ofDigits e.digits

/-- The power of ten that the last digit of a numeral counts. -/
def Numeral.power (n : Numeral) : Int :=
  (n.exponent.elim 0 Exponent.toInt) - n.fraction.length

/-- The number that a numeral stands for, without its sign. -/
def Numeral.size (n : Numeral) : ℚ :=
  ofDigits (n.whole ++ n.fraction) * 10 ^ n.power

/-- The number that a decimal stands for. -/
def Decimal.toRat (d : Decimal) : ℚ :=
  d.coefficient * 10 ^ d.exponent

/-- Digits with `k` zeros after them, of which the last counts `10 ^ (e - k)`. -/
theorem Numeral.size_eq {n : Numeral} {d : Decimal} {k : Nat}
    (hd : ofDigits (n.whole ++ n.fraction) = d.coefficient * 10 ^ k)
    (hp : n.power = d.exponent - k) : n.size = d.toRat := by
  rw [size, Decimal.toRat, hd, hp, zpow_sub₀ (by norm_num), zpow_natCast]
  push_cast
  field_simp

/-- Dropping a trailing zero from the coefficient does not change the number. -/
theorem Decimal.toRat_strip (d : Decimal) : d.strip.toRat = d.toRat := by
  induction d using Decimal.strip.induct with
  | case1 d h ih =>
    rw [strip, dif_pos h, ih, toRat, toRat, zpow_add₀ (by norm_num), zpow_one]
    have hc : d.coefficient = d.coefficient / 10 * 10 := by omega
    have hq : (d.coefficient : ℚ) = (d.coefficient / 10 : Nat) * 10 := by exact_mod_cast hc
    rw [hq]
    ring
  | case2 d h => rw [strip, dif_neg h]

namespace Layout

/-! ## Layouts -/

variable (l : Layout) (negative : Bool) (d : Decimal)

@[simp]
theorem negative_numeral : (l.numeral negative d).negative = negative := by
  simp only [numeral]
  split_ifs <;> rfl

theorem proper_zero : (⟨negative, [0], [0], none⟩ : Numeral).Proper :=
  ⟨List.cons_ne_nil _ _, fun _ => rfl, nofun⟩

theorem proper_numeral {d : Decimal} (hd : 0 < d.coefficient) :
    (l.numeral negative d).Proper := by
  obtain ⟨c, ds, hc⟩ := List.exists_cons_of_ne_nil (digits_ne_nil d.coefficient)
  have hz : c ≠ 0 := by
    have := head?_digits_ne_zero hd
    rintro rfl
    rw [hc] at this
    exact this rfl
  have hhead {n : Numeral} {es : List Digit} (hw : n.whole = c :: es)
      (he : ∀ e ∈ n.exponent, e.digits ≠ []) : n.Proper := by
    refine ⟨?_, ?_, he⟩
    · rw [hw]
      exact List.cons_ne_nil _ _
    · intro h
      rw [hw, List.head?_cons, Option.some_inj] at h
      exact absurd h hz
  simp only [numeral]
  rw [hc]
  split_ifs
  · exact ⟨List.cons_ne_nil _ _, fun _ => rfl, nofun⟩
  · exact hhead rfl nofun
  · exact hhead (List.take_succ_cons ..) nofun
  · apply hhead rfl
    rintro _ ⟨⟩
    exact digits_ne_nil _
  · apply hhead rfl
    rintro _ ⟨⟩
    exact digits_ne_nil _

theorem size_numeral (hl : l.mark ≠ .minus) : (l.numeral negative d).size = d.toRat := by
  have hpos := List.length_pos_iff.2 (digits_ne_nil d.coefficient)
  have hval := ofDigits_digits d.coefficient
  have hsplit (i : Nat) : ofDigits ((digits d.coefficient).take i ++
      (digits d.coefficient).drop i) = d.coefficient * 10 ^ 0 := by
    rw [List.take_append_drop, hval, pow_zero, mul_one]
  simp only [numeral]
  split_ifs with hplain hneg hshort hexp
  · refine Numeral.size_eq (k := 0) ?_ ?_
    · rw [ofDigits_append, ofDigits_append, ofDigits_replicate_zero, hval]
      simp [ofDigits, appendDigits]
    · simp only [Numeral.power, Option.elim_none, List.length_append, List.length_replicate]
      omega
  · refine Numeral.size_eq (k := (d.exponent + ((digits d.coefficient).length - 1)).toNat + 1 -
      (digits d.coefficient).length + 1) ?_ ?_
    · rw [ofDigits_append, ofDigits_append, ofDigits_replicate_zero, hval, List.length_replicate,
        Nat.add_zero, Nat.mul_assoc]
      rfl
    · simp only [Numeral.power, Option.elim_none, List.length_cons, List.length_nil]
      omega
  · apply Numeral.size_eq (hsplit _)
    simp only [Numeral.power, Option.elim_none, List.length_drop]
    omega
  · apply Numeral.size_eq (hsplit 1)
    simp only [Numeral.power, Option.elim_some, Exponent.toInt, List.length_drop, ofDigits_digits,
      if_true]
    omega
  · apply Numeral.size_eq (hsplit 1)
    simp only [Numeral.power, Option.elim_some, Exponent.toInt, List.length_drop, ofDigits_digits,
      if_neg hl]
    omega

end Layout

end Accelerator
