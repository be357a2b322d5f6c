import Accelerator.Proofs.Decimal.Range
import Accelerator.Shape.Reading

/-!
# Numbers that are read are finite

The value of a numeral is a finite float, whatever its digits and its exponent are: a product is
refused if it leaves the range, and a division that is repeated never does
(`Numeral.isFinite_of_value`).
-/

namespace Accelerator

open Json Float.Model Float.Model.UnpackedFloat

theorem isFinite_neg {x : Float} (h : x.isFinite = true) : (-x).isFinite = true := by
  change (UnpackedFloat.unpack Format.binary64 (UnpackedFloat.pack Format.binary64
    (unpacked x).neg)).isFinite = true
  rcases unpacked_of_isFinite h with ⟨s, hx⟩ | ⟨s, m, e, hm, hx, -, he⟩
  · rw [hx]
    cases s <;> decide
  · rw [hx]
    exact isFinite_pack he

theorem isFinite_realOfInt (n : Int) : (realOfInt n).isFinite = true := by
  have hword : (UInt64.ofNat n.natAbs).toFloat.isFinite = true := by
    rw [← UInt64.ofNat_toNat (x := UInt64.ofNat n.natAbs)]
    exact isFinite_toFloat (UInt64.toNat_lt _)
  rw [realOfInt]
  split_ifs
  · exact isFinite_neg hword
  · exact hword

/-- A value that is scaled stays in range, in one step or in several. -/
theorem isFinite_of_scale {x y : Float} {e : Int} (hx : x.isFinite = true)
    (h : scale x e = some y) : y.isFinite = true := by
  have hfinite {z : Float} (hz : scale.finite z = some y) : y.isFinite = true := by
    rw [scale.finite] at hz
    split_ifs at hz with hin
    rwa [← Option.some_inj.1 hz]
  induction x, e using scale.induct with
  | case1 x e hlow h0 =>
    rw [scale, if_pos hlow, if_pos h0, Option.some_inj] at h
    rwa [← h]
  | case2 x e hlow h0 ih =>
    rw [scale, if_pos hlow, if_neg h0] at h
    exact ih (isFinite_div_powerOfTen hx (by decide) le_rfl) h
  | case3 x e hlow hneg =>
    rw [scale, if_neg hlow, if_pos hneg] at h
    exact hfinite h
  | case4 x e hlow hneg hhigh =>
    rw [scale, if_neg hlow, if_neg hneg, if_pos hhigh] at h
    exact hfinite h
  | case5 x e hlow hneg hhigh h0 =>
    rw [scale, if_neg hlow, if_neg hneg, if_neg hhigh, if_pos h0, Option.some_inj] at h
    rwa [← h]
  | case6 x e hlow hneg hhigh h0 =>
    rw [scale, if_neg hlow, if_neg hneg, if_neg hhigh, if_neg h0] at h
    cases h

theorem Numeral.isFinite_of_magnitude {n : Numeral} {x : Float} (h : n.magnitude = some x) :
    x.isFinite = true := by
  have hwhole := gather_lt (n := 0) (by decide) n.whole
  have hlt := gather_lt hwhole n.fraction
  unfold magnitude at h
  simp only at h
  split at h
  · exact isFinite_of_scale (isFinite_toFloat hlt) h
  · split_ifs at h
    rw [← Option.some_inj.1 h]
    decide

/-- A float that a numeral stands for is finite. -/
theorem Numeral.isFinite_of_value {n : Numeral} {x : Float} (h : n.value = some (.real x)) :
    x.isFinite = true := by
  have hwhole := gather_lt (n := 0) (by decide) n.whole
  unfold value at h
  simp only at h
  split at h
  · split_ifs at h
    · cases h
    -- The negative zero, or a negative integer that 64 bits do not hold.
    · cases h
      exact isFinite_neg (isFinite_toFloat hwhole)
    · cases h
  · obtain ⟨y, hy, hx⟩ := Option.map_eq_some_iff.1 h
    obtain rfl := Number.real.inj hx
    split_ifs
    · exact isFinite_neg (isFinite_of_magnitude hy)
    · exact isFinite_of_magnitude hy

theorem isFinite_of_decodeReal {d : Document} {x : Float} (h : decodeReal d = .ok x) :
    x.isFinite = true := by
  unfold decodeReal at h
  split at h
  · next n =>
    rw [numberOf] at h
    cases hn : n.value with
    | none =>
      rw [hn] at h
      cases h
    | some v =>
      rw [hn] at h
      cases v with
      | integer i =>
        obtain rfl := Except.ok.inj h
        exact isFinite_realOfInt i
      | real y =>
        obtain rfl := Except.ok.inj h
        exact Numeral.isFinite_of_value hn
  · cases h

end Accelerator
