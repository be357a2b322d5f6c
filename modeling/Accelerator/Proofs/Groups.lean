import Accelerator.Comparison.Report
import Accelerator.Proofs.Equality
import Accelerator.Proofs.Reports

/-!
# The groups cover the element

Two elements agree on a group iff they are equal in the field of every key that the group names
(`agree_eq_all_equalAt`), and the groups name every field of an element once
(`elementGroups_perm_keys`).  Hence all groups match iff the elements are equal
(`allMatched_evaluate`), whatever the fields hold.
-/

namespace Accelerator

/-! ## The table -/

theorem matrixEqual_rows {m n : Nat} (t u : Vector (Vector Float n) m) :
    matrixEqual (· == ·) (rows t) (rows u) =
      allEqual (fun v w => allEqual (· == ·) v.toList w.toList) t.toList u.toList := by
  rw [matrixEqual_eq_allEqual]
  exact allEqual_map _ _ _ _

/-- A group compares the fields that it names, each under its own rule, and no others. -/
theorem agree_eq_all_equalAt (x y : Element) : ∀ g ∈ elementGroups,
    g.agree x y = g.fields.all fun key => Element.shape.equalAt key x y := by
  simp only [elementGroups, List.forall_mem_cons, List.not_mem_nil, false_imp_iff, implies_true,
    and_true]
  -- Only tables and the wakefield are compared by other functions than in a record.
  simp only [sameNames, sameBookkeeping, sameSwitches, matrixEqual_rows,
    ← bothEqual_eq_beq (α := Wakefield), List.all_cons, List.all_nil, Bool.and_true, Bool.and_assoc]
  exact ⟨rfl, rfl, rfl, rfl, rfl, rfl, rfl, rfl, rfl, rfl, rfl, rfl, rfl, rfl, rfl, rfl, rfl⟩

theorem Element.nodup_keys : Element.shape.keys.Nodup := by
  decide

/-- Every field of an element is in one group. -/
theorem elementGroups_perm_keys :
    (elementGroups.flatMap (·.fields)).Perm Element.shape.keys := by
  decide

theorem Element.beq_eq_all_equalAt (x y : Element) :
    (x == y) = Element.shape.keys.all fun key => Element.shape.equalAt key x y :=
  Shape.equal_eq_all_equalAt Element.nodup_keys x y

/-! ## The verdict -/

theorem allMatched_eq_all_agree (x y : Element) :
    allMatched (evaluate x y).result = elementGroups.all (·.agree x y) := by
  simp only [allMatched, allTrue, evaluate, List.map_map, List.all_map]
  rfl

theorem allMatched_evaluate (x y : Element) : allMatched (evaluate x y).result = (x == y) := by
  rw [allMatched_eq_all_agree, Element.beq_eq_all_equalAt, Bool.eq_iff_iff]
  simp only [List.all_eq_true, ← elementGroups_perm_keys.mem_iff, List.mem_flatMap]
  constructor
  · rintro h key ⟨g, hg, hkey⟩
    have := h g hg
    rw [agree_eq_all_equalAt x y g hg, List.all_eq_true] at this
    exact this key hkey
  · intro h g hg
    rw [agree_eq_all_equalAt x y g hg, List.all_eq_true]
    intro key hkey
    exact h key ⟨g, hg, hkey⟩

theorem beq_eq_all_agree (x y : Element) : (x == y) = elementGroups.all (·.agree x y) := by
  rw [← allMatched_evaluate, allMatched_eq_all_agree]

end Accelerator
