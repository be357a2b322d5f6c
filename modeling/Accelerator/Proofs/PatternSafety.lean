import Accelerator.Proofs.CheckedPatterns
import Accelerator.Proofs.LatticeAccess
import Accelerator.Proofs.Patterns

/-!
# The pattern of every index

Every index has a pattern of each record type: no computation stops at it, and each of its texts has
eight small letters (`every_index_has_a_pattern`).  The headers of the pattern of a lattice fit its
lists, and its three elements are the patterns of the indices that follow.
-/

namespace Accelerator

/-! ## The texts of a pattern -/

mutual

/-- Every text of a value has a property. -/
def Shape.AllTexts (p : String → Prop) : {α : Type} → Shape α → α → Prop
  | _, .real, _ => True
  | _, .integer, _ => True
  | _, .flag, _ => True
  | _, .text, s => p s
  | _, .choice _, _ => True
  | _, .array _ entry, v => ∀ a ∈ v.toList, entry.AllTexts p a
  | _, .list entry, l => ∀ a ∈ l, entry.AllTexts p a
  | _, .optional value, o => ∀ a ∈ o, value.AllTexts p a
  | _, .record _ fields view, a => fields.AllTexts p (view.parts a)

/-- Every text of the fields has a property. -/
def Fields.AllTexts (p : String → Prop) : {β : Type} → Fields β → β → Prop
  | _, .nil, _ => True
  | _, .cons _ value rest, (a, as) => value.AllTexts p a ∧ rest.AllTexts p as

end

/-- Eight small letters. -/
def IsWord (s : String) : Prop :=
  s.length = 8 ∧ ∀ c ∈ s.toList, 'a' ≤ c ∧ c ≤ 'z'

theorem letter_mem (n : Int32) : 'a' ≤ letter n ∧ letter n ≤ 'z' := by
  have hletters : ∀ r < 26, 'a' ≤ Char.ofNat (97 + r) ∧ Char.ofNat (97 + r) ≤ 'z' := by decide
  have hmod : n.toInt % 26 < 26 := Int.emod_lt_of_pos _ (by decide)
  exact hletters _ (by omega)

theorem isWord_patternText (n : Int32) : IsWord (patternText n) := by
  constructor
  · rw [patternText, String.length_ofList, List.length_map, List.length_range]
  · rw [patternText, String.toList_ofList]
    exact List.forall_mem_map.2 fun i _ => letter_mem _

mutual

theorem Shape.allTexts_fill {p : String → Prop} (h : ∀ n, p (patternText n)) : {α : Type} →
    (s : Shape α) → (inRow : Bool) → (size : Nat) → (number ix : Int32) →
    s.AllTexts p (s.fill inRow size number ix)
  | _, .real, _, _, _, _ => trivial
  | _, .integer, _, _, _, _ => trivial
  | _, .flag, _, _, _, _ => trivial
  | _, .text, _, _, number, ix => h (patternNumber number ix)
  | _, .choice _, _, _, _, _ => trivial
  | _, .array n entry, inRow, size, number, ix => by
    intro a ha
    rw [Shape.fill, Vector.toList_ofFn] at ha
    obtain ⟨i, rfl⟩ := List.mem_ofFn.1 ha
    exact Shape.allTexts_fill h entry true size _ ix
  | _, .list entry, inRow, size, number, ix => by
    intro a ha
    obtain ⟨i, -, rfl⟩ := List.mem_map.1 ha
    exact Shape.allTexts_fill h entry true size _ ix
  | _, .optional value, inRow, size, number, ix => by
    rintro _ ⟨⟩
    exact Shape.allTexts_fill h value inRow size number ix
  | _, .record _ fields view, _, _, number, ix => by
    rw [Shape.AllTexts, Shape.fill, view.parts_ofParts]
    exact Fields.allTexts_fill h fields (ix + number)

theorem Fields.allTexts_fill {p : String → Prop} (h : ∀ n, p (patternText n)) : {β : Type} →
    (fields : Fields β) → (ix : Int32) → fields.AllTexts p (fields.fill ix)
  | _, .nil, _ => trivial
  | _, .cons f value rest, ix =>
    ⟨Shape.allTexts_fill h value false f.size f.number ix, Fields.allTexts_fill h rest ix⟩

end

theorem RecordKind.allTexts_pattern (k : RecordKind) {p : String → Prop}
    (h : ∀ n, p (patternText n)) (ix : Int32) : k.shape.AllTexts p (k.pattern ix) := by
  have hfill : k.shape.AllTexts p (k.shape.pattern ix) := Shape.allTexts_fill h _ false 0 0 ix
  cases k <;> exact hfill

/-! ## The elements of a pattern -/

/-- A record in a field has the pattern of the index that its number leads to. -/
theorem Shape.fill_record {α β : Type} (name : String) (fields : Fields β) (view : View α β)
    (inRow : Bool) (size : Nat) (number ix : Int32) :
    (Shape.record name fields view).fill inRow size number ix =
      (Shape.record name fields view).pattern (ix + number) := by
  rw [Shape.pattern, Shape.fill, Shape.fill, Int32.add_zero]

namespace Lattice

theorem elements_pattern (ix : Int32) : (pattern ix).elements =
    (List.range 3).map fun n => RecordKind.element.pattern (ix + 21 + Int32.ofNat n) := by
  refine List.map_congr_left fun n _ => ?_
  have hindex : ix + 0 + (20 + Int32.ofNat (n + 1)) = ix + 21 + Int32.ofNat n := by
    rw [Int32.ofNat_add]
    grind
  exact (Shape.fill_record ..).trans (congrArg Element.shape.pattern hindex)

theorem active?_pattern (ix : Int32) : (pattern ix).active? = some (pattern ix).elements :=
  rfl

theorem checkShape_pattern (ix : Int32) : (pattern ix).checkShape = .ok () :=
  rfl

end Lattice

/-- The pattern of an index is there for each record type and each index, and all of its texts have
eight small letters. The headers of a lattice then fit its lists, and it has three elements in use,
the patterns of the indices from `ix + 21` on, and no others. -/
theorem every_index_has_a_pattern (ix : Int32) :
    (∀ k : RecordKind, k.checkedPattern ix = .ok (k.pattern ix) ∧
      k.shape.AllTexts IsWord (k.pattern ix)) ∧
    (Lattice.pattern ix).checkShape = .ok () ∧
    (∃ es, (Lattice.pattern ix).active? = some es ∧ es.length = 3) ∧
    (∀ n < 3, (Lattice.pattern ix).element n =
      .ok (RecordKind.element.pattern (ix + 21 + Int32.ofNat n))) ∧
    ∀ n ≥ 3, (Lattice.pattern ix).element n = .error .notFound := by
  have hactive := Lattice.active?_pattern ix
  have hlength : (Lattice.pattern ix).elements.length = 3 := rfl
  refine ⟨fun k => ⟨k.checkedPattern_eq ix, k.allTexts_pattern isWord_patternText ix⟩,
    Lattice.checkShape_pattern ix, ⟨_, hactive, hlength⟩, fun n hn => ?_, fun n hn => ?_⟩
  · rw [Lattice.element_eq_ok hactive (by omega)]
    simp only [Lattice.elements_pattern, List.getElem_map, List.getElem_range]
  · exact Lattice.element_eq_notFound hactive (by omega)

/-- The elements of the last index have the indices that come after the least one. -/
theorem every_index_has_a_pattern_last :
    (Lattice.pattern Int32.maxValue).element 2 =
      .ok (RecordKind.element.pattern (Int32.minValue + 22)) ∧
    (Lattice.pattern Int32.maxValue).element 3 = .error .notFound := by
  obtain ⟨-, -, -, helements, hnone⟩ := every_index_has_a_pattern Int32.maxValue
  exact ⟨helements 2 (by decide), hnone 3 (by decide)⟩

end Accelerator
