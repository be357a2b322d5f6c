import Accelerator.Proofs.Records

/-!
# What is reported of two lattices

The comparison of two lattices is silent but for one case: everything before the elements is equal,
and one of the lists of elements ends before the position that the common header `nEleMax` names
(`Lattice.FallsShort`).  Then one event is reported, and the lattices are not equal
(`Lattice.short_lists_are_reported`).
-/

namespace Accelerator

namespace Lattice

/-- All that is compared before the elements is equal, some elements are in use, and one of the
lattices does not have them all. -/
structure FallsShort (a b : Lattice) : Prop where
  headers : SameHeaders a b
  control : SameEntries a.control b.control
  ic : SameEntries a.ic b.ic
  inUse : 0 ≤ a.nEleMax.toInt
  short : (a.elements.length : Int) ≤ a.nEleMax.toInt ∨
    (b.elements.length : Int) ≤ a.nEleMax.toInt

variable {a b l : Lattice}

theorem active?_eq_none_iff : l.active? = none ↔
    0 ≤ l.nEleMax.toInt ∧ (l.elements.length : Int) ≤ l.nEleMax.toInt := by
  rw [← Option.not_isSome_iff_eq_none, isSome_active?_iff, not_or, Int.not_lt, Int.not_lt]

/-! ## The comparison of the elements -/

theorem compareActive_of_eq_none (h : a.active? = none ∨ b.active? = none) :
    compareActive a b = ⟨false, [shortEvent a b]⟩ := by
  rcases h with h | h
  · rw [compareActive, h]
  · rw [compareActive, h]
    cases a.active? <;> rfl

theorem events_compareActive_of_ne_none (ha : a.active? ≠ none) (hb : b.active? ≠ none) :
    (compareActive a b).events = [] := by
  obtain ⟨es, hes⟩ := Option.ne_none_iff_exists'.1 ha
  obtain ⟨fs, hfs⟩ := Option.ne_none_iff_exists'.1 hb
  rw [compareActive, hes, hfs]
  rfl

/-! ## The comparison of the lattices -/

theorem fallsShort_iff (a b : Lattice) :
    FallsShort a b ↔ headersEqual a b = true ∧ (a.active? = none ∨ b.active? = none) := by
  rw [headersEqual_iff, active?_eq_none_iff, active?_eq_none_iff]
  constructor
  · rintro ⟨hheaders, hcontrol, hic, hinUse, hshort⟩
    rw [← hheaders.nEleMax]
    exact ⟨⟨hheaders, hcontrol, hic⟩, hshort.imp (⟨hinUse, ·⟩) (⟨hinUse, ·⟩)⟩
  · rintro ⟨⟨hheaders, hcontrol, hic⟩, hnone⟩
    rw [← hheaders.nEleMax, ← and_or_left] at hnone
    exact ⟨hheaders, hcontrol, hic, hnone.1, hnone.2⟩

theorem compare_of_fallsShort (h : FallsShort a b) : compare a b = ⟨false, [shortEvent a b]⟩ := by
  obtain ⟨hheaders, hnone⟩ := (fallsShort_iff a b).1 h
  rw [compare, if_pos hheaders, compareActive_of_eq_none hnone]

theorem events_compare_of_not_fallsShort (h : ¬FallsShort a b) : (compare a b).events = [] := by
  rw [compare]
  split_ifs with hheaders
  · rw [fallsShort_iff, and_iff_right hheaders, not_or] at h
    exact events_compareActive_of_ne_none h.1 h.2
  · rfl

/-- If all but the elements of two lattices is equal, and one of the lists of elements ends before
the last one in use, then the comparison answers that they are not equal and reports that once, with
the header that they share and the lengths of the two lists in their order.  In all other cases
nothing is reported. -/
theorem short_lists_are_reported (a b : Lattice) :
    (FallsShort a b → a.nEleMax = b.nEleMax ∧ (a == b) = false ∧
      (compare a b).events = [{
        level := .trace
        message := "element array shorter than n_ele_max + 1"
        values := [("n_ele_max", .number a.nEleMax.toInt),
          ("left_len", .number a.elements.length), ("right_len", .number b.elements.length)] }]) ∧
    (¬FallsShort a b → (compare a b).events = []) := by
  constructor
  · intro h
    have hcompare := compare_of_fallsShort h
    exact ⟨h.headers.nEleMax, congrArg Verdict.equal hcompare, congrArg Verdict.events hcompare⟩
  · exact events_compare_of_not_fallsShort

/-- Two elements are in use, which only the first lattice has; and none is in use, so that it does
not matter that there are none. -/
theorem short_lists_are_reported_second :
    let a := { Lattice.blank with nEleMax := 1, elements := .replicate 2 Element.shape.blank }
    let b := { Lattice.blank with nEleMax := 1 }
    let c := { Lattice.blank with nEleMax := -1, elements := [] }
    (FallsShort a b ∧ (compare a b).events.map (·.values) =
      [[("n_ele_max", .number 1), ("left_len", .number 2), ("right_len", .number 1)]]) ∧
    ¬FallsShort c c ∧ (compare c c).events = [] := by
  intro a b c
  have hshort : FallsShort a b := by
    rw [fallsShort_iff]
    exact ⟨by decide +kernel, .inr rfl⟩
  have hnone : ¬FallsShort c c := fun h => absurd h.inUse (by decide)
  refine ⟨⟨hshort, ?_⟩, hnone, (short_lists_are_reported c c).2 hnone⟩
  rw [((short_lists_are_reported a b).1 hshort).2.2]
  rfl

end Lattice

end Accelerator
