import Accelerator.Catalogue
import Accelerator.Proofs.Lattice
import Accelerator.Proofs.Shape.Document

/-!
# What the record types have in common

For each of the 21 record types: its shape is sound, and records are equal iff their parts in use
are equal field by field (`RecordKind.equal_iff`).  All of a record is in use, except that a lattice
may have spare elements (`Lattice.withoutSpares`) and may not answer which elements it uses.
-/

namespace Accelerator

theorem Element.sound_shape : Element.shape.sound = true := by
  decide

namespace Lattice

theorem sound_shape : Lattice.shape.sound = true := by
  simp only [Lattice.shape, Shape.sound, Fields.sound, Element.sound_shape, Bool.and_true]
  decide

/-! ## Spare elements -/

/-- The lattice without the elements after the position `nEleMax`, which are all of them if that is
negative. -/
def withoutSpares (l : Lattice) : Lattice :=
  { l with elements := l.elements.take (l.nEleMax.toInt + 1).toNat }

theorem isSome_active?_iff (l : Lattice) : l.active?.isSome = true ↔
    l.nEleMax.toInt < 0 ∨ l.nEleMax.toInt < l.elements.length := by
  by_cases h : l.nEleMax.toInt < 0
  · rw [active?_of_neg h]
    exact iff_of_true rfl (.inl h)
  · rw [active?_of_nonneg (Int.not_lt.1 h), or_iff_right h]
    split_ifs with hlen
    · exact iff_of_true rfl hlen
    · exact iff_of_false Bool.false_ne_true hlen

/-- The elements in use are those that are not spare. -/
theorem active?_eq_some {l : Lattice} (h : l.active?.isSome = true) :
    l.active? = some l.withoutSpares.elements := by
  by_cases hneg : l.nEleMax.toInt < 0
  · rw [active?_of_neg hneg, withoutSpares, Int.toNat_of_nonpos (by omega)]
    rfl
  · have hlen := ((isSome_active?_iff l).1 h).resolve_left hneg
    have htake : (l.nEleMax.toInt + 1).toNat = l.nEleMax.toInt.toNat + 1 := by omega
    rw [active?_of_nonneg (Int.not_lt.1 hneg), if_pos hlen, withoutSpares, htake]

theorem shape_equal_eq (a b : Lattice) : Lattice.shape.equal a b =
    (headersEqual a b && allEqual (· == ·) a.elements b.elements) := by
  change (a.name == b.name && (a.lattice == b.lattice && (a.inputFileName == b.inputFileName &&
    (a.title == b.title && (a.x == b.x && (a.y == b.y && (a.z == b.z &&
    (a.parameters == b.parameters && (a.version == b.version && (a.nEleUse == b.nEleUse &&
    (a.nEleMax == b.nEleMax && (a.nControlMax == b.nControlMax && (a.nIcMax == b.nIcMax &&
    (a.inputTaylorOrder == b.inputTaylorOrder && (a.template == b.template &&
    (allEqual (· == ·) a.control b.control && (allEqual (· == ·) a.ic b.ic &&
    (allEqual (· == ·) a.elements b.elements && true)))))))))))))))))) = _
  simp only [headersEqual, Bool.and_assoc, Bool.and_true]

theorem compareActive_iff_exists (a b : Lattice) : (compareActive a b).equal = true ↔
    ∃ es fs, a.active? = some es ∧ b.active? = some fs ∧ allEqual (· == ·) es fs = true := by
  unfold compareActive
  split
  · next es fs hes hfs =>
    constructor
    · intro h
      exact ⟨es, fs, hes, hfs, h⟩
    · rintro ⟨es', fs', hes', hfs', h⟩
      rw [hes, Option.some_inj] at hes'
      rw [hfs, Option.some_inj] at hfs'
      subst hes' hfs'
      exact h
  · next hnone =>
    apply iff_of_false Bool.false_ne_true
    rintro ⟨es, fs, hes, hfs, -⟩
    exact hnone es fs hes hfs

/-- Lattices are equal iff both answer which elements they use, and are equal field by field without
their spare elements. -/
theorem beq_iff_withoutSpares (a b : Lattice) : (a == b) = true ↔
    a.active?.isSome = true ∧ b.active?.isSome = true ∧
      Lattice.shape.equal a.withoutSpares b.withoutSpares = true := by
  rw [beq_eq_and, shape_equal_eq, Bool.and_eq_true, Bool.and_eq_true, compareActive_iff_exists]
  constructor
  · rintro ⟨hhead, es, fs, hes, hfs, heq⟩
    have ha : a.active?.isSome = true := by rw [hes]; rfl
    have hb : b.active?.isSome = true := by rw [hfs]; rfl
    rw [active?_eq_some ha, Option.some_inj] at hes
    rw [active?_eq_some hb, Option.some_inj] at hfs
    subst hes hfs
    exact ⟨ha, hb, hhead, heq⟩
  · rintro ⟨ha, hb, hhead, heq⟩
    exact ⟨hhead, _, _, active?_eq_some ha, active?_eq_some hb, heq⟩

/-- The floats of a lattice are those of its elements, and the others. -/
theorem allReals_iff (p : Float → Prop) (l : Lattice) : Lattice.shape.AllReals p l ↔
    Lattice.shape.AllReals p { l with elements := [] } ∧
      ∀ e ∈ l.elements, Element.shape.AllReals p e := by
  simp only [Lattice.shape, Shape.AllReals, Fields.AllReals, List.not_mem_nil, false_implies,
    implies_true, true_and, and_true, and_assoc]

theorem allReals_withoutSpares {p : Float → Prop} {l : Lattice} (h : Lattice.shape.AllReals p l) :
    Lattice.shape.AllReals p l.withoutSpares := by
  obtain ⟨hrest, helements⟩ := (allReals_iff p l).1 h
  rw [allReals_iff]
  refine ⟨hrest, ?_⟩
  intro e he
  exact helements e (List.mem_of_mem_take he)

theorem withoutSpares_mapReals (g : Float → Float) (l : Lattice) :
    (Lattice.shape.mapReals g l).withoutSpares = Lattice.shape.mapReals g l.withoutSpares :=
  congrArg (fun es => { Lattice.shape.mapReals g l with elements := es }) List.map_take.symm

theorem isSome_active?_mapReals (g : Float → Float) (l : Lattice) :
    (Lattice.shape.mapReals g l).active?.isSome = true ↔ l.active?.isSome = true := by
  rw [isSome_active?_iff, isSome_active?_iff]
  change _ ∨ _ < ((l.elements.map (Element.shape.mapReals g)).length : Int) ↔ _
  rw [List.length_map]
  rfl

end Lattice

namespace RecordKind

/-! ## Equality of records -/

variable (k : RecordKind)

/-- The shape of the records of a kind. -/
abbrev shape : Shape k.Carrier :=
  Record.shape

/-- The part of a record that equality looks at. -/
def inUse : (k : RecordKind) → k.Carrier → k.Carrier
  | .lattice, l => Lattice.withoutSpares l
  | _, r => r

/-- Equality has an answer other than no: a lattice has the elements that its header counts. -/
def Answers : (k : RecordKind) → k.Carrier → Prop
  | .lattice, l => (Lattice.active? l).isSome = true
  | _, _ => True

theorem sound_shape : k.shape.sound = true := by
  cases k with
  | element => exact Element.sound_shape
  | lattice => exact Lattice.sound_shape
  | _ => decide

theorem inUse_of_ne {k : RecordKind} (h : k ≠ .lattice) (r : k.Carrier) : k.inUse r = r := by
  cases k <;> first | rfl | exact absurd rfl h

theorem answers_of_ne {k : RecordKind} (h : k ≠ .lattice) (r : k.Carrier) : k.Answers r := by
  cases k <;> trivial

/-- Records are equal iff their parts in use are equal field by field. -/
theorem equal_iff (a b : k.Carrier) : Record.equal a b = true ↔
    k.Answers a ∧ k.Answers b ∧ k.shape.equal (k.inUse a) (k.inUse b) = true := by
  cases k
  case lattice => exact Lattice.beq_iff_withoutSpares a b
  all_goals exact ⟨fun h => ⟨trivial, trivial, h⟩, fun h => h.2.2⟩

theorem allReals_inUse {p : Float → Prop} {r : k.Carrier} (h : k.shape.AllReals p r) :
    k.shape.AllReals p (k.inUse r) := by
  cases k
  case lattice => exact Lattice.allReals_withoutSpares h
  all_goals exact h

theorem inUse_mapReals (g : Float → Float) (r : k.Carrier) :
    k.inUse (k.shape.mapReals g r) = k.shape.mapReals g (k.inUse r) := by
  cases k
  case lattice => exact Lattice.withoutSpares_mapReals g r
  all_goals rfl

theorem answers_mapReals (g : Float → Float) (r : k.Carrier) :
    k.Answers (k.shape.mapReals g r) ↔ k.Answers r := by
  cases k
  case lattice => exact Lattice.isSome_active?_mapReals g r
  all_goals exact Iff.rfl

end RecordKind

end Accelerator
