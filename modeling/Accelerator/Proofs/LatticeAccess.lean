import Accelerator.Proofs.Records

/-!
# What a lattice shows

A lattice shows its elements in use, one of them by its position, and whether its headers fit its
lists.  All of that is the same for equal lattices, up to equality of elements
(`Lattice.shows_same_of_beq`), and the very same for lattices that differ in spare elements alone;
these cannot be told apart by `==` either (`Lattice.spares_do_not_show`).
-/

namespace Accelerator

/-! ## Counts -/

theorem headerCount_of_neg {value : Int32} (h : value.toInt < 0) (header : String) :
    headerCount header value = .error (.invalid
      (header ++ " is negative (" ++ String.ofList (intText value.toInt) ++ ")")) := by
  rw [headerCount, if_pos (Int32.lt_iff_toInt_lt.2 h)]

theorem headerCount_of_nonneg {value : Int32} (h : 0 ≤ value.toInt) (header : String) :
    headerCount header value = .ok value.toInt.toNat := by
  rw [headerCount, if_neg]
  rw [Int32.lt_iff_toInt_lt]
  exact Int.not_lt.2 h

namespace Lattice

variable {a b l : Lattice}

/-! ## The check of the headers -/

/-- The part of the check that comes after that of the elements. -/
def checkLinks (l : Lattice) : Except LatticeError Unit := do
  let controls ← headerCount "n_control_max" l.nControlMax
  atLeast "control" controls l.control.length
  let references ← headerCount "n_ic_max" l.nIcMax
  atLeast "ic" references l.ic.length

/-- If a lattice has its elements in use, then of the elements the check only reads the header. -/
theorem checkShape_of_isSome_active? (h : l.active?.isSome = true) :
    l.checkShape = headerCount "n_ele_max" l.nEleMax >>= fun _ => l.checkLinks := by
  change (headerCount "n_ele_max" l.nEleMax >>= fun last =>
    atLeast "ele" (last + 1) l.elements.length >>= fun _ => l.checkLinks) = _
  rcases lt_or_ge l.nEleMax.toInt 0 with hneg | hnonneg
  · rw [headerCount_of_neg hneg]
    rfl
  · have hlen := ((isSome_active?_iff l).1 h).resolve_left (not_lt.2 hnonneg)
    have hele : atLeast "ele" (l.nEleMax.toInt.toNat + 1) l.elements.length = .ok () := by
      rw [atLeast, if_neg (by omega)]
    rw [headerCount_of_nonneg hnonneg]
    change (atLeast "ele" (l.nEleMax.toInt.toNat + 1) l.elements.length >>= _) = _
    rw [hele]
    rfl

/-! ## Equal lattices -/

theorem checkShape_eq_of_beq (h : (a == b) = true) : a.checkShape = b.checkShape := by
  obtain ⟨ha, hb, -⟩ := (beq_iff_withoutSpares a b).1 h
  obtain ⟨hsame, ⟨hcontrol, -⟩, ⟨hic, -⟩, -⟩ := (beq_iff a b).1 h
  rw [checkShape_of_isSome_active? ha, checkShape_of_isSome_active? hb, checkLinks, checkLinks,
    hsame.nEleMax, hsame.nControlMax, hsame.nIcMax, hcontrol, hic]

/-- Equal lattices both have their elements in use, and these are equal. -/
theorem exists_active?_of_beq (h : (a == b) = true) :
    ∃ es fs, a.active? = some es ∧ b.active? = some fs ∧ SameEntries es fs := by
  rw [beq_eq_and, Bool.and_eq_true, compareActive_iff_exists] at h
  obtain ⟨-, es, fs, hes, hfs, heq⟩ := h
  exact ⟨es, fs, hes, hfs, (allEqual_iff_sameEntries es fs).1 heq⟩

theorem element_eq_ok {es : List Element} (h : l.active? = some es) {ix : Nat}
    (hix : ix < es.length) : l.element ix = .ok es[ix] := by
  rw [element, h, Option.bind_some, List.getElem?_eq_getElem hix]

theorem element_eq_notFound {es : List Element} (h : l.active? = some es) {ix : Nat}
    (hix : es.length ≤ ix) : l.element ix = .error .notFound := by
  rw [element, h, Option.bind_some, List.getElem?_eq_none hix]

/-- Equal lattices show the same: the check of their headers comes to the same result, both have
their elements in use, as many and equal pair by pair, and each of these is the one at its position
in both lattices, which have no others. -/
theorem shows_same_of_beq (h : (a == b) = true) :
    a.checkShape = b.checkShape ∧
    ∃ es fs, a.active? = some es ∧ b.active? = some fs ∧ SameEntries es fs ∧
      ∀ ix, (ix < es.length ∧
          ∃ e f, a.element ix = .ok e ∧ b.element ix = .ok f ∧ (e == f) = true) ∨
        (es.length ≤ ix ∧ a.element ix = .error .notFound ∧ b.element ix = .error .notFound) := by
  obtain ⟨es, fs, hes, hfs, hlen, heq⟩ := exists_active?_of_beq h
  refine ⟨checkShape_eq_of_beq h, es, fs, hes, hfs, ⟨hlen, heq⟩, ?_⟩
  intro ix
  rcases Nat.lt_or_ge ix es.length with hix | hix
  · have hix' : ix < fs.length := hlen ▸ hix
    exact .inl ⟨hix, _, _, element_eq_ok hes hix, element_eq_ok hfs hix', heq ix hix hix'⟩
  · exact .inr ⟨hix, element_eq_notFound hes hix, element_eq_notFound hfs (hlen ▸ hix)⟩

/-- Two lattices that differ in the sign of a zero of the element in use and in what is spare. -/
theorem shows_same_of_beq_zero :
    let a := { Lattice.blank with nControlMax := 1 }
    let b := { a with elements := [{ Element.shape.blank with s := -0.0 }, Element.shape.blank] }
    (a == b) = true ∧ a.checkShape = b.checkShape ∧
      ∃ e f, a.element 0 = .ok e ∧ b.element 0 = .ok f ∧ (e == f) = true := by
  intro a b
  have heq : (a == b) = true := by decide +kernel
  obtain ⟨hcheck, es, -, hes, -, -, helement⟩ := shows_same_of_beq heq
  obtain rfl : [Element.shape.blank] = es := Option.some_inj.1 hes
  refine ⟨heq, hcheck, ?_⟩
  rcases helement 0 with ⟨-, h⟩ | ⟨h, -⟩
  · exact h
  · exact absurd h (by decide)

/-! ## Other spare elements -/

/-- A list can take the place of the elements of a lattice without a change to those in use: both
have all slots up to the position `nEleMax`, with the same elements.  If that is negative, any list
can. -/
def KeepsInUse (l : Lattice) (es : List Element) : Prop :=
  ∀ k : Nat, (k : Int) ≤ l.nEleMax.toInt → k < l.elements.length ∧ es[k]? = l.elements[k]?

section Spares

variable {es : List Element}

theorem KeepsInUse.symm (h : l.KeepsInUse es) :
    { l with elements := es }.KeepsInUse l.elements := by
  intro k hk
  obtain ⟨hlt, hsame⟩ := h k hk
  rw [List.getElem?_eq_getElem hlt] at hsame
  obtain ⟨hlt', -⟩ := List.getElem?_eq_some_iff.1 hsame
  exact ⟨hlt', by rw [hsame, List.getElem?_eq_getElem hlt]⟩

theorem KeepsInUse.isSome_active? (h : l.KeepsInUse es) : l.active?.isSome = true := by
  rw [isSome_active?_iff]
  by_cases hneg : l.nEleMax.toInt < 0
  · exact .inl hneg
  · obtain ⟨hlt, -⟩ := h l.nEleMax.toInt.toNat (by omega)
    exact .inr (by omega)

theorem KeepsInUse.withoutSpares_eq (h : l.KeepsInUse es) :
    l.withoutSpares = { l with elements := es }.withoutSpares := by
  have htake : l.elements.take (l.nEleMax.toInt + 1).toNat =
      es.take (l.nEleMax.toInt + 1).toNat := by
    apply List.ext_getElem?
    intro k
    rw [List.getElem?_take, List.getElem?_take]
    split_ifs with hk
    · exact (h k (by omega)).2.symm
    · rfl
  exact congrArg (fun fs => { l with elements := fs }) htake

theorem KeepsInUse.active?_eq (h : l.KeepsInUse es) :
    l.active? = { l with elements := es }.active? := by
  rw [active?_eq_some h.isSome_active?, active?_eq_some h.symm.isSome_active?, h.withoutSpares_eq]

theorem KeepsInUse.checkShape_eq (h : l.KeepsInUse es) :
    l.checkShape = { l with elements := es }.checkShape := by
  rw [checkShape_of_isSome_active? h.isSome_active?,
    checkShape_of_isSome_active? h.symm.isSome_active?]
  rfl

theorem KeepsInUse.beq_eq (h : l.KeepsInUse es) (b : Lattice) :
    (l == b) = ({ l with elements := es } == b) ∧ (b == l) = (b == { l with elements := es }) := by
  constructor
  all_goals
    rw [Bool.eq_iff_iff, beq_iff_withoutSpares, beq_iff_withoutSpares, h.isSome_active?,
      h.symm.isSome_active?, h.withoutSpares_eq]

/-- Spare elements do not show: a lattice that gets others in their place stays equal to the same
lattices, has the same elements in use and the same one at each position, and the check of its
headers comes to the same result. -/
theorem spares_do_not_show (h : l.KeepsInUse es) :
    (∀ b : Lattice, (l == b) = ({ l with elements := es } == b) ∧
      (b == l) = (b == { l with elements := es })) ∧
    (∃ fs, l.active? = some fs ∧ { l with elements := es }.active? = some fs) ∧
    (∀ ix, l.element ix = { l with elements := es }.element ix) ∧
    l.checkShape = { l with elements := es }.checkShape := by
  refine ⟨h.beq_eq, ?_, ?_, h.checkShape_eq⟩
  · obtain ⟨fs, hfs⟩ := Option.isSome_iff_exists.1 h.isSome_active?
    exact ⟨fs, hfs, h.active?_eq ▸ hfs⟩
  · intro ix
    rw [element, element, h.active?_eq]

end Spares

/-- A spare element that differs from itself is added, and all elements are taken away where none is
in use. -/
theorem spares_do_not_show_blank :
    let es := [Element.shape.blank, { Element.shape.blank with s := Float.nan }]
    let c := { Lattice.blank with nEleMax := -1 }
    (Lattice.blank.KeepsInUse es ∧
      (Lattice.blank == Lattice.blank) = ({ Lattice.blank with elements := es } == Lattice.blank)) ∧
    c.KeepsInUse [] ∧ c.checkShape = { c with elements := [] }.checkShape := by
  intro es c
  have hes : Lattice.blank.KeepsInUse es := by
    intro k hk
    have hmax : Lattice.blank.nEleMax.toInt = 0 := rfl
    obtain rfl : k = 0 := by omega
    exact ⟨by decide, rfl⟩
  have hnil : c.KeepsInUse [] := by
    intro k hk
    have hmax : c.nEleMax.toInt = -1 := rfl
    omega
  exact ⟨⟨hes, ((spares_do_not_show hes).1 Lattice.blank).1⟩, hnil, (spares_do_not_show hnil).2.2.2⟩

end Lattice

end Accelerator
