import Accelerator.Proofs.LatticeAccess

/-!
# Headers and lists

Each of three headers of a lattice promises entries of a list (`Lattice.promises`).  The check of
the headers finds the first promise that is not kept and says what is wrong with it
(`Lattice.checkShape_eq_find?`), and an element is found at just those positions that the header
`nEleMax` names, if the list has them all (`Lattice.element_of_inUse`,
`Lattice.element_of_not_inUse`).  So after a check that went well every position up to `nEleMax` has
its element (`Lattice.headers_agree_with_lists`).
-/

namespace Accelerator

/-- A header that is not negative is a count, and a machine word holds it and the next number. -/
theorem exists_headerCount_eq {value : Int32} (h : 0 ≤ value.toInt) (header : String) :
    ∃ count, headerCount header value = .ok count ∧ (count : Int) = value.toInt ∧
      count + 1 < USize.size := by
  have hlt := value.toInt_lt
  have hword := USize.le_size
  exact ⟨_, headerCount_of_nonneg h header, Int.toNat_of_nonneg h, by omega⟩

/-! ## Promises -/

/-- What a header says of a list: that it has as many entries as its value, and some beyond. -/
structure Promise where
  header : String
  value : Int32
  field : String
  beyond : Nat
  found : Nat

namespace Promise

variable (p : Promise)

/-- How many entries the list needs. -/
def needed : Int :=
  p.value.toInt + p.beyond

/-- The header is not negative, and the list has the entries. -/
def Kept : Prop :=
  0 ≤ p.value.toInt ∧ p.needed ≤ p.found

instance : Decidable p.Kept :=
  inferInstanceAs (Decidable (_ ∧ _))

/-- What is wrong with a promise that is not kept. -/
def failure : LatticeError :=
  if p.value.toInt < 0 then
    .invalid (p.header ++ " is negative (" ++ String.ofList (intText p.value.toInt) ++ ")")
  else .tooShort p.field p.needed.toNat p.found

/-- Checks the header, and the list against it. -/
def check : Except LatticeError Unit := do
  let count ← headerCount p.header p.value
  atLeast p.field (count + p.beyond) p.found

theorem check_eq : p.check = if p.Kept then .ok () else .error p.failure := by
  rw [check, failure]
  rcases lt_or_ge p.value.toInt 0 with hneg | hnonneg
  · rw [headerCount_of_neg hneg, if_neg (fun h => Int.not_lt.2 h.1 hneg), if_pos hneg]
    rfl
  · rw [headerCount_of_nonneg hnonneg, if_neg (Int.not_lt.2 hnonneg)]
    change atLeast p.field (p.value.toInt.toNat + p.beyond) p.found = _
    have hneeded : p.needed = (p.value.toInt.toNat + p.beyond : Nat) := by
      rw [needed]
      omega
    rw [atLeast, hneeded, Int.toNat_natCast]
    by_cases hfound : p.found < p.value.toInt.toNat + p.beyond
    · rw [if_pos hfound, if_neg]
      rintro ⟨-, henough⟩
      omega
    · rw [if_neg hfound, if_pos ⟨hnonneg, by omega⟩]

/-- Checks that come one after the other end with the first promise that is not kept. -/
theorem forM_check (ps : List Promise) : forM ps check =
    match ps.find? fun p => ¬p.Kept with
    | some p => .error p.failure
    | none => .ok () := by
  induction ps with
  | nil => rfl
  | cons p ps ih =>
    rw [List.forM_cons, check_eq]
    by_cases hkept : p.Kept
    · rw [if_pos hkept, List.find?_cons_of_neg (by simpa using hkept), ← ih]
      rfl
    · rw [if_neg hkept, List.find?_cons_of_pos (by simpa using hkept)]
      rfl

end Promise

namespace Lattice

/-! ## The check of the headers -/

/-- The promises of the headers, in the order in which they are checked.  The header of the elements
is a position, so that one more element is needed. -/
def promises (l : Lattice) : List Promise := [
  ⟨"n_ele_max", l.nEleMax, "ele", 1, l.elements.length⟩,
  ⟨"n_control_max", l.nControlMax, "control", 0, l.control.length⟩,
  ⟨"n_ic_max", l.nIcMax, "ic", 0, l.ic.length⟩]

variable {l : Lattice}

theorem checkShape_eq_forM (l : Lattice) : l.checkShape = forM l.promises Promise.check := by
  simp only [checkShape, promises, List.forM_cons, List.forM_nil, Promise.check, bind_assoc,
    Nat.add_zero, bind_pure_unit]

/-- The check says what is wrong with the first promise that is not kept. -/
theorem checkShape_eq_find? (l : Lattice) : l.checkShape =
    match l.promises.find? fun p => ¬p.Kept with
    | some p => .error p.failure
    | none => .ok () := by
  rw [checkShape_eq_forM, Promise.forM_check]

theorem checkShape_eq_error_iff {err : LatticeError} : l.checkShape = .error err ↔
    ∃ p, l.promises.find? (fun p => ¬p.Kept) = some p ∧ err = p.failure := by
  rw [checkShape_eq_find?]
  cases l.promises.find? fun p => ¬p.Kept with
  | none => simp
  | some p => simp [eq_comm]

theorem checkShape_eq_ok_iff : l.checkShape = .ok () ↔ ∀ p ∈ l.promises, p.Kept := by
  rw [checkShape_eq_find?]
  cases hfind : l.promises.find? fun p => ¬p.Kept with
  | none => simpa using hfind
  | some p =>
    have hbroken : ¬p.Kept := by simpa using List.find?_some hfind
    exact iff_of_false nofun fun h => hbroken (h p (List.mem_of_find?_eq_some hfind))

theorem forall_kept_iff : (∀ p ∈ l.promises, p.Kept) ↔
    (0 ≤ l.nEleMax.toInt ∧ l.nEleMax.toInt < l.elements.length) ∧
    (0 ≤ l.nControlMax.toInt ∧ l.nControlMax.toInt ≤ l.control.length) ∧
    (0 ≤ l.nIcMax.toInt ∧ l.nIcMax.toInt ≤ l.ic.length) := by
  simp [promises, Promise.Kept, Promise.needed]

theorem lt_length_of_checkShape (h : l.checkShape = .ok ()) :
    l.nEleMax.toInt < l.elements.length :=
  (forall_kept_iff.1 (checkShape_eq_ok_iff.1 h)).1.2

/-! ## The elements by their positions -/

theorem bind_active?_getElem? (l : Lattice) (ix : Nat) : l.active?.bind (·[ix]?) =
    if (ix : Int) ≤ l.nEleMax.toInt ∧ l.nEleMax.toInt < l.elements.length then l.elements[ix]?
    else none := by
  by_cases hneg : l.nEleMax.toInt < 0
  · rw [active?_of_neg hneg, if_neg (by omega)]
    rfl
  · rw [active?_of_nonneg (Int.not_lt.1 hneg)]
    by_cases hlen : l.nEleMax.toInt < l.elements.length
    · rw [if_pos hlen, Option.bind_some, List.getElem?_take]
      exact if_congr (by omega) rfl rfl
    · rw [if_neg hlen, if_neg fun h => hlen h.2]
      rfl

theorem element_of_inUse {ix : Nat} (hix : (ix : Int) ≤ l.nEleMax.toInt)
    (hlen : l.nEleMax.toInt < l.elements.length) :
    ∃ e, l.elements[ix]? = some e ∧ l.element ix = .ok e := by
  have hlt : ix < l.elements.length := by omega
  refine ⟨l.elements[ix], List.getElem?_eq_getElem hlt, ?_⟩
  rw [element, bind_active?_getElem?, if_pos ⟨hix, hlen⟩, List.getElem?_eq_getElem hlt]

theorem element_of_not_inUse {ix : Nat}
    (h : ¬((ix : Int) ≤ l.nEleMax.toInt ∧ l.nEleMax.toInt < l.elements.length)) :
    l.element ix = .error .notFound := by
  rw [element, bind_active?_getElem?, if_neg h]

/-- The check of the headers goes well iff each of the three lists has what its header promises.
If not, it says what is wrong with the first one that has not: the header is negative, or how many
entries are needed and how many there are.  An element is found at a position iff that is not beyond
`nEleMax` and `nEleMax` is in the list, and it is the one of the list.  So after a check that went
well there are elements at just the positions up to `nEleMax`.  The count of a header that is not
negative is its value, and it and the next number are below the limit of machine words. -/
theorem headers_agree_with_lists (l : Lattice) :
    (l.checkShape = .ok () ↔
      (0 ≤ l.nEleMax.toInt ∧ l.nEleMax.toInt < l.elements.length) ∧
      (0 ≤ l.nControlMax.toInt ∧ l.nControlMax.toInt ≤ l.control.length) ∧
      (0 ≤ l.nIcMax.toInt ∧ l.nIcMax.toInt ≤ l.ic.length)) ∧
    (∀ err, l.checkShape = .error err ↔
      ∃ p, l.promises.find? (fun p => ¬p.Kept) = some p ∧ err = p.failure) ∧
    (∀ ix : Nat,
      (((ix : Int) ≤ l.nEleMax.toInt ∧ l.nEleMax.toInt < l.elements.length) ∧
        ∃ e, l.elements[ix]? = some e ∧ l.element ix = .ok e) ∨
      ¬((ix : Int) ≤ l.nEleMax.toInt ∧ l.nEleMax.toInt < l.elements.length) ∧
        l.element ix = .error .notFound) ∧
    (l.checkShape = .ok () →
      ∀ ix : Nat, (∃ e, l.element ix = .ok e) ↔ (ix : Int) ≤ l.nEleMax.toInt) ∧
    (∀ header value, 0 ≤ value.toInt → ∃ count, headerCount header value = .ok count ∧
      (count : Int) = value.toInt ∧ count + 1 < USize.size) := by
  refine ⟨checkShape_eq_ok_iff.trans forall_kept_iff, fun err => checkShape_eq_error_iff, ?_, ?_,
    fun header _ h => exists_headerCount_eq h header⟩
  · intro ix
    by_cases h : (ix : Int) ≤ l.nEleMax.toInt ∧ l.nEleMax.toInt < l.elements.length
    · exact .inl ⟨h, element_of_inUse h.1 h.2⟩
    · exact .inr ⟨h, element_of_not_inUse h⟩
  · intro hcheck ix
    have hlen := lt_length_of_checkShape hcheck
    constructor
    · rintro ⟨e, he⟩
      by_contra hix
      rw [element_of_not_inUse fun h => hix h.1] at he
      cases he
    · intro hix
      obtain ⟨e, -, he⟩ := element_of_inUse hix hlen
      exact ⟨e, he⟩

/-- Two broken promises each: the first one counts, whether entries are missing or a header is
negative.  Where all are kept, the last position has an element and the next one has none. -/
theorem headers_agree_with_lists_broken :
    { Lattice.blank with nEleMax := 4, nControlMax := -3 }.checkShape =
      .error (.tooShort "ele" 5 1) ∧
    { Lattice.blank with nControlMax := -3, nIcMax := 2 }.checkShape =
      .error (.invalid "n_control_max is negative (-3)") ∧
    (Lattice.pattern 1).checkShape = .ok () ∧
    (∃ e, (Lattice.pattern 1).element 2 = .ok e) ∧
    ¬∃ e, (Lattice.pattern 1).element 3 = .ok e := by
  have hcheck : (Lattice.pattern 1).checkShape = .ok () := rfl
  obtain ⟨-, -, -, hfound, -⟩ := headers_agree_with_lists (Lattice.pattern 1)
  refine ⟨?_, ?_, hcheck, (hfound hcheck 2).2 (by decide), mt (hfound hcheck 3).1 (by decide)⟩
  · exact ((headers_agree_with_lists _).2.1 _).2 ⟨_, rfl, by decide⟩
  · exact ((headers_agree_with_lists _).2.1 _).2 ⟨_, rfl, by decide +kernel⟩

end Lattice

end Accelerator
