import Accelerator.Model.Lattice.Equality
import Accelerator.Proofs.Equality

/-!
# When two lattices are equal

Equality of lattices spelled out by position (`Lattice.beq_iff_and_reads_inside`): the headers, the
links and the cross references over their whole length, and the slots that the header `nEleMax`
counts.  A comparison that reads these slots one by one, and has no answer if it reads outside a
list (`Lattice.beqByPosition?`), always has an answer and it is that of `==`.
-/

namespace Accelerator

namespace Lattice

/-! ## Headers, entries and slots -/

/-- All that is no list is equal, each part under its own rule. -/
structure SameHeaders (a b : Lattice) : Prop where
  name : a.name = b.name
  lattice : a.lattice = b.lattice
  inputFileName : a.inputFileName = b.inputFileName
  title : a.title = b.title
  x : (a.x == b.x) = true
  y : (a.y == b.y) = true
  z : (a.z == b.z) = true
  parameters : (a.parameters == b.parameters) = true
  version : a.version = b.version
  nEleUse : a.nEleUse = b.nEleUse
  nEleMax : a.nEleMax = b.nEleMax
  nControlMax : a.nControlMax = b.nControlMax
  nIcMax : a.nIcMax = b.nIcMax
  inputTaylorOrder : a.inputTaylorOrder = b.inputTaylorOrder
  template : (a.template == b.template) = true

/-- Two lists have one length and equal entries at every position. -/
def SameEntries {α : Type} [BEq α] (as bs : List α) : Prop :=
  as.length = bs.length ∧ ∀ k (ha : k < as.length) (hb : k < bs.length), (as[k] == bs[k]) = true

/-- Two lists both go on beyond the position `last`, and are equal at every position up to it. -/
def SameSlots (last : Int) (as bs : List Element) : Prop :=
  last < as.length ∧ last < bs.length ∧
    ∀ k (ha : k < as.length) (hb : k < bs.length), (k : Int) ≤ last → (as[k] == bs[k]) = true

theorem allEqual_iff_sameEntries {α : Type} [BEq α] (as bs : List α) :
    allEqual (· == ·) as bs = true ↔ SameEntries as bs :=
  allEqual_iff_getElem _ as bs

theorem headersEqual_iff (a b : Lattice) : headersEqual a b = true ↔
    SameHeaders a b ∧ SameEntries a.control b.control ∧ SameEntries a.ic b.ic := by
  simp only [headersEqual, Bool.and_eq_true, beq_iff_eq, allEqual_iff_sameEntries, and_assoc]
  constructor
  · rintro ⟨h1, h2, h3, h4, h5, h6, h7, h8, h9, h10, h11, h12, h13, h14, h15, hc, hi⟩
    exact ⟨⟨h1, h2, h3, h4, h5, h6, h7, h8, h9, h10, h11, h12, h13, h14, h15⟩, hc, hi⟩
  · rintro ⟨⟨h1, h2, h3, h4, h5, h6, h7, h8, h9, h10, h11, h12, h13, h14, h15⟩, hc, hi⟩
    exact ⟨h1, h2, h3, h4, h5, h6, h7, h8, h9, h10, h11, h12, h13, h14, h15, hc, hi⟩

/-! ## The elements in use -/

theorem active?_of_neg {l : Lattice} (h : l.nEleMax.toInt < 0) : l.active? = some [] := by
  rw [active?, if_pos (Int32.lt_iff_toInt_lt.2 h)]

theorem active?_of_nonneg {l : Lattice} (h : 0 ≤ l.nEleMax.toInt) : l.active? =
    if l.nEleMax.toInt < l.elements.length then
      some (l.elements.take (l.nEleMax.toInt.toNat + 1))
    else none := by
  have hneg : ¬l.nEleMax < 0 := fun hlt => Int.not_lt.2 h (Int32.lt_iff_toInt_lt.1 hlt)
  rw [active?, if_neg hneg]
  exact if_congr (by omega) rfl rfl

/-- The first `n + 1` entries are equal iff those at the positions up to `n` are. -/
theorem allEqual_take_iff {as bs : List Element} {last : Int} (h : 0 ≤ last)
    (ha : last < as.length) (hb : last < bs.length) :
    allEqual (· == ·) (as.take (last.toNat + 1)) (bs.take (last.toNat + 1)) = true ↔
      SameSlots last as bs := by
  have hlen : (as.take (last.toNat + 1)).length = (bs.take (last.toNat + 1)).length := by
    rw [List.length_take, List.length_take]
    omega
  rw [allEqual_iff_getElem, and_iff_right hlen]
  constructor
  · intro heq
    refine ⟨ha, hb, ?_⟩
    intro k hka hkb hk
    have := heq k (by rw [List.length_take]; omega) (by rw [List.length_take]; omega)
    rwa [List.getElem_take, List.getElem_take] at this
  · rintro ⟨-, -, heq⟩ k hka hkb
    rw [List.length_take] at hka hkb
    rw [List.getElem_take, List.getElem_take]
    exact heq k (by omega) (by omega) (by omega)

theorem compareActive_iff {a b : Lattice} (h : a.nEleMax = b.nEleMax) :
    (compareActive a b).equal = true ↔
      a.nEleMax.toInt < 0 ∨ SameSlots a.nEleMax.toInt a.elements b.elements := by
  by_cases hneg : a.nEleMax.toInt < 0
  · rw [compareActive, active?_of_neg hneg, active?_of_neg (h ▸ hneg)]
    exact iff_of_true rfl (.inl hneg)
  have hnn : 0 ≤ a.nEleMax.toInt := Int.not_lt.1 hneg
  rw [or_iff_right hneg, compareActive, active?_of_nonneg hnn, active?_of_nonneg (h ▸ hnn), ← h]
  by_cases ha : a.nEleMax.toInt < a.elements.length
  · by_cases hb : a.nEleMax.toInt < b.elements.length
    · rw [if_pos ha, if_pos hb]
      exact allEqual_take_iff hnn ha hb
    · rw [if_pos ha, if_neg hb]
      apply iff_of_false Bool.false_ne_true
      intro hs
      exact hb hs.2.1
  · rw [if_neg ha]
    apply iff_of_false Bool.false_ne_true
    intro hs
    exact ha hs.1

theorem beq_eq_and (a b : Lattice) :
    (a == b) = (headersEqual a b && (compareActive a b).equal) := by
  change (compare a b).equal = _
  rw [compare]
  cases headersEqual a b <;> rfl

theorem beq_iff (a b : Lattice) : (a == b) = true ↔
    SameHeaders a b ∧ SameEntries a.control b.control ∧ SameEntries a.ic b.ic ∧
      (a.nEleMax.toInt < 0 ∨ SameSlots a.nEleMax.toInt a.elements b.elements) := by
  rw [beq_eq_and, Bool.and_eq_true, headersEqual_iff, and_assoc, and_assoc]
  exact and_congr_right fun h => by rw [compareActive_iff h.nEleMax]

/-! ## Reading by position -/

/-- Compares `n` slots of two lists one after the other, from the position `k` on.  There is no
answer if a position outside one of the lists is read. -/
def slotsEqual? (as bs : List Element) : (k n : Nat) → Option Bool
  | _, 0 => some true
  | k, n + 1 =>
    match as[k]?, bs[k]? with
    | some x, some y => if x == y then slotsEqual? as bs (k + 1) n else some false
    | _, _ => none

/-- Compares two lattices, the slots in use by their positions. -/
def beqByPosition? (a b : Lattice) : Option Bool :=
  if ¬headersEqual a b then some false
  else if a.nEleMax.toInt < 0 then some true
  else if a.nEleMax.toInt < a.elements.length ∧ a.nEleMax.toInt < b.elements.length then
    slotsEqual? a.elements b.elements 0 (a.nEleMax.toInt.toNat + 1)
  else some false

/-- As long as both lists have the slots, they are all read inside, and compared like entries. -/
theorem slotsEqual?_eq {as bs : List Element} {k n : Nat} (ha : k + n ≤ as.length)
    (hb : k + n ≤ bs.length) : slotsEqual? as bs k n =
      some (allEqual (· == ·) ((as.drop k).take n) ((bs.drop k).take n)) := by
  induction n generalizing k with
  | zero => rfl
  | succ n ih =>
    have hka : k < as.length := by omega
    have hkb : k < bs.length := by omega
    rw [slotsEqual?, List.getElem?_eq_getElem hka, List.getElem?_eq_getElem hkb,
      List.drop_eq_getElem_cons hka, List.drop_eq_getElem_cons hkb, List.take_succ_cons,
      List.take_succ_cons, allEqual_cons]
    show (if (as[k] == bs[k]) = true then _ else _) = _
    rw [ih (by omega) (by omega)]
    cases as[k] == bs[k] <;> rfl

theorem beqByPosition?_eq (a b : Lattice) : beqByPosition? a b = some (a == b) := by
  rw [beqByPosition?, beq_eq_and]
  by_cases hh : headersEqual a b = true
  swap
  · rw [if_pos hh, Bool.eq_false_iff.2 hh, Bool.false_and]
  have h : a.nEleMax = b.nEleMax := ((headersEqual_iff a b).1 hh).1.nEleMax
  rw [if_neg (not_not.2 hh), hh, Bool.true_and]
  split_ifs with hneg hin
  · rw [(compareActive_iff h).2 (.inl hneg)]
  · have hnn : 0 ≤ a.nEleMax.toInt := Int.not_lt.1 hneg
    rw [slotsEqual?_eq (by omega) (by omega), compareActive, active?_of_nonneg hnn,
      active?_of_nonneg (h ▸ hnn), ← h, if_pos hin.1, if_pos hin.2]
    rfl
  · have hne : ¬(compareActive a b).equal = true := by
      intro hc
      rcases (compareActive_iff h).1 hc with hlt | hs
      · exact hneg hlt
      · exact hin ⟨hs.1, hs.2.1⟩
    rw [Bool.eq_false_iff.2 hne]

/-! ## Equality of lattices -/

/-- Two lattices are equal iff their headers are, their links and cross references are over their
whole length, and `nEleMax` is negative or both lists of elements go on beyond it and are equal at
every position up to it.  No position outside a list is read to find that out. -/
theorem beq_iff_and_reads_inside (a b : Lattice) :
    ((a == b) = true ↔
      SameHeaders a b ∧ SameEntries a.control b.control ∧ SameEntries a.ic b.ic ∧
        (a.nEleMax.toInt < 0 ∨ SameSlots a.nEleMax.toInt a.elements b.elements)) ∧
      beqByPosition? a b = some (a == b) :=
  ⟨beq_iff a b, beqByPosition?_eq a b⟩

end Lattice

end Accelerator
