import Accelerator.Proofs.Equality

/-!
# Equality of joined lists and of tables

Whatever relation compares the entries, the comparison of two lists splits where they are joined
(`allEqual_append`), and it fails for lists of different lengths (`allEqual_of_length_ne`).  So a
comparison of tables row by row amounts to one of the lengths of their rows and one of all their
entries in a single list (`matrixEqual_iff`).  None of this needs the relation to be reflexive,
which it is not for floats.
-/

namespace Accelerator

variable {α : Type} {eq : α → α → Bool}

/-! ## Lengths -/

theorem allEqual_of_length_ne {a b : List α} (h : a.length ≠ b.length) :
    allEqual eq a b = false := by
  rw [allEqual, beq_eq_false_iff_ne.2 h, Bool.false_and]

theorem length_eq_of_allEqual {a b : List α} (h : allEqual eq a b = true) :
    a.length = b.length :=
  ((allEqual_iff_forall₂ eq a b).1 h).length_eq

/-! ## Joined lists -/

/-- Lists are equal iff their first parts are and their second parts are, provided that they are cut
at the same position. -/
theorem allEqual_append {p p' : List α} (h : p.length = p'.length) (q q' : List α) :
    allEqual eq (p ++ q) (p' ++ q') = (allEqual eq p p' && allEqual eq q q') := by
  induction p generalizing p' with
  | nil =>
    rw [List.length_eq_zero_iff.1 h.symm]
    rfl
  | cons x p ih =>
    cases p' with
    | nil => cases h
    | cons y p' =>
      rw [List.cons_append, List.cons_append, allEqual_cons, allEqual_cons,
        ih (Nat.succ.inj h), Bool.and_assoc]

/-! ## Tables -/

theorem matrixEqual_cons (r s : List α) (a b : List (List α)) :
    matrixEqual eq (r :: a) (s :: b) = (allEqual eq r s && matrixEqual eq a b) :=
  allEqual_cons _ _ _ _ _

/-- Tables are equal iff they have rows of the same lengths and the same entries one after the
other. -/
theorem matrixEqual_iff (a b : List (List α)) :
    matrixEqual eq a b = true ↔
      a.map List.length = b.map List.length ∧ allEqual eq a.flatten b.flatten = true := by
  induction a generalizing b with
  | nil =>
    cases b with
    | nil => exact iff_of_true rfl ⟨rfl, rfl⟩
    | cons s b => exact iff_of_false nofun fun h => nomatch h.1
  | cons r a ih =>
    cases b with
    | nil => exact iff_of_false nofun fun h => nomatch h.1
    | cons s b =>
      rw [matrixEqual_cons, List.map_cons, List.map_cons, List.cons.injEq, List.flatten_cons,
        List.flatten_cons, Bool.and_eq_true, ih]
      constructor
      · rintro ⟨hrow, hlengths, hrest⟩
        have hlength := length_eq_of_allEqual hrow
        rw [allEqual_append hlength, hrow, hrest]
        exact ⟨⟨hlength, hlengths⟩, rfl⟩
      · rintro ⟨⟨hlength, hlengths⟩, hall⟩
        rw [allEqual_append hlength, Bool.and_eq_true] at hall
        exact ⟨hall.1, hlengths, hall.2⟩

/-- The empty lists are equal, and lists of one entry are if the relation says so of the entries.
Joined lists are equal iff their parts are, if they are cut at the same position; lists of different
lengths are not, even if one begins like the other.  Tables are equal iff they have rows of the same
lengths and are equal as single lists. -/
theorem equality_splits_at_joins (eq : α → α → Bool) :
    (allEqual eq [] [] = true ∧ ∀ x y, allEqual eq [x] [y] = eq x y) ∧
    (∀ p p' q q' : List α, p.length = p'.length →
      allEqual eq (p ++ q) (p' ++ q') = (allEqual eq p p' && allEqual eq q q')) ∧
    (∀ a b : List α, a.length ≠ b.length → allEqual eq a b = false) ∧
    ∀ a b : List (List α), matrixEqual eq a b = true ↔
      a.map List.length = b.map List.length ∧ allEqual eq a.flatten b.flatten = true := by
  refine ⟨⟨rfl, fun x y => ?_⟩, fun _ _ q q' h => allEqual_append h q q',
    fun _ _ h => allEqual_of_length_ne h, matrixEqual_iff⟩
  rw [allEqual_cons, allEqual_nil, Bool.and_true]

/-- Under a relation that is neither reflexive nor symmetric: joined lists, a list and one that
begins like it, and two tables of three rows whose entries compare well one after the other, but
whose rows have different lengths. -/
theorem equality_splits_at_joins_below :
    let below (m n : Nat) : Bool := decide (m < n)
    ([0, 1].length = [1, 4].length ∧ allEqual below ([0, 1] ++ [7]) ([1, 4] ++ [7]) =
      (allEqual below [0, 1] [1, 4] && allEqual below [7] [7])) ∧
    ([0, 1].length ≠ [1, 2, 3].length ∧ allEqual below [0, 1] [1, 2, 3] = false) ∧
    allEqual below [[0, 1], [], [2]].flatten [[1], [2], [3]].flatten = true ∧
    ¬matrixEqual below [[0, 1], [], [2]] [[1], [2], [3]] = true := by
  intro below
  obtain ⟨-, hjoin, hlength, htable⟩ := equality_splits_at_joins below
  refine ⟨⟨rfl, hjoin _ _ _ _ rfl⟩, ⟨by decide, hlength _ _ (by decide)⟩, by decide, ?_⟩
  rw [htable]
  decide

end Accelerator
