import Accelerator.Proofs.Equivalence
import Accelerator.Proofs.GroupEvents

/-!
# Exchange of equal elements

The report on two elements is the same in both orders (`evaluate_comm`), and stays the same if equal
elements take their places (`evaluate_congr`): its verdicts, its events, and what is written of them
(`reports_respect_equality`).  Elements that are not equal to themselves are no exception in the
first place; in the second place they are equal to none.
-/

namespace Accelerator

section Agree

variable {g : FieldGroup} {x x' y y' : Element}

theorem Declared.same_comm (f : Declared Element) (x y : Element) : f.same x y = f.same y x :=
  f.shape.equal_comm _ _

theorem Declared.same_congr {f : Declared Element} (hx : f.same x x' = true)
    (hy : f.same y y' = true) : f.same x y = f.same x' y' :=
  Shape.equal_congr hx hy

/-- Equal elements are equal in all fields that a group names. -/
theorem same_of_beq (h : (x == x') = true) (hg : g ∈ elementGroups) :
    ∀ f ∈ g.covered, f.same x x' = true := by
  rw [beq_eq_all_agree, List.all_eq_true] at h
  rw [← List.all_eq_true, ← agree_eq_all_covered hg]
  exact h g hg

theorem agree_comm (hg : g ∈ elementGroups) (x y : Element) : g.agree x y = g.agree y x :=
  agree_eq_of_same hg fun f _ => f.same_comm x y

theorem agree_congr_of_beq (hg : g ∈ elementGroups) (hx : (x == x') = true)
    (hy : (y == y') = true) : g.agree x y = g.agree x' y' :=
  agree_eq_of_same hg fun f hf =>
    Declared.same_congr (same_of_beq hx hg f hf) (same_of_beq hy hg f hf)

/-- The report is known from the verdicts of the groups. -/
theorem evaluate_eq_of_agree (h : ∀ g ∈ elementGroups, g.agree x y = g.agree x' y') :
    evaluate x y = evaluate x' y' := by
  have hresult : elementGroups.map (·.judge x y) = elementGroups.map (·.judge x' y') := by
    apply List.map_congr_left
    intro g hg
    rw [FieldGroup.judge, FieldGroup.judge, h g hg]
  have hdiffers : elementGroups.filter (fun g => !g.agree x y) =
      elementGroups.filter fun g => !g.agree x' y' := by
    apply List.filter_congr
    intro g hg
    rw [h g hg]
  rw [evaluate, evaluate, hresult, hdiffers]

theorem evaluate_comm (x y : Element) : evaluate x y = evaluate y x :=
  evaluate_eq_of_agree fun _ hg => agree_comm hg x y

theorem evaluate_congr (hx : (x == x') = true) (hy : (y == y') = true) :
    evaluate x y = evaluate x' y' :=
  evaluate_eq_of_agree fun _ hg => agree_congr_of_beq hg hx hy

end Agree

/-- What is written on two elements is known from the report. -/
theorem diffElements_eq_of_evaluate {x x' y y' : Element} (h : evaluate x y = evaluate x' y') :
    diffElements x y = diffElements x' y' := by
  funext out
  rw [diffElements, diffElements, h]

/-- The report on two elements is the same in both orders, whatever they hold, and it is the same if
equal elements are put in their places: every verdict and every event, and with any sink what is
written to it and what comes back. -/
theorem reports_respect_equality :
    (∀ x y, evaluate x y = evaluate y x ∧ ∀ out, diffElements x y out = diffElements y x out) ∧
    ∀ x x' y y', (x == x') = true → (y == y') = true →
      evaluate x y = evaluate x' y' ∧ ∀ out, diffElements x y out = diffElements x' y' out := by
  constructor
  · intro x y
    have h := evaluate_comm x y
    exact ⟨h, congrFun (diffElements_eq_of_evaluate h)⟩
  · intro x x' y y' hx hy
    have h := evaluate_congr hx hy
    exact ⟨h, congrFun (diffElements_eq_of_evaluate h)⟩

/-- Two elements that differ in the sign of a zero, beside one of another energy factor. -/
theorem reports_respect_equality_zero :
    let x := Element.shape.blank
    let x' := { Element.shape.blank with s := -0.0 }
    let y := Element.energetic
    (x == x') = true ∧ (y == y) = true ∧ evaluate x y = evaluate x' y := by
  intro x x' y
  have hx : (x == x') = true := by decide +kernel
  have hy : (y == y) = true := by decide +kernel
  exact ⟨hx, hy, (reports_respect_equality.2 x x' y y hx hy).1⟩

end Accelerator
