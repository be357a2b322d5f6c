import Accelerator.Shape.Equality
import Mathlib.Data.List.Forall2

/-!
# Equality of lists and of fields

Two lists are equal entry by entry iff they have one length and equal entries at every position
(`allEqual_iff_getElem`), which is the relation `List.Forall₂` (`allEqual_iff_forall₂`).  Two tuples
of field values are equal iff they are equal in the field of every key
(`Fields.equal_eq_all_equalAt`); this is what a report that goes through the fields in another order
relies on.
-/

namespace Accelerator

variable {α : Type}

/-! ## Lists and tables -/

@[simp]
theorem allEqual_nil (eq : α → α → Bool) : allEqual eq [] [] = true := rfl

@[simp]
theorem allEqual_cons (eq : α → α → Bool) (x y : α) (xs ys : List α) :
    allEqual eq (x :: xs) (y :: ys) = (eq x y && allEqual eq xs ys) := by
  simp only [allEqual, List.length_cons, List.zip_cons_cons, List.all_cons]
  rw [show (xs.length + 1 == ys.length + 1) = (xs.length == ys.length) by simp,
    Bool.and_left_comm]

theorem allEqual_iff_forall₂ (eq : α → α → Bool) (a b : List α) :
    allEqual eq a b = true ↔ List.Forall₂ (fun x y => eq x y = true) a b := by
  induction a generalizing b with
  | nil => cases b <;> simp [allEqual]
  | cons x xs ih =>
    cases b with
    | nil => simp [allEqual]
    | cons y ys => rw [allEqual_cons, Bool.and_eq_true, List.forall₂_cons, ih]

theorem allEqual_iff_getElem (eq : α → α → Bool) (a b : List α) :
    allEqual eq a b = true ↔ a.length = b.length ∧
      ∀ k (ha : k < a.length) (hb : k < b.length), eq a[k] b[k] = true := by
  rw [allEqual_iff_forall₂, List.forall₂_iff_get]
  rfl

theorem matrixEqual_eq_allEqual (eq : α → α → Bool) (a b : List (List α)) :
    matrixEqual eq a b = allEqual (allEqual eq) a b := rfl

theorem allEqual_map {β : Type} (eq : β → β → Bool) (f : α → β) (a b : List α) :
    allEqual eq (a.map f) (b.map f) = allEqual (fun x y => eq (f x) (f y)) a b := by
  simp only [allEqual, List.length_map, List.zip_map, List.all_map]
  rfl

theorem bothEqual_eq_beq [BEq α] (a b : Option α) : bothEqual (· == ·) a b = (a == b) := by
  cases a <;> cases b <;> rfl

/-! ## Fields -/

/-- Two tuples of field values are equal in the field of a key. -/
def Fields.equalAt : {β : Type} → Fields β → String → β → β → Bool
  | _, .nil, _, _, _ => true
  | _, .cons f value rest, key, (x, xs), (y, ys) =>
    if f.key = key then value.equal x y else rest.equalAt key xs ys

/-- Two records are equal in the field of a key. -/
def Shape.equalAt : {α : Type} → Shape α → String → α → α → Bool
  | _, .record _ fields view, key, x, y => fields.equalAt key (view.parts x) (view.parts y)
  | _, _, _, _, _ => true

/-- The keys of the fields of a record. -/
def Shape.keys : {α : Type} → Shape α → List String
  | _, .record _ fields _ => fields.keys
  | _, _ => []

/-- Fields are equal iff the fields of all keys are, provided that no two fields share a key. -/
theorem Fields.equal_eq_all_equalAt : {β : Type} → (fields : Fields β) → fields.keys.Nodup →
    (x y : β) → fields.equal x y = fields.keys.all fun key => fields.equalAt key x y
  | _, .nil, _, _, _ => rfl
  | _, .cons f value rest, distinct, (x, xs), (y, ys) => by
    obtain ⟨fresh, distinct⟩ := List.nodup_cons.1 distinct
    have hhead : (Fields.cons f value rest).equalAt f.key (x, xs) (y, ys) = value.equal x y := by
      rw [Fields.equalAt, if_pos rfl]
    have htail : ∀ key ∈ rest.keys,
        (Fields.cons f value rest).equalAt key (x, xs) (y, ys) = rest.equalAt key xs ys := by
      intro key hkey
      rw [Fields.equalAt, if_neg (by rintro rfl; exact fresh hkey)]
    rw [Fields.equal, Fields.keys, List.all_cons, hhead, Fields.equal_eq_all_equalAt rest distinct,
      Bool.eq_iff_iff]
    simp only [Bool.and_eq_true, List.all_eq_true]
    exact and_congr_right fun _ => forall₂_congr fun key hkey => by rw [htail key hkey]

theorem Shape.equal_eq_all_equalAt {β : Type} {name : String} {fields : Fields β} {view : View α β}
    (distinct : fields.keys.Nodup) (x y : α) :
    (Shape.record name fields view).equal x y =
      fields.keys.all fun key => (Shape.record name fields view).equalAt key x y := by
  rw [Shape.equal, Fields.equal_eq_all_equalAt fields distinct]
  rfl

end Accelerator
