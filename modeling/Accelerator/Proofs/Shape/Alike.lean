import Accelerator.Proofs.Equality
import Accelerator.Proofs.Shape.Reals

/-!
# Values that are alike

Two values of a shape are alike under a relation of floats (`Shape.Alike`) if they differ in their
floats alone, and these are related one by one.  Equality of values is `Shape.Alike` for `==` of
floats (`Shape.equal_iff_alike`), so that what holds of `==` between floats is carried over to
values: symmetry and transitivity by `Shape.Alike.flip` and `Shape.Alike.trans`, and which of them
equal themselves by `Shape.alike_self_iff`.  Where equality of floats is equality, so is equality of
values (`Shape.equal_iff_eq`); a value with replaced floats is equal to the value it comes from iff
every float is equal to the one it replaces (`Shape.equal_mapReals_iff`).
-/

namespace Accelerator

/-! ## Lists and optional values -/

section Entries

variable {α β γ : Type} {R : α → β → Prop} {S : β → γ → Prop} {T : α → γ → Prop}

theorem forall₂_trans (h : ∀ a b c, R a b → S b c → T a c) {as : List α} {bs : List β}
    {cs : List γ} (hab : List.Forall₂ R as bs) (hbc : List.Forall₂ S bs cs) :
    List.Forall₂ T as cs := by
  induction hab generalizing cs with
  | nil =>
    cases hbc
    exact .nil
  | cons hhead _ ih =>
    cases hbc with
    | cons hhead' htail' => exact .cons (h _ _ _ hhead hhead') (ih htail')

theorem optionRel_trans (h : ∀ a b c, R a b → S b c → T a c) {a : Option α} {b : Option β}
    {c : Option γ} (hab : Option.Rel R a b) (hbc : Option.Rel S b c) : Option.Rel T a c := by
  cases hab with
  | none =>
    cases hbc
    exact .none
  | some hab =>
    cases hbc with
    | some hbc => exact .some (h _ _ _ hab hbc)

theorem optionRel_flip {S : β → α → Prop} (h : ∀ a b, R a b → S b a) {a : Option α} {b : Option β}
    (hab : Option.Rel R a b) : Option.Rel S b a := by
  cases hab with
  | none => exact .none
  | some hab => exact .some (h _ _ hab)

theorem optionRel_self_iff {R : α → α → Prop} (o : Option α) :
    Option.Rel R o o ↔ ∀ a ∈ o, R a a := by
  cases o <;> simp

theorem optionRel_eq_iff (a b : Option α) : Option.Rel Eq a b ↔ a = b := by
  cases a <;> cases b <;> simp

theorem bothEqual_iff_rel (eq : α → α → Bool) (a b : Option α) :
    bothEqual eq a b = true ↔ Option.Rel (fun x y => eq x y = true) a b := by
  cases a <;> cases b <;> simp [bothEqual]

end Entries

/-! ## Alike values -/

mutual

/-- Two values are the same but for their floats, which are related one by one. -/
def Shape.Alike (R : Float → Float → Prop) : {α : Type} → Shape α → α → α → Prop
  | _, .real, x, y => R x y
  | _, .integer, m, n => m = n
  | _, .flag, b, c => b = c
  | _, .text, s, t => s = t
  | _, .choice _, a, b => a = b
  | _, .array _ entry, v, w => List.Forall₂ (entry.Alike R) v.toList w.toList
  | _, .list entry, l, m => List.Forall₂ (entry.Alike R) l m
  | _, .optional value, o, q => Option.Rel (value.Alike R) o q
  | _, .record _ fields view, a, b => fields.Alike R (view.parts a) (view.parts b)

/-- Two tuples of field values are alike field by field. -/
def Fields.Alike (R : Float → Float → Prop) : {β : Type} → Fields β → β → β → Prop
  | _, .nil, _, _ => True
  | _, .cons _ value rest, (a, as), (b, bs) => value.Alike R a b ∧ rest.Alike R as bs

end

mutual

/-- Values are equal iff they are alike under `==`. -/
theorem Shape.equal_iff_alike : {α : Type} → (s : Shape α) → (a b : α) →
    (s.equal a b = true ↔ s.Alike (fun x y => (x == y) = true) a b)
  | _, .real, _, _ => Iff.rfl
  | _, .integer, _, _ => beq_iff_eq
  | _, .flag, _, _ => beq_iff_eq
  | _, .text, _, _ => beq_iff_eq
  | _, .choice c, _, _ => @decide_eq_true_iff _ (c.eq _ _)
  | _, .array _ entry, v, w => by
    rw [Shape.equal, allEqual_iff_forall₂, Shape.Alike]
    simp only [Shape.equal_iff_alike entry]
  | _, .list entry, l, m => by
    rw [Shape.equal, allEqual_iff_forall₂, Shape.Alike]
    simp only [Shape.equal_iff_alike entry]
  | _, .optional value, o, q => by
    rw [Shape.equal, bothEqual_iff_rel, Shape.Alike]
    simp only [Shape.equal_iff_alike value]
  | _, .record _ fields view, a, b => Fields.equal_iff_alike fields (view.parts a) (view.parts b)

theorem Fields.equal_iff_alike : {β : Type} → (fields : Fields β) → (as bs : β) →
    (fields.equal as bs = true ↔ fields.Alike (fun x y => (x == y) = true) as bs)
  | _, .nil, _, _ => iff_of_true rfl trivial
  | _, .cons _ value rest, (a, as), (b, bs) => by
    rw [Fields.equal, Bool.and_eq_true, Shape.equal_iff_alike value, Fields.equal_iff_alike rest,
      Fields.Alike]

end

mutual

/-- A value is alike itself iff every float of it is related to itself. -/
theorem Shape.alike_self_iff (R : Float → Float → Prop) : {α : Type} → (s : Shape α) → (a : α) →
    (s.Alike R a a ↔ s.AllReals (fun x => R x x) a)
  | _, .real, _ => Iff.rfl
  | _, .integer, _ => iff_of_true rfl trivial
  | _, .flag, _ => iff_of_true rfl trivial
  | _, .text, _ => iff_of_true rfl trivial
  | _, .choice _, _ => iff_of_true rfl trivial
  | _, .array _ entry, v => by
    rw [Shape.Alike, List.forall₂_same, Shape.AllReals]
    simp only [Shape.alike_self_iff R entry]
  | _, .list entry, l => by
    rw [Shape.Alike, List.forall₂_same, Shape.AllReals]
    simp only [Shape.alike_self_iff R entry]
  | _, .optional value, o => by
    rw [Shape.Alike, optionRel_self_iff, Shape.AllReals]
    simp only [Shape.alike_self_iff R value]
  | _, .record _ fields view, a => Fields.alike_self_iff R fields (view.parts a)

theorem Fields.alike_self_iff (R : Float → Float → Prop) : {β : Type} → (fields : Fields β) →
    (as : β) → (fields.Alike R as as ↔ fields.AllReals (fun x => R x x) as)
  | _, .nil, _ => Iff.rfl
  | _, .cons _ value rest, (a, as) => by
    rw [Fields.Alike, Shape.alike_self_iff R value, Fields.alike_self_iff R rest, Fields.AllReals]

end

mutual

theorem Shape.Alike.flip {R S : Float → Float → Prop} (h : ∀ x y, R x y → S y x) : {α : Type} →
    (s : Shape α) → (a b : α) → s.Alike R a b → s.Alike S b a
  | _, .real, x, y, hxy => h x y hxy
  | _, .integer, _, _, hab => Eq.symm hab
  | _, .flag, _, _, hab => Eq.symm hab
  | _, .text, _, _, hab => Eq.symm hab
  | _, .choice _, _, _, hab => Eq.symm hab
  | _, .array _ entry, _, _, hab =>
    List.Forall₂.flip (List.Forall₂.imp (fun a b => Shape.Alike.flip h entry a b) hab)
  | _, .list entry, _, _, hab =>
    List.Forall₂.flip (List.Forall₂.imp (fun a b => Shape.Alike.flip h entry a b) hab)
  | _, .optional value, _, _, hab => optionRel_flip (Shape.Alike.flip h value) hab
  | _, .record _ fields view, a, b, hab =>
    Fields.Alike.flip h fields (view.parts a) (view.parts b) hab

theorem Fields.Alike.flip {R S : Float → Float → Prop} (h : ∀ x y, R x y → S y x) : {β : Type} →
    (fields : Fields β) → (as bs : β) → fields.Alike R as bs → fields.Alike S bs as
  | _, .nil, _, _, _ => trivial
  | _, .cons _ value rest, (a, as), (b, bs), hab => by
    obtain ⟨hhead, htail⟩ := hab
    exact ⟨Shape.Alike.flip h value a b hhead, Fields.Alike.flip h rest as bs htail⟩

end

mutual

theorem Shape.Alike.trans {R S T : Float → Float → Prop} (h : ∀ x y z, R x y → S y z → T x z) :
    {α : Type} → (s : Shape α) → (a b c : α) → s.Alike R a b → s.Alike S b c → s.Alike T a c
  | _, .real, x, y, z, hxy, hyz => h x y z hxy hyz
  | _, .integer, _, _, _, hab, hbc => Eq.trans hab hbc
  | _, .flag, _, _, _, hab, hbc => Eq.trans hab hbc
  | _, .text, _, _, _, hab, hbc => Eq.trans hab hbc
  | _, .choice _, _, _, _, hab, hbc => Eq.trans hab hbc
  | _, .array _ entry, _, _, _, hab, hbc => forall₂_trans (Shape.Alike.trans h entry) hab hbc
  | _, .list entry, _, _, _, hab, hbc => forall₂_trans (Shape.Alike.trans h entry) hab hbc
  | _, .optional value, _, _, _, hab, hbc => optionRel_trans (Shape.Alike.trans h value) hab hbc
  | _, .record _ fields view, a, b, c, hab, hbc =>
    Fields.Alike.trans h fields (view.parts a) (view.parts b) (view.parts c) hab hbc

theorem Fields.Alike.trans {R S T : Float → Float → Prop} (h : ∀ x y z, R x y → S y z → T x z) :
    {β : Type} → (fields : Fields β) → (as bs cs : β) → fields.Alike R as bs →
    fields.Alike S bs cs → fields.Alike T as cs
  | _, .nil, _, _, _, _, _ => trivial
  | _, .cons _ value rest, (a, as), (b, bs), (c, cs), hab, hbc => by
    obtain ⟨hhead, htail⟩ := hab
    obtain ⟨hhead', htail'⟩ := hbc
    exact ⟨Shape.Alike.trans h value a b c hhead hhead',
      Fields.Alike.trans h rest as bs cs htail htail'⟩

end

mutual

/-- Values whose floats are the same are the same. -/
theorem Shape.alike_eq : {α : Type} → (s : Shape α) → s.Alike Eq = Eq
  | _, .real => rfl
  | _, .integer => rfl
  | _, .flag => rfl
  | _, .text => rfl
  | _, .choice _ => rfl
  | _, .array _ entry => by
    funext v w
    rw [Shape.Alike, Shape.alike_eq entry, List.forall₂_eq_eq_eq, Vector.toList_inj]
  | _, .list entry => by
    funext l m
    rw [Shape.Alike, Shape.alike_eq entry, List.forall₂_eq_eq_eq]
  | _, .optional value => by
    funext o q
    rw [Shape.Alike, Shape.alike_eq value, optionRel_eq_iff]
  | _, .record _ fields view => by
    funext a b
    rw [Shape.Alike, Fields.alike_eq fields,
      (Function.LeftInverse.injective view.ofParts_parts).eq_iff]

theorem Fields.alike_eq : {β : Type} → (fields : Fields β) → fields.Alike Eq = Eq
  | _, .nil => by
    funext _ _
    exact (eq_true rfl).symm
  | _, .cons _ value rest => by
    funext (a, as) (b, bs)
    rw [Fields.Alike, Shape.alike_eq value, Fields.alike_eq rest, Prod.mk.injEq]

end

mutual

theorem Shape.alike_mapReals_iff (R : Float → Float → Prop) (g : Float → Float) : {α : Type} →
    (s : Shape α) → (a b : α) → (s.Alike R (s.mapReals g a) b ↔ s.Alike (fun x y => R (g x) y) a b)
  | _, .real, _, _ => Iff.rfl
  | _, .integer, _, _ => Iff.rfl
  | _, .flag, _, _ => Iff.rfl
  | _, .text, _, _ => Iff.rfl
  | _, .choice _, _, _ => Iff.rfl
  | _, .array _ entry, v, w => by
    rw [Shape.Alike, Shape.mapReals, Vector.toList_map, List.forall₂_map_left_iff, Shape.Alike]
    simp only [Shape.alike_mapReals_iff R g entry]
  | _, .list entry, l, m => by
    rw [Shape.Alike, Shape.mapReals, List.forall₂_map_left_iff, Shape.Alike]
    simp only [Shape.alike_mapReals_iff R g entry]
  | _, .optional value, o, q => by
    rw [Shape.Alike, Shape.mapReals, Shape.Alike]
    cases o <;> cases q <;> simp [Shape.alike_mapReals_iff R g value]
  | _, .record _ fields view, a, b => by
    rw [Shape.Alike, Shape.mapReals, view.parts_ofParts]
    exact Fields.alike_mapReals_iff R g fields (view.parts a) (view.parts b)

theorem Fields.alike_mapReals_iff (R : Float → Float → Prop) (g : Float → Float) : {β : Type} →
    (fields : Fields β) → (as bs : β) →
    (fields.Alike R (fields.mapReals g as) bs ↔ fields.Alike (fun x y => R (g x) y) as bs)
  | _, .nil, _, _ => Iff.rfl
  | _, .cons _ value rest, (a, as), (b, bs) => by
    rw [Fields.mapReals, Fields.Alike, Shape.alike_mapReals_iff R g value,
      Fields.alike_mapReals_iff R g rest, Fields.Alike]

end

/-! ## Consequences -/

section Alike

variable {α : Type} {s : Shape α} {a b : α} {R S : Float → Float → Prop} {p : Float → Prop}

theorem Shape.Alike.imp (hRS : ∀ x y, R x y → S x y) (h : s.Alike R a b) : s.Alike S a b := by
  have hsame : s.Alike Eq b b := by rw [Shape.alike_eq]
  refine Shape.Alike.trans ?_ s a b b h hsame
  rintro x y _ hxy rfl
  exact hRS x y hxy

/-- What is known of the floats of the first of two alike values is known of each pair. -/
theorem Shape.Alike.and_left (h : s.Alike R a b) (ha : s.AllReals p a) :
    s.Alike (fun x y => p x ∧ R x y) a b := by
  have hself : s.Alike (fun x y => p x ∧ x = y) a a :=
    (Shape.alike_self_iff _ s a).2 (Shape.AllReals.imp (fun _ hx => ⟨hx, rfl⟩) s a ha)
  refine Shape.Alike.trans ?_ s a a b hself h
  rintro x _ y ⟨hx, rfl⟩ hxy
  exact ⟨hx, hxy⟩

theorem Shape.AllReals.and {q : Float → Prop} (s : Shape α) (a : α) (hp : s.AllReals p a)
    (hq : s.AllReals q a) : s.AllReals (fun x => p x ∧ q x) a := by
  rw [← Shape.alike_self_iff (fun x _ => q x)] at hq
  exact (Shape.alike_self_iff _ s a).1 (hq.and_left hp)

/-- It is enough that a relation implies the other between floats with a property. -/
theorem Shape.Alike.imp_of_allReals (h : s.Alike R a b) (ha : s.AllReals p a)
    (hb : s.AllReals p b) (hRS : ∀ x y, p x → p y → R x y → S x y) : s.Alike S a b := by
  have hba : s.Alike (fun y x => p y ∧ p x ∧ R x y) b a :=
    (Shape.Alike.flip (fun _ _ hxy => hxy) s a b (h.and_left ha)).and_left hb
  refine Shape.Alike.flip ?_ s b a hba
  rintro y x ⟨hy, hx, hxy⟩
  exact hRS x y hx hy hxy

/-- What the relation says of the first of two floats holds of all floats of the first value. -/
theorem Shape.Alike.allReals_left (hR : ∀ x y, R x y → p x) (h : s.Alike R a b) :
    s.AllReals p a := by
  rw [← Shape.alike_self_iff (fun x _ => p x)]
  exact Shape.Alike.trans (fun x y _ hxy _ => hR x y hxy) s a b a h
    (Shape.Alike.flip (S := fun _ _ => True) (fun _ _ _ => trivial) s a b h)

/-- A value is alike another under the graph of a function iff replacing its floats by that function
gives the other. -/
theorem Shape.alike_graph_iff (p : Float → Prop) (g : Float → Float) (s : Shape α) (a b : α) :
    s.Alike (fun x y => p x ∧ g x = y) a b ↔ s.AllReals p a ∧ s.mapReals g a = b := by
  have hmap : s.Alike (fun x y => g x = y) a b ↔ s.mapReals g a = b := by
    rw [← Shape.alike_mapReals_iff Eq g, Shape.alike_eq]
  constructor
  · intro h
    exact ⟨h.allReals_left fun _ _ hxy => hxy.1, hmap.1 (h.imp fun _ _ hxy => hxy.2)⟩
  · rintro ⟨ha, hab⟩
    exact (hmap.2 hab).and_left ha

end Alike

/-! ## Equality of values -/

/-- Values are equal iff they are the same, if that holds of their floats. -/
theorem Shape.equal_iff_eq {α : Type} {p : Float → Prop}
    (hp : ∀ x y, p x → p y → ((x == y) = true ↔ x = y)) (s : Shape α) (a b : α)
    (ha : s.AllReals p a) (hb : s.AllReals p b) : s.equal a b = true ↔ a = b := by
  rw [s.equal_iff_alike]
  constructor
  · intro h
    rw [← s.alike_eq]
    exact h.imp_of_allReals ha hb fun x y hx hy => (hp x y hx hy).1
  · rintro rfl
    rw [Shape.alike_self_iff]
    exact Shape.AllReals.imp (fun x hx => (hp x x hx hx).2 rfl) s a ha

/-- A value with replaced floats is equal to the value iff every float is equal to the one that it
replaces. -/
theorem Shape.equal_mapReals_iff {α : Type} (g : Float → Float) (s : Shape α) (a : α) :
    s.equal (s.mapReals g a) a = true ↔ s.AllReals (fun x => (g x == x) = true) a := by
  rw [s.equal_iff_alike, s.alike_mapReals_iff, Shape.alike_self_iff]

end Accelerator
