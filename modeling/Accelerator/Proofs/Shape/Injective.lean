import Accelerator.Proofs.Shape.Alike
import Accelerator.Proofs.Shape.Document

/-!
# Different values have different texts

Two values are written as one document iff they are the same but for their floats, which are written
as one document each (`Shape.document_eq_iff`).  Hence nothing of a value is lost in its text as long
as its floats are finite (`Shape.write_injective`).
-/

namespace Accelerator

open Json

theorem map_eq_map_iff_forall₂ {α β : Type} (f : α → β) (as bs : List α) :
    as.map f = bs.map f ↔ List.Forall₂ (fun a b => f a = f b) as bs := by
  rw [← List.forall₂_eq_eq_eq, List.forall₂_map_left_iff, List.forall₂_map_right_iff]

theorem integerNumeral_injective : Function.Injective integerNumeral := by
  intro m n h
  have hneg : m < 0 ↔ n < 0 := by
    rw [← decide_eq_decide]
    exact congrArg Numeral.negative h
  have habs : m.natAbs = n.natAbs := by
    rw [← ofDigits_digits m.natAbs, ← ofDigits_digits n.natAbs]
    exact congrArg (fun n : Numeral => ofDigits n.whole) h
  omega

theorem realDocument_injective {x y : Float} (hx : x.isFinite = true) (hy : y.isFinite = true)
    (h : realDocument x = realDocument y) : x = y := by
  rw [realDocument, if_pos hx, realDocument, if_pos hy] at h
  exact Layout.numeralOf_injective (l := layout) (by decide) (Document.number.inj h)

mutual

/-- Values are written as one document iff they are alike, with floats that are. -/
theorem Shape.document_eq_iff : {α : Type} → (s : Shape α) → s.sound = true → (a b : α) →
    (s.document a = s.document b ↔ s.Alike (fun x y => realDocument x = realDocument y) a b)
  | _, .real, _, _, _ => Iff.rfl
  | _, .integer, _, m, n => by
    rw [Shape.document, Shape.document, Document.number.injEq, integerNumeral_injective.eq_iff,
      Int32.toInt_inj, Shape.Alike]
  | _, .flag, _, b, c => by
    rw [Shape.document, Shape.document, Document.word.injEq, Word.flag.injEq, Shape.Alike]
  | _, .text, _, s, t => by
    rw [Shape.document, Shape.document, Document.string.injEq, Quoted.ofText_injective.eq_iff,
      Shape.Alike]
  | _, .choice c, _, a, b => by
    rw [Shape.document, Shape.document, Document.string.injEq, Quoted.ofText_injective.eq_iff,
      c.key_injective.eq_iff, Shape.Alike]
  | _, .array _ entry, hs, v, w => by
    rw [Shape.document, Shape.document, Document.list.injEq, Items.ofList_injective.eq_iff,
      map_eq_map_iff_forall₂, Shape.Alike]
    simp only [Shape.document_eq_iff entry hs]
  | _, .list entry, hs, l, m => by
    rw [Shape.document, Shape.document, Document.list.injEq, Items.ofList_injective.eq_iff,
      map_eq_map_iff_forall₂, Shape.Alike]
    simp only [Shape.document_eq_iff entry hs]
  | _, .optional value, hs, o, q => by
    obtain ⟨hrec, hs⟩ := Bool.and_eq_true_iff.1 hs
    rw [Shape.Alike]
    cases o with
    | none => cases q with
      | none => exact iff_of_true rfl .none
      | some b => exact iff_of_false (Shape.document_ne_null hrec b).symm nofun
    | some a => cases q with
      | none => exact iff_of_false (Shape.document_ne_null hrec a) nofun
      | some b =>
        rw [Option.rel_some_some]
        exact Shape.document_eq_iff value hs a b
  | _, .record _ fields view, hs, a, b => by
    rw [Shape.document, Shape.document, Document.object.injEq, Members.ofList_injective.eq_iff,
      Shape.Alike]
    exact Fields.members_eq_iff fields hs (view.parts a) (view.parts b)

theorem Fields.members_eq_iff : {β : Type} → (fields : Fields β) → fields.sound = true →
    (as bs : β) → (fields.members as = fields.members bs ↔
      fields.Alike (fun x y => realDocument x = realDocument y) as bs)
  | _, .nil, _, _, _ => iff_of_true rfl trivial
  | _, .cons f value rest, hs, (a, as), (b, bs) => by
    obtain ⟨hs, hrest⟩ := Bool.and_eq_true_iff.1 hs
    rw [Fields.members, Fields.members, List.cons.injEq, Prod.mk.injEq,
      Shape.document_eq_iff value (Bool.and_eq_true_iff.1 hs).2, Fields.members_eq_iff rest hrest,
      Fields.Alike, and_iff_right rfl]

end

/-- Values with finite floats that have one text are the same. -/
theorem Shape.write_injective {α : Type} {s : Shape α} (hs : s.sound = true) {a b : α}
    (ha : s.AllReals (·.isFinite = true) a) (hb : s.AllReals (·.isFinite = true) b)
    (h : s.write a = s.write b) : a = b := by
  have hd := s.writes_document b
  rw [← h] at hd
  have halike := (s.document_eq_iff hs a b).1 ((s.writes_document a).unique hd)
  rw [← s.alike_eq]
  exact halike.imp_of_allReals ha hb fun _ _ hx hy => realDocument_injective hx hy

end Accelerator
