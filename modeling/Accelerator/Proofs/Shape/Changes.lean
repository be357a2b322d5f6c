import Accelerator.Edit
import Accelerator.Proofs.Equivalence
import Accelerator.Proofs.Shape.Places

/-!
# Changes of parts

An edit changes a part of a record in the way of its shape (`Shape.change`): a float is raised, a
counter takes a step, a flag is turned over, and so on.  Of all these changes only the step of a
counter can fail (`Shape.change_eq_error_iff`), and only the sum of a float can leave the part as it
was (`Shape.equal_change_iff`).  The same holds of the record that has the part in it, for an edit
that acts at its place (`Edit.ActsAt`).
-/

namespace Accelerator

variable {α : Type}

/-! ## Texts, lists and alternatives -/

theorem lengthen_ne (s : String) : lengthen s ≠ s := by
  intro heq
  have hlen := congrArg String.length heq
  rw [lengthen, String.length_push] at hlen
  omega

theorem allEqual_extend (eq : α → α → Bool) (l : List α) (a : α) :
    allEqual eq l (extend l a) = false := by
  rw [Bool.eq_false_iff]
  intro heq
  have hlen := ((allEqual_iff_getElem _ _ _).1 heq).1
  rw [extend, List.length_append, List.length_singleton] at hlen
  omega

theorem Choice.next_ne (c : Choice α) (h : c.others ≠ []) (a : α) : c.next a ≠ a := by
  let := c.eq
  have hpos := List.length_pos_iff.2 h
  have hlen : c.all.length = c.others.length + 1 := List.length_cons
  have hlt : c.position a < c.all.length := List.idxOf_lt_length_iff.2 (c.mem_all a)
  have hnodup : c.all.Nodup := List.Nodup.of_map c.key c.nodup
  intro heq
  have hat : c.all[c.position a] = a := List.getElem_idxOf hlt
  have hindex := (hnodup.getElem_inj_iff).1 (heq.trans hat.symm)
  rcases Nat.lt_or_ge (c.position a + 1) c.all.length with hnext | hnext
  · rw [Nat.mod_eq_of_lt hnext] at hindex
    omega
  · rw [show c.position a + 1 = c.all.length by omega, Nat.mod_self] at hindex
    omega

/-! ## Parts -/

/-- What an edit makes of a part, if it counts by a given step.  A part that has parts of its own
stays as it is. -/
def Shape.change (step : Int32 → Except Fault Int32) : {α : Type} → Shape α → α → Except Fault α
  | _, .real, x => .ok (raise x)
  | _, .integer, n => step n
  | _, .flag, b => .ok !b
  | _, .text, s => .ok (lengthen s)
  | _, .choice c, a => .ok (c.next a)
  | _, .list entry, l => .ok (extend l entry.blank)
  | _, .optional value, o => .ok (match o with
      | some _ => none
      | none => some value.blank)
  | _, .array _ _, v => .ok v
  | _, .record _ _ _, a => .ok a

/-- Whether there is a change of a part: of alternatives there must be two. -/
def Shape.hasChange : Shape α → Bool
  | .choice c => !c.others.isEmpty
  | .optional value => value.isRecord
  | .array _ _ | .record _ _ _ => false
  | _ => true

section Parts

variable {step : Int32 → Except Fault Int32} {s : Shape α} {a b : α}

theorem Shape.number?_optional_of_isRecord (hs : s.isRecord = true) (o : Option α) :
    (Shape.optional s).number? o = none := by
  cases s with
  | record => cases o <;> rfl
  | _ => cases hs

/-- A change fails iff it is the step of a counter, and that fails. -/
theorem Shape.change_eq_error_iff (hs : s.hasChange = true) {fault : Fault} :
    s.change step a = .error fault ↔
      ∃ n : Int32, s.number? a = some (.integer n.toInt) ∧ step n = .error fault := by
  cases s with
  | integer =>
    constructor
    · intro h
      exact ⟨a, rfl, h⟩
    · rintro ⟨n, hn, h⟩
      rw [number?, Option.some_inj, Number.integer.injEq, Int32.toInt_inj] at hn
      rw [hn]
      exact h
  | array => cases hs
  | record => cases hs
  | optional value =>
    rw [number?_optional_of_isRecord hs]
    constructor
    · intro h
      cases h
    · rintro ⟨n, hn, -⟩
      cases hn
  | _ =>
    constructor
    · intro h
      cases h
    · rintro ⟨n, hn, -⟩
      cases hn

/-- A change leaves a part equal to what it was iff that is a float, and equal to one more. -/
theorem Shape.equal_change_iff (hs : s.hasChange = true) (hstep : ∀ n, step n ≠ .ok n)
    (h : s.change step a = .ok b) : s.equal a b = true ↔
      ∃ x, s.number? a = some (.real x) ∧ (raise x == x) = true := by
  cases s with
  | real =>
    obtain rfl := Except.ok.inj h
    constructor
    · intro heq
      exact ⟨a, rfl, BEq.symm heq⟩
    · rintro ⟨x, hx, heq⟩
      cases hx
      exact BEq.symm heq
  | integer =>
    apply iff_of_false _ nofun
    intro heq
    obtain rfl : a = b := eq_of_beq heq
    exact hstep a h
  | flag =>
    obtain rfl := Except.ok.inj h
    apply iff_of_false _ nofun
    cases a <;> exact Bool.false_ne_true
  | text =>
    obtain rfl := Except.ok.inj h
    apply iff_of_false _ nofun
    intro heq
    exact lengthen_ne a (eq_of_beq heq).symm
  | choice c =>
    obtain rfl := Except.ok.inj h
    apply iff_of_false _ nofun
    let := c.eq
    intro heq
    refine c.next_ne ?_ a (of_decide_eq_true heq).symm
    simpa [hasChange] using hs
  | list entry =>
    obtain rfl := Except.ok.inj h
    apply iff_of_false _ nofun
    exact Bool.eq_false_iff.1 (allEqual_extend entry.equal a entry.blank)
  | optional value =>
    obtain rfl := Except.ok.inj h
    rw [number?_optional_of_isRecord hs]
    apply iff_of_false _ nofun
    cases a <;> exact Bool.false_ne_true
  | array => cases hs
  | record => cases hs

end Parts

/-! ## Places -/

/-- An edit acts at a place of a value: it changes the part there, and nothing else. -/
def Edit.ActsAt (e : Edit α) (step : Int32 → Except Fault Int32) (s : Shape α) (path : List Step)
    (a : α) : Prop :=
  ∃ f, s.focus? path a = some f ∧ f.shape.hasChange = true ∧
    e.apply a = f.put <$> f.shape.change step f.value

section Places

variable {e : Edit α} {step : Int32 → Except Fault Int32} {s : Shape α} {path : List Step} {a b : α}

theorem Edit.ActsAt.apply_eq_error_iff (h : e.ActsAt step s path a) {fault : Fault} :
    e.apply a = .error fault ↔
      ∃ n : Int32, s.numberAt? path a = some (.integer n.toInt) ∧ step n = .error fault := by
  obtain ⟨f, hf, hs, happly⟩ := h
  rw [Shape.numberAt?, hf, Option.bind_some, ← Shape.change_eq_error_iff hs, happly]
  exact map_eq_error_iff

/-- An edit leaves a value equal to what it was iff the value is equal to itself, and the place
holds a float that is equal to one more. -/
theorem Edit.ActsAt.equal_iff (h : e.ActsAt step s path a) (hstep : ∀ n, step n ≠ .ok n)
    (hb : e.apply a = .ok b) : s.equal a b = true ↔ s.equal a a = true ∧
      ∃ x, s.numberAt? path a = some (.real x) ∧ (raise x == x) = true := by
  obtain ⟨f, hf, hs, happly⟩ := h
  obtain ⟨c, hc, rfl⟩ := map_eq_ok_iff.1 (happly.symm.trans hb)
  have hlawful := s.lawful_focus? path a hf
  obtain ⟨rest, hrest⟩ := hlawful.separates
  have hself := hrest f.value f.value
  have hother := hrest f.value c
  rw [hlawful.put_value] at hself hother
  rw [hself, hother, Shape.numberAt?, hf, Option.bind_some, ← Shape.equal_change_iff hs hstep hc]
  constructor
  · rintro ⟨hequal, h⟩
    exact ⟨⟨Shape.equal_trans hequal (Shape.equal_symm hequal), h⟩, hequal⟩
  · rintro ⟨⟨-, h⟩, hequal⟩
    exact ⟨hequal, h⟩

end Places

/-! ## Counters -/

theorem increment_eq_error_iff {n : Int32} {fault : Fault} :
    increment n = .error fault ↔ fault = .sumOverflow ∧ n = Int32.maxValue := by
  rw [increment]
  split_ifs with h
  · rw [Except.error.injEq, eq_comm, and_iff_left h]
  · exact iff_of_false nofun fun hn => h hn.2

theorem increment_ne_ok (n : Int32) : increment n ≠ .ok n := by
  rw [increment]
  split_ifs
  · exact nofun
  · rw [ne_eq, Except.ok.injEq]
    grind

theorem decrement_of_pos {n : Int32} (h : 1 ≤ n.toInt) : decrement n = .ok (n - 1) := by
  rw [decrement, if_neg]
  rintro rfl
  revert h
  decide

/-- An edit that counts up fails iff its place holds the greatest integer. -/
theorem Edit.ActsAt.increment_eq_error_iff {e : Edit α} {s : Shape α} {path : List Step} {a : α}
    (h : e.ActsAt increment s path a) {fault : Fault} : e.apply a = .error fault ↔
      fault = .sumOverflow ∧ s.numberAt? path a = some (.integer 2147483647) := by
  simp only [h.apply_eq_error_iff, Accelerator.increment_eq_error_iff]
  constructor
  · rintro ⟨n, hn, rfl, rfl⟩
    exact ⟨rfl, hn⟩
  · rintro ⟨rfl, hn⟩
    exact ⟨Int32.maxValue, hn, rfl, rfl⟩

end Accelerator
