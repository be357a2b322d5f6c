import Accelerator.Proofs.Decimal.Raising
import Accelerator.Proofs.LatticeHeaders
import Accelerator.Proofs.Patterns
import Accelerator.Proofs.Shape.Changes

/-!
# When an edit shows

Each edit of a record acts at one place (`RecordKind.place`), and in a lattice it acts in front of
all elements that may be spare (`Lattice.ActsInFront`).  An edit fails iff it is to add one to the
greatest integer, and the edited record is unequal to what it was unless the place holds a float
that is equal to one more, which no float between `-2 ^ 53` and `2 ^ 53` is
(`RecordKind.edits_show_iff`).  There are such floats (`RecordKind.not_all_edits_show`).
-/

namespace Accelerator

/-! ## Where edits act -/

namespace RecordKind

variable (k : RecordKind)

/-- Where in a field with parts its edit acts. -/
def innerPlaces : RecordKind → List (String × List Step)
  | .phaseSpace => [("vec", [.index 3])]
  | .taylorTerm => [("exp", [.index 5])]
  | .beamParameters =>
    [("t1_with_rf", [.index 0, .index 5]), ("t1_no_rf", [.index 5, .index 0])]
  | .radiationIntegrals =>
    [("a", [.key "tune"]), ("b", [.key "chrom"]), ("z", [.key "emittance"]),
      ("lin", [.key "sig_e1"])]
  | .trackingSettings => [("d_orb", [.index 2])]
  | .fieldSample =>
    [("e", [.index 0]), ("b", [.index 1]), ("kick", [.index 2]), ("de", [.index 0, .index 1]),
      ("db", [.index 2, .index 2]), ("dkick", [.index 1, .index 0])]
  | .element =>
    [("x", [.key "eta"]), ("y", [.key "etap"]), ("a", [.key "beta"]), ("b", [.key "alpha"]),
      ("z", [.key "norm_emit"]), ("floor", [.key "psi"]), ("gen0", [.index 5]),
      ("vec0", [.index 0]), ("mat6", [.index 2, .index 4]), ("c_mat", [.index 1, .index 0]),
      ("taylor", [.index 3, .key "ref"])]
  | .lattice =>
    [("x", [.key "tune"]), ("y", [.key "emit"]), ("z", [.key "chrom"]), ("param", [.key "lost"]),
      ("ele_init", [.key "s"]), ("ele", [.index 1, .key "s"])]
  | _ => []

/-- The place that the edit of a field acts at. -/
def place (field : String) : List Step :=
  .key field :: (k.innerPlaces.lookup field).getD []

end RecordKind

theorem Element.actsAt_of_mem_edits (a : Element) : ∀ e ∈ Element.edits,
    e.ActsAt increment Element.shape (RecordKind.element.place e.field) a := by
  simp only [Element.edits, List.forall_mem_cons, List.not_mem_nil, false_imp_iff, implies_true,
    and_true]
  and_intros
  all_goals
    refine ⟨_, rfl, rfl, ?_⟩
    first
    | rfl
    | -- The wakefield is absent or not.
      simp only [Edit.total]
      cases a.wake <;> rfl

theorem RecordKind.actsAt_of_mem_edits {k : RecordKind} (hk : k ≠ .lattice)
    {es : List (Edit k.Carrier)} (hes : Record.edits = some es) (r : k.Carrier) :
    ∀ e ∈ es, e.ActsAt increment k.shape (k.place e.field) r := by
  cases k
  case lattice => exact absurd rfl hk
  case element =>
    obtain rfl := Option.some_inj.1 hes
    exact Element.actsAt_of_mem_edits r
  all_goals
    first
    | cases hes
      done
    | obtain rfl := Option.some_inj.1 hes
      simp only [PhaseSpace.edits, TaylorTerm.edits, TaylorSeries.edits, Wakefield.edits,
        BeamParameters.edits, RadiationIntegrals.edits, TrackingSettings.edits, FieldSample.edits,
        List.forall_mem_cons, List.not_mem_nil, false_imp_iff, implies_true, and_true]
      and_intros
      all_goals exact ⟨_, rfl, rfl, rfl⟩

/-! ## Lattices -/

namespace Lattice

/-- An edit acts at its place, looks at no element after the second one, and leaves the header alone
that counts them. -/
structure ActsInFront (e : Edit Lattice) : Prop where
  actsAt (l : Lattice) (a b : Element) (es : List Element) :
    e.ActsAt increment Lattice.shape (RecordKind.lattice.place e.field)
      { l with elements := a :: b :: es }
  apply_eq_ok (l : Lattice) (a b : Element) (es es' : List Element) (l' : Lattice) :
    e.apply { l with elements := a :: b :: es } = .ok l' →
      ∃ b', l'.elements = a :: b' :: es ∧ l'.nEleMax = l.nEleMax ∧
        e.apply { l with elements := a :: b :: es' } = .ok { l' with elements := a :: b' :: es' }

theorem actsInFront_of_mem_edits :
    ∀ e ∈ Lattice.edits, e.field ≠ "n_ele_max" → ActsInFront e := by
  simp only [Lattice.edits, List.forall_mem_cons, List.not_mem_nil, false_imp_iff, implies_true,
    and_true]
  and_intros
  all_goals intro hfield
  all_goals
    first
    | -- The count of elements is left out.
      exact absurd rfl hfield
    | refine ⟨fun _ _ _ _ => ⟨_, rfl, rfl, rfl⟩, ?_⟩
      intro l a b es es' l' h
      first
      | obtain ⟨n, hn, rfl⟩ := map_eq_ok_iff.1 h
        exact ⟨b, rfl, rfl, map_eq_ok_iff.2 ⟨n, hn, rfl⟩⟩
      | obtain rfl := Except.ok.inj h
        exact ⟨_, rfl, rfl, rfl⟩

/-- The other fields of a lattice do not depend on its elements. -/
theorem value_withElements (l : Lattice) (es : List Element) :
    ∀ f ∈ Lattice.shape.declared, f.key ≠ "ele" →
      f.value { l with elements := es } = f.value l := by
  simp only [Lattice.shape, Shape.declared, Fields.declared, List.map_cons, List.map_nil,
    List.forall_mem_cons, List.not_mem_nil, false_imp_iff, implies_true, and_true, true_and,
    Declared.within, Function.comp_def]
  exact absurd rfl

theorem numberAt?_place_withElements (field : String) (l : Lattice) (a b : Element)
    (es es' : List Element) :
    Lattice.shape.numberAt? (RecordKind.lattice.place field)
        { l with elements := a :: b :: es } =
      Lattice.shape.numberAt? (RecordKind.lattice.place field)
        { l with elements := a :: b :: es' } := by
  by_cases hfield : field = "ele"
  · have hreal (es : List Element) : Lattice.shape.numberAt? (RecordKind.lattice.place "ele")
        { l with elements := a :: b :: es } = some (.real b.s) := rfl
    rw [hfield, hreal, hreal]
  · rw [RecordKind.place, Shape.numberAt?_eq_bind rfl, Shape.numberAt?_eq_bind rfl]
    cases hf : Lattice.shape.field? field with
    | none => rfl
    | some f =>
      have hkey : f.key ≠ "ele" := Shape.key_of_field? hf ▸ hfield
      have hmem := Shape.mem_declared_of_field? hf
      rw [Option.bind_some, Option.bind_some, value_withElements l (a :: b :: es) f hmem hkey,
        value_withElements l (a :: b :: es') f hmem hkey]

/-- A lattice has the lists that its headers count, two elements at least. -/
structure Editable (l : Lattice) : Prop where
  checkShape : l.checkShape = .ok ()
  one_le : 1 ≤ l.nEleMax.toInt

section Editable

variable {l l' : Lattice}

theorem Editable.exists_elements_eq (h : l.Editable) : ∃ a b es, l.elements = a :: b :: es := by
  have hlen := lt_length_of_checkShape h.checkShape
  have hone := h.one_le
  match hes : l.elements with
  | [] | [_] =>
    rw [hes] at hlen
    simp only [List.length_nil, List.length_singleton] at hlen
    omega
  | a :: b :: es => exact ⟨a, b, es, rfl⟩

theorem ActsInFront.actsAt_of_editable {e : Edit Lattice} (he : ActsInFront e) (hl : l.Editable) :
    e.ActsAt increment Lattice.shape (RecordKind.lattice.place e.field) l := by
  obtain ⟨a, b, es, hes⟩ := hl.exists_elements_eq
  have hself : { l with elements := a :: b :: es } = l := by rw [← hes]
  have hacts := he.actsAt l a b es
  rwa [hself] at hacts

/-- An edit other than that of the count of elements leaves a lattice equal to what it was iff the
lattice is equal to itself, and the place of the edit holds a float that is equal to one more. -/
theorem ActsInFront.beq_iff {e : Edit Lattice} (he : ActsInFront e) (hl : l.Editable)
    (h : e.apply l = .ok l') : (l == l') = true ↔ (l == l) = true ∧
      ∃ x, Lattice.shape.numberAt? (RecordKind.lattice.place e.field) l = some (.real x) ∧
        (raise x == x) = true := by
  have hlen := lt_length_of_checkShape hl.checkShape
  have hone := hl.one_le
  obtain ⟨a, b, es, hes⟩ := hl.exists_elements_eq
  obtain ⟨m, hm⟩ : ∃ m, (l.nEleMax.toInt + 1).toNat = m + 2 :=
    ⟨(l.nEleMax.toInt - 1).toNat, by omega⟩
  have hself : { l with elements := a :: b :: es } = l := by rw [← hes]
  rw [← hself] at h
  obtain ⟨b', hb', hmax, happly⟩ := he.apply_eq_ok l a b es (es.take m) l' h
  -- What is not spare is edited like the lattice itself.
  have hspares : l.withoutSpares = { l with elements := a :: b :: es.take m } := by
    rw [withoutSpares, hes, hm]
    rfl
  have hspares' : l'.withoutSpares = { l' with elements := a :: b' :: es.take m } := by
    rw [withoutSpares, hb', hmax, hm]
    rfl
  have hactive : l.active?.isSome = true := (isSome_active?_iff l).2 (.inr hlen)
  have hactive' : l'.active?.isSome = true := by
    rw [isSome_active?_iff, hmax, hb']
    rw [hes] at hlen
    exact .inr hlen
  have hequal := (he.actsAt l a b (es.take m)).equal_iff increment_ne_ok happly
  rw [numberAt?_place_withElements e.field l a b (es.take m) es, hself] at hequal
  rw [beq_iff_withoutSpares, beq_iff_withoutSpares, and_iff_right hactive, and_iff_right hactive',
    and_iff_right hactive, and_iff_right hactive, hspares, hspares', hequal]

theorem apply_eq_of_nEleMax : ∀ e ∈ Lattice.edits, e.field = "n_ele_max" →
    ∀ l : Lattice, e.apply l = (fun n => { l with nEleMax := n }) <$> decrement l.nEleMax := by
  simp only [Lattice.edits, List.forall_mem_cons, List.not_mem_nil, false_imp_iff, implies_true,
    and_true]
  and_intros
  all_goals
    first
    | exact fun _ _ => rfl
    | intro hfield
      exact absurd hfield (by decide)

/-- The edit of the count of elements always shows. -/
theorem exists_apply_nEleMax {e : Edit Lattice} (he : e ∈ Lattice.edits)
    (hfield : e.field = "n_ele_max") (hl : l.Editable) :
    ∃ l', e.apply l = .ok l' ∧ (l == l') = false := by
  rw [apply_eq_of_nEleMax e he hfield, decrement_of_pos hl.one_le]
  refine ⟨_, rfl, ?_⟩
  rw [Bool.eq_false_iff]
  intro h
  have hmax : l.nEleMax = l.nEleMax - 1 := ((beq_iff _ _).1 h).1.nEleMax
  grind

end Editable

end Lattice

/-! ## Records -/

namespace RecordKind

/-- A record that is not a lattice may always be edited. -/
def Editable : (k : RecordKind) → k.Carrier → Prop
  | .lattice, l => Lattice.Editable l
  | _, _ => True

section Edits

variable {k : RecordKind} {es : List (Edit k.Carrier)} {e : Edit k.Carrier} {r r' : k.Carrier}

theorem field_ne_of_ne (hk : k ≠ .lattice) (hes : Record.edits = some es) :
    ∀ e ∈ es, e.field ≠ "n_ele_max" := by
  cases k
  case lattice => exact absurd rfl hk
  all_goals
    first
    | cases hes
      done
    | obtain rfl := Option.some_inj.1 hes
      decide

/-- An edit fails iff it is to add one to the greatest integer. -/
theorem apply_eq_error_iff (hes : Record.edits = some es) (he : e ∈ es) (hr : k.Editable r)
    {fault : Fault} : e.apply r = .error fault ↔ fault = .sumOverflow ∧ e.field ≠ "n_ele_max" ∧
      k.shape.numberAt? (k.place e.field) r = some (.integer 2147483647) := by
  by_cases hk : k = .lattice
  · subst hk
    obtain rfl := Option.some_inj.1 hes
    by_cases hfield : e.field = "n_ele_max"
    · obtain ⟨l', hl', -⟩ := Lattice.exists_apply_nEleMax he hfield hr
      rw [hl']
      exact iff_of_false nofun fun h => h.2.1 hfield
    · rw [and_iff_right hfield]
      have hfront := Lattice.actsInFront_of_mem_edits e he hfield
      exact (hfront.actsAt_of_editable hr).increment_eq_error_iff
  · rw [and_iff_right (field_ne_of_ne hk hes e he)]
    exact (actsAt_of_mem_edits hk hes r e he).increment_eq_error_iff

/-- An edit leaves a record equal to what it was iff the record is equal to itself, and the place of
the edit holds a float that is equal to one more. -/
theorem beq_apply_iff (hes : Record.edits = some es) (he : e ∈ es) (hr : k.Editable r)
    (h : e.apply r = .ok r') : (r == r') = true ↔ (r == r) = true ∧
      ∃ x, k.shape.numberAt? (k.place e.field) r = some (.real x) ∧ (raise x == x) = true := by
  by_cases hk : k = .lattice
  · subst hk
    obtain rfl := Option.some_inj.1 hes
    by_cases hfield : e.field = "n_ele_max"
    · obtain ⟨l', hl', hne⟩ := Lattice.exists_apply_nEleMax he hfield hr
      obtain rfl := Except.ok.inj (hl'.symm.trans h)
      apply iff_of_false (Bool.eq_false_iff.1 hne)
      rintro ⟨-, x, hx, -⟩
      rw [hfield] at hx
      cases hx.symm.trans (Lattice.numberAt?_counts r).2.1
    · exact (Lattice.actsInFront_of_mem_edits e he hfield).beq_iff hr h
  · have hanswers (r : k.Carrier) := answers_of_ne hk r
    rw [beq_iff_inUse, beq_iff_inUse, and_iff_right (hanswers r), and_iff_right (hanswers r'),
      and_iff_right (hanswers r), and_iff_right (hanswers r), inUse_of_ne hk, inUse_of_ne hk]
    exact (actsAt_of_mem_edits hk hes r e he).equal_iff increment_ne_ok h

/-- An edit fails iff it is to add one to the greatest integer; only the count of elements is taken
down.  The edited record is unequal to what it was, whichever way they are compared, unless that was
equal to itself and had a float in the place of the edit that is equal to one more; no float between
`-2 ^ 53` and `2 ^ 53` is. -/
theorem edits_show_iff (hes : Record.edits = some es) (he : e ∈ es) (hr : k.Editable r) :
    (∀ fault, e.apply r = .error fault ↔ fault = .sumOverflow ∧ e.field ≠ "n_ele_max" ∧
      k.shape.numberAt? (k.place e.field) r = some (.integer 2147483647)) ∧
    (∀ r', e.apply r = .ok r' → (r' == r) = (r == r') ∧
      ((r == r') = true ↔ (r == r) = true ∧
        ∃ x, k.shape.numberAt? (k.place e.field) r = some (.real x) ∧ (raise x == x) = true)) ∧
    ∀ x, k.shape.numberAt? (k.place e.field) r = some (.real x) →
      -9007199254740992 < x → x < 9007199254740992 →
        ∃ r', e.apply r = .ok r' ∧ (r == r') = false ∧ (r' == r) = false := by
  refine ⟨fun fault => apply_eq_error_iff hes he hr,
    fun r' h => ⟨BEq.comm, beq_apply_iff hes he hr h⟩, ?_⟩
  intro x hx hlow hhigh
  cases h : e.apply r with
  | error fault =>
    have hmax := ((apply_eq_error_iff hes he hr).1 h).2.2
    rw [hx] at hmax
    cases hmax
  | ok r' =>
    have hne : (r == r') = false := by
      rw [Bool.eq_false_iff, ne_eq, beq_apply_iff hes he hr h]
      rintro ⟨-, y, hy, hbeq⟩
      obtain rfl : x = y := by simpa [hx] using hy
      exact Bool.eq_false_iff.1 (raise_beq_of_lt hlow hhigh) hbeq
    exact ⟨r', rfl, hne, BEq.comm.trans hne⟩

end Edits

/-- A counter at the greatest integer, a float that is too great and one that is not, and the count
of the elements of a lattice. -/
theorem edits_show_iff_extreme :
    (∃ e ∈ TaylorTerm.edits, e.apply ⟨0, #v[0, 0, 0, 0, 0, 2147483647]⟩ = .error .sumOverflow) ∧
    (∃ e ∈ PhaseSpace.edits, ∃ r', e.apply ⟨#v[0, 0, 0, 1e16, 0, 0]⟩ = .ok r' ∧
      (r' == ⟨#v[0, 0, 0, 1e16, 0, 0]⟩) = true) ∧
    (∃ e ∈ PhaseSpace.edits, ∃ r', e.apply ⟨#v[0, 0, 0, 1e15, 0, 0]⟩ = .ok r' ∧
      (r' == ⟨#v[0, 0, 0, 1e15, 0, 0]⟩) = false) ∧
    ∃ e ∈ Lattice.edits, ∃ l', e.field = "n_ele_max" ∧ e.apply (Lattice.pattern 1) = .ok l' ∧
      ¬(Lattice.pattern 1 == l') = true := by
  refine ⟨⟨_, List.mem_cons_of_mem _ (List.mem_cons_self ..), ?_⟩,
    ⟨_, List.mem_cons_self .., _, rfl, ?_⟩, ⟨_, List.mem_cons_self .., ?_⟩, ?_⟩
  · exact ((edits_show_iff (k := .taylorTerm) rfl
      (List.mem_cons_of_mem _ (List.mem_cons_self ..)) trivial).1 _).2 ⟨rfl, by decide, rfl⟩
  · have hshow := (edits_show_iff (k := .phaseSpace) rfl (List.mem_cons_self ..) trivial
      (r := ⟨#v[0, 0, 0, 1e16, 0, 0]⟩)).2.1 _ rfl
    rw [hshow.1, hshow.2]
    exact ⟨by decide +kernel, 1e16, rfl, by decide +kernel⟩
  · obtain ⟨r', hr', -, hne⟩ := (edits_show_iff (k := .phaseSpace) rfl (List.mem_cons_self ..)
      trivial (r := ⟨#v[0, 0, 0, 1e15, 0, 0]⟩)).2.2 1e15 rfl (by decide +kernel)
      (by decide +kernel)
    exact ⟨r', hr', hne⟩
  · have heditable : Lattice.Editable (Lattice.pattern 1) := ⟨rfl, by decide⟩
    have hmem : Lattice.edits[10] ∈ Lattice.edits := List.getElem_mem _
    refine ⟨_, hmem, _, rfl, rfl, ?_⟩
    rw [((edits_show_iff (k := .lattice) rfl hmem heditable).2.1 _ rfl).2]
    rintro ⟨-, x, hx, -⟩
    cases hx

/-- Not every edit shows: a float of `1e16` is equal to one more. -/
theorem not_all_edits_show : ¬∀ (k : RecordKind) (es : List (Edit k.Carrier)),
    Record.edits = some es → ∀ e ∈ es, ∀ r : k.Carrier, k.Editable r →
      ∃ r', e.apply r = .ok r' ∧ (r != r') = true ∧ (r' != r) = true := by
  intro h
  obtain ⟨r', hr', hne, -⟩ := h .phaseSpace PhaseSpace.edits rfl _ (List.mem_cons_self ..)
    ⟨#v[0, 0, 0, 1e16, 0, 0]⟩ trivial
  obtain rfl := Except.ok.inj hr'
  revert hne
  decide +kernel

end RecordKind

end Accelerator
