import Accelerator.Proofs.Groups
import Accelerator.Proofs.Shape.Places

/-!
# What is reported of two elements

A group agrees on two elements iff they are equal in every field that is written under a key of the
group, each under its own rule (`agree_eq_all_covered`); fields of other groups do not matter
(`agree_congr`).  So an event is reported for just the groups that have a differing field, once for
each and in order (`events_evaluate`), and none iff the elements are equal
(`events_evaluate_eq_nil_iff`).
-/

namespace Accelerator

/-! ## What a group covers -/

/-- The fields of an element that a group names, in order. -/
def FieldGroup.covered (g : FieldGroup) : List (Declared Element) :=
  g.fields.filterMap Element.shape.field?

variable {g : FieldGroup}

theorem exists_field?_of_mem (hg : g ∈ elementGroups) {key : String} (hkey : key ∈ g.fields) :
    ∃ f, Element.shape.field? key = some f :=
  Shape.exists_field?_of_mem_keys
    (elementGroups_perm_keys.mem_iff.1 (List.mem_flatMap.2 ⟨g, hg, hkey⟩))

theorem FieldGroup.field?_of_mem_covered {f : Declared Element} (hf : f ∈ g.covered) :
    Element.shape.field? f.key = some f := by
  obtain ⟨key, -, hkey⟩ := List.mem_filterMap.1 hf
  rwa [Shape.key_of_field? hkey]

theorem map_key_covered (hg : g ∈ elementGroups) : g.covered.map Declared.key = g.fields := by
  have hkeys : ∀ key ∈ g.fields, (Element.shape.field? key).map Declared.key = some key := by
    intro key hkey
    obtain ⟨f, hf⟩ := exists_field?_of_mem hg hkey
    rw [hf, Option.map_some, Shape.key_of_field? hf]
  rw [FieldGroup.covered, List.map_filterMap, List.filterMap_congr hkeys, List.filterMap_some]

/-- A group agrees on two elements iff they are equal in every field that it names. -/
theorem agree_eq_all_covered (hg : g ∈ elementGroups) (x y : Element) :
    g.agree x y = g.covered.all (·.same x y) := by
  rw [agree_eq_all_equalAt x y g hg, Bool.eq_iff_iff, List.all_eq_true, List.all_eq_true]
  constructor
  · intro h f hf
    obtain ⟨key, hkey, hfield⟩ := List.mem_filterMap.1 hf
    rw [← Shape.equalAt_of_field? hfield]
    exact h key hkey
  · intro h key hkey
    obtain ⟨f, hf⟩ := exists_field?_of_mem hg hkey
    rw [Shape.equalAt_of_field? hf]
    exact h f (List.mem_filterMap.2 ⟨key, hkey, hf⟩)

/-- A verdict depends on nothing but the equality of the fields that the group names. -/
theorem agree_eq_of_same (hg : g ∈ elementGroups) {x x' y y' : Element}
    (h : ∀ f ∈ g.covered, f.same x' y' = f.same x y) : g.agree x' y' = g.agree x y := by
  rw [agree_eq_all_covered hg, agree_eq_all_covered hg, Bool.eq_iff_iff]
  simp only [List.all_eq_true]
  exact forall₂_congr fun f hf => by rw [h f hf]

/-- Fields of other groups do not matter. -/
theorem agree_congr (hg : g ∈ elementGroups) {x x' y y' : Element}
    (h : ∀ f ∈ g.covered, f.value x' = f.value x ∧ f.value y' = f.value y) :
    g.agree x' y' = g.agree x y := by
  apply agree_eq_of_same hg
  intro f hf
  rw [Declared.same, Declared.same, (h f hf).1, (h f hf).2]

/-! ## Events -/

/-- No two groups are reported alike. -/
theorem nodup_map_differs : (elementGroups.map FieldGroup.differs).Nodup := by
  decide

/-- An event is reported for just the groups that have a differing field, in order. -/
theorem events_evaluate (x y : Element) :
    (evaluate x y).events =
      (elementGroups.filter fun g => g.covered.any fun f => !f.same x y).map (·.differs) := by
  have hdiffers : ∀ g ∈ elementGroups,
      (!g.agree x y) = g.covered.any fun f => !f.same x y := by
    intro g hg
    rw [agree_eq_all_covered hg, List.all_eq_not_any_not, Bool.not_not]
  rw [evaluate, List.filter_congr hdiffers]

theorem nodup_events_evaluate (x y : Element) : (evaluate x y).events.Nodup :=
  nodup_map_differs.sublist (List.filter_sublist.map _)

/-- Nothing is reported iff the elements are equal. -/
theorem events_evaluate_eq_nil_iff (x y : Element) :
    (evaluate x y).events = [] ↔ (x == y) = true := by
  rw [beq_eq_all_agree, evaluate, List.map_eq_nil_iff, List.filter_eq_nil_iff, List.all_eq_true]
  simp only [Bool.not_eq_true', Bool.not_eq_false]

/-- A group names fields of an element, and agrees on two elements iff they are equal in those; what
is written under other keys does not matter. So an event is reported for just the groups that have a
differing field, once for each and in order, and none iff the elements are equal. -/
theorem groups_report_their_fields (x y : Element) :
    (∀ g ∈ elementGroups,
      g.covered.map Declared.key = g.fields ∧
      (∀ f ∈ g.covered, f ∈ Element.shape.declared ∧
        ∀ e, Element.shape.writeField? f.key e = some (f.shape.write (f.value e))) ∧
      (g.agree x y = true ↔ ∀ f ∈ g.covered, f.same x y = true) ∧
      ∀ x' y', (∀ f ∈ g.covered, f.value x' = f.value x ∧ f.value y' = f.value y) →
        g.agree x' y' = g.agree x y) ∧
    (evaluate x y).events =
      (elementGroups.filter fun g => g.covered.any fun f => !f.same x y).map (·.differs) ∧
    (∀ event ∈ (evaluate x y).events,
      event.level = .debug ∧ event.message = "element group differs") ∧
    (evaluate x y).events.Nodup ∧
    ((evaluate x y).events = [] ↔ (x == y) = true) := by
  refine ⟨fun g hg => ⟨map_key_covered hg, fun f hf => ⟨?_, ?_⟩, ?_, ?_⟩, events_evaluate x y, ?_,
    nodup_events_evaluate x y, events_evaluate_eq_nil_iff x y⟩
  · exact Shape.mem_declared_of_field? (FieldGroup.field?_of_mem_covered hf)
  · exact Shape.writeField?_of_field? (FieldGroup.field?_of_mem_covered hf)
  · rw [agree_eq_all_covered hg, List.all_eq_true]
  · intro x' y' h
    exact agree_congr hg h
  · intro event hevent
    obtain ⟨g, -, rfl⟩ := List.mem_map.1 hevent
    exact ⟨rfl, rfl⟩

/-- An element that is blank but for its energy factor. -/
def Element.energetic : Element :=
  { Element.shape.blank with gammaC := 1 }

/-- Elements of other energy factors: the group of `gamma_c` is reported, and no other. -/
theorem groups_report_their_fields_energetic :
    (∃ g ∈ elementGroups, "gamma_c" ∈ g.fields ∧
      ∃ f ∈ g.covered, f.same Element.shape.blank Element.energetic = false) ∧
    (evaluate Element.shape.blank Element.energetic).events.map (·.values.head?) =
      [some ("group", .string "int")] ∧
    (Element.shape.blank == Element.energetic) = false := by
  obtain ⟨hgroups, -, -, -, hnil⟩ :=
    groups_report_their_fields Element.shape.blank Element.energetic
  have hint : (evaluate Element.shape.blank Element.energetic).events.map (·.values.head?) =
      [some ("group", .string "int")] := by
    decide +kernel
  refine ⟨?_, hint, ?_⟩
  · obtain ⟨g, hg, hkey, hagree⟩ : ∃ g ∈ elementGroups, "gamma_c" ∈ g.fields ∧
        g.agree Element.shape.blank Element.energetic = false := by
      decide +kernel
    obtain ⟨-, -, hiff, -⟩ := hgroups g hg
    refine ⟨g, hg, hkey, ?_⟩
    rw [← Bool.not_eq_true, hiff] at hagree
    push Not at hagree
    simpa using hagree
  · rw [← Bool.not_eq_true, ← hnil]
    intro h
    rw [h] at hint
    cases hint

end Accelerator
