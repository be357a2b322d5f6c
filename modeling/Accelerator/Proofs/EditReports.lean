import Accelerator.Proofs.Edits
import Accelerator.Proofs.GroupEvents

/-!
# What is reported of an edit

An edit that acts at a place leaves all fields but the one that the place is in as they are
(`Edit.ActsAt.sameBut`), and a record that is equal to what it was before the edit is the very same
(`Edit.ActsAt.eq_of_equal`).  Of the groups of element fields only the one that names the field of
the edit can tell (`agree_of_sameBut`).  So if the field has changed, that group is the only one
that does not match (`edits_show_in_their_group`).
-/

namespace Accelerator

/-! ## All fields but one -/

section Fields

variable {α : Type} {s : Shape α} {key : String} {a b : α}

/-- Two values are the same in every field but that of a key. -/
def Shape.SameBut (s : Shape α) (key : String) (a b : α) : Prop :=
  ∀ f ∈ s.declared, f.key ≠ key → f.value b = f.value a

/-- The same text is written under every other key. -/
theorem Shape.SameBut.writeField?_eq (h : s.SameBut key a b) :
    ∀ other ∈ s.keys, other ≠ key → s.writeField? other b = s.writeField? other a := by
  intro other hmem hother
  obtain ⟨f, hf⟩ := Shape.exists_field?_of_mem_keys hmem
  have hvalue := h f (Shape.mem_declared_of_field? hf) (Shape.key_of_field? hf ▸ hother)
  rw [Shape.writeField?_of_field? hf, Shape.writeField?_of_field? hf, hvalue]

variable {e : Edit α} {step : Int32 → Except Fault Int32} {path : List Step}

theorem Edit.ActsAt.sameBut (h : e.ActsAt step s (.key key :: path) a) (hb : e.apply a = .ok b) :
    s.SameBut key a b := by
  obtain ⟨part, hpart, -, happly⟩ := h
  obtain ⟨c, -, rfl⟩ := map_eq_ok_iff.1 (happly.symm.trans hb)
  intro f hf hkey
  exact Shape.value_put_of_focus? hpart f hf hkey c

/-- A part that holds a float equal to one more is not changed. -/
theorem Shape.change_eq_self (hs : s.hasChange = true) {x : Float}
    (hx : s.number? a = some (.real x)) (hraise : (raise x == x) = true) :
    s.change step a = .ok a := by
  cases s with
  | real =>
    cases hx
    exact congrArg Except.ok (raise_eq_of_beq hraise)
  | optional value =>
    rw [number?_optional_of_isRecord hs] at hx
    cases hx
  | _ => cases hx

/-- A value that is equal to what it was before the edit is the very same. -/
theorem Edit.ActsAt.eq_of_equal (h : e.ActsAt step s path a) (hstep : ∀ n, step n ≠ .ok n)
    (hb : e.apply a = .ok b) (hequal : s.equal a b = true) : b = a := by
  obtain ⟨-, x, hx, hraise⟩ := (h.equal_iff hstep hb).1 hequal
  obtain ⟨f, hf, hs, happly⟩ := h
  rw [Shape.numberAt?, hf, Option.bind_some] at hx
  rw [happly, Shape.change_eq_self hs hx hraise] at hb
  rw [← Except.ok.inj hb]
  exact (s.lawful_focus? path a hf).put_value

end Fields

/-! ## The group of a field -/

/-- If lists have no entry in common and none twice, then each entry is in just one of them. -/
theorem exists_filter_eq_singleton {α β : Type} [DecidableEq α] {f : β → List α} {a : α} :
    {l : List β} → (l.flatMap f).Nodup → a ∈ l.flatMap f → ∃ b, l.filter (a ∈ f ·) = [b]
  | b :: l, hnodup, ha => by
    rw [List.flatMap_cons, List.nodup_append'] at hnodup
    obtain ⟨-, hrest, hdisjoint⟩ := hnodup
    by_cases hb : a ∈ f b
    · have hnil : l.filter (a ∈ f ·) = [] := by
        rw [List.filter_eq_nil_iff]
        intro b' hb' hmem
        exact hdisjoint hb (List.mem_flatMap.2 ⟨b', hb', of_decide_eq_true hmem⟩)
      exact ⟨b, by rw [List.filter_cons_of_pos (by simpa using hb), hnil]⟩
    · have ha : a ∈ l.flatMap f := by simpa [hb] using ha
      obtain ⟨b', hb'⟩ := exists_filter_eq_singleton hrest ha
      exact ⟨b', by rw [List.filter_cons_of_neg (by simpa using hb), hb']⟩

section Groups

variable {key : String} {x x' : Element}

/-- Each field of an element is in just one group. -/
theorem exists_filter_groups_eq (hkey : key ∈ Element.shape.keys) :
    ∃ g, elementGroups.filter (key ∈ ·.fields) = [g] :=
  exists_filter_eq_singleton (elementGroups_perm_keys.nodup_iff.2 Element.nodup_keys)
    (elementGroups_perm_keys.mem_iff.2 hkey)

/-- A group that does not name the field in which two elements differ takes one like the other. -/
theorem agree_of_sameBut (h : Element.shape.SameBut key x x') {g : FieldGroup}
    (hg : g ∈ elementGroups) (hkey : key ∉ g.fields) (y : Element) :
    g.agree x' y = g.agree x y ∧ g.agree y x' = g.agree y x := by
  have hvalue : ∀ f ∈ g.covered, f.value x' = f.value x := by
    intro f hf
    have hmem : f.key ∈ g.fields := map_key_covered hg ▸ List.mem_map_of_mem hf
    apply h f (Shape.mem_declared_of_field? (FieldGroup.field?_of_mem_covered hf))
    rintro rfl
    exact hkey hmem
  exact ⟨agree_congr hg fun f hf => ⟨hvalue f hf, rfl⟩,
    agree_congr hg fun f hf => ⟨rfl, hvalue f hf⟩⟩

/-- If an element that is equal to itself changes in one field, then the only group to tell is the
one that names the field. -/
theorem filter_not_agree_eq (h : Element.shape.SameBut key x x') (hself : (x == x) = true)
    (hne : (x == x') = false) {g : FieldGroup}
    (hg : elementGroups.filter (key ∈ ·.fields) = [g]) :
    elementGroups.filter (fun g' => !g'.agree x x') = [g] := by
  rw [beq_eq_all_agree, List.all_eq_true] at hself
  have hother : ∀ g' ∈ elementGroups, key ∉ g'.fields → g'.agree x x' = true := by
    intro g' hg' hkey
    rw [(agree_of_sameBut h hg' hkey x).2]
    exact hself g' hg'
  have honly : ∀ g' ∈ elementGroups, key ∈ g'.fields → g' = g := by
    intro g' hg' hkey
    exact List.mem_singleton.1 (hg ▸ List.mem_filter.2 ⟨hg', decide_eq_true hkey⟩)
  have hdiffers : g.agree x x' = false := by
    rw [beq_eq_all_agree, List.all_eq_false] at hne
    obtain ⟨g', hg', hne⟩ := hne
    have hkey : key ∈ g'.fields := by
      by_contra hkey
      exact hne (hother g' hg' hkey)
    rw [← honly g' hg' hkey]
    exact Bool.eq_false_iff.2 hne
  rw [← hg]
  apply List.filter_congr
  intro g' hg'
  by_cases hkey : key ∈ g'.fields
  · rw [honly g' hg' hkey, hdiffers, decide_eq_true (honly g' hg' hkey ▸ hkey), Bool.not_false]
  · rw [hother g' hg' hkey, decide_eq_false hkey, Bool.not_true]

theorem unmatched_evaluate (x y : Element) : (evaluate x y).result.filter (!·.matched) =
    (elementGroups.filter fun g => !g.agree x y).map (·.judge x y) :=
  List.filter_map

end Groups

/-! ## Edits of elements -/

section Edits

variable {t : Edit Element} {e e' : Element}

/-- There is one edit for each field. -/
theorem Element.map_field_edits : Element.edits.map Edit.field = Element.shape.keys :=
  rfl

/-- An edit that goes through leaves every field but its own as it is, with the text that is written
under its key, and every group that does not name its field takes the edited element like the one
that it was, whatever that is compared to.  If that was equal to itself and the field has changed,
then one verdict of the report is that of a mismatch, that of the one group that names the field. -/
theorem edits_show_in_their_group (ht : t ∈ Element.edits) (he : t.apply e = .ok e') :
    t.field ∈ Element.shape.keys ∧
    (∀ f ∈ Element.shape.declared, f.key ≠ t.field → f.value e' = f.value e) ∧
    (∀ key ∈ Element.shape.keys, key ≠ t.field →
      Element.shape.writeField? key e' = Element.shape.writeField? key e) ∧
    (∀ g ∈ elementGroups, t.field ∉ g.fields → ∀ y,
      g.agree e' y = g.agree e y ∧ g.agree y e' = g.agree y e) ∧
    ((e == e) = true → ∀ f ∈ Element.shape.declared, f.key = t.field → f.value e' ≠ f.value e →
      ∃ g, elementGroups.filter (t.field ∈ ·.fields) = [g] ∧
        (evaluate e e').result.filter (!·.matched) = [⟨g.label, false⟩]) := by
  have hkey : t.field ∈ Element.shape.keys :=
    Element.map_field_edits ▸ List.mem_map_of_mem ht
  have hacts := Element.actsAt_of_mem_edits e t ht
  have hsame : Element.shape.SameBut t.field e e' := hacts.sameBut he
  refine ⟨hkey, hsame, hsame.writeField?_eq, fun g hg => agree_of_sameBut hsame hg, ?_⟩
  intro hself f _ _ hchanged
  have hne : (e == e') = false := by
    rw [Bool.eq_false_iff]
    intro hequal
    exact hchanged (congrArg f.value (hacts.eq_of_equal increment_ne_ok he hequal))
  obtain ⟨g, hg⟩ := exists_filter_groups_eq hkey
  have hfilter := filter_not_agree_eq hsame hself hne hg
  have hagree : g.agree e e' = false := by
    have hmem := List.mem_singleton_self g
    rw [← hfilter, List.mem_filter] at hmem
    simpa using hmem.2
  refine ⟨g, hg, ?_⟩
  rw [unmatched_evaluate, hfilter, List.map_singleton, FieldGroup.judge, hagree]

/-- The edit of the constants of a blank element shows in the group `const`, and not in that of the
wiggler terms, whatever element is compared. -/
theorem edits_show_in_their_group_constants :
    ∃ t ∈ Element.edits, ∃ e', t.field = "const_arr" ∧ t.apply Element.shape.blank = .ok e' ∧
      (Element.shape.blank == Element.shape.blank) = true ∧
      (evaluate Element.shape.blank e').result.filter (!·.matched) = [⟨"const", false⟩] ∧
      ∃ g ∈ elementGroups, g.label = "wig" ∧ "const_arr" ∉ g.fields ∧
        ∀ y, g.agree e' y = g.agree Element.shape.blank y := by
  have hmem : Element.edits[21] ∈ Element.edits := List.getElem_mem _
  have hfield : Element.shape.declared[21] ∈ Element.shape.declared := List.getElem_mem _
  have hself : (Element.shape.blank == Element.shape.blank) = true := by decide +kernel
  obtain ⟨-, -, -, hother, hshow⟩ := edits_show_in_their_group (e := Element.shape.blank) hmem rfl
  obtain ⟨g, hg, hresult⟩ := hshow hself _ hfield rfl (List.cons_ne_nil _ _)
  have hlabel : (elementGroups.filter ("const_arr" ∈ ·.fields)).map (·.label) = ["const"] := by
    decide +kernel
  have hwig : elementGroups[15] ∈ elementGroups := List.getElem_mem _
  have hconst : "const_arr" ∉ elementGroups[15].fields := by decide
  refine ⟨_, hmem, _, rfl, rfl, hself, ?_, _, hwig, rfl, hconst, ?_⟩
  swap
  · intro y
    exact (hother _ hwig hconst y).1
  rw [hresult]
  change elementGroups.filter ("const_arr" ∈ ·.fields) = [g] at hg
  rw [hg, List.map_singleton, List.singleton_inj] at hlabel
  rw [hlabel]

end Edits

end Accelerator
