import Accelerator.Proofs.Records
import Accelerator.Proofs.Shape.Members

/-!
# Records from the texts of objects

Nothing is filled in silently.  Whatever text an object has (`ObjectOf`), a record is read from it
iff every declared field is given by exactly one member and reads as what the field holds
(`RecordKind.read_eq_ok_iff_of_object`); only the wake of an element may be absent.  The order of
the members, blanks and unknown members make no difference (`RecordKind.read_congr_of_perm`), and
the list of the same values in declaration order is read alike
(`RecordKind.read_list_iff_read_object`).
-/

namespace Accelerator

open Json

/-! ## Texts of objects and lists -/

/-- The texts of a key and of a value are those of a member: the key reads as the name, and the
value is JSON. -/
structure ReadableMember (part : List Char × List Char) (m : String × List Char) : Prop where
  quoted : QuotedText part.1
  reads : Shape.text.readChars ('"' :: (part.1 ++ ['"'])) = .ok m.1
  json : ValueText part.2
  value : part.2 = m.2

/-- A text is that of an object with members, which are names and the texts of values; there may be
blanks around it. -/
inductive ObjectOf : List Char → List (String × List Char) → Prop
  | mk {w s w' : List Char} {parts : List (List Char × List Char)} {ms : List (String × List Char)}
      (hw : Blanks w) (hw' : Blanks w') (hs : ObjectText s parts)
      (hms : List.Forall₂ ReadableMember parts ms) : ObjectOf (w ++ (s ++ w')) ms

/-- A text is that of a list with values; there may be blanks around it. -/
inductive ListOf : List Char → List (List Char) → Prop
  | mk {w s w' : List Char} {vs : List (List Char)} (hw : Blanks w) (hw' : Blanks w')
      (hs : ListText s vs) (hvs : ∀ v ∈ vs, ValueText v) : ListOf (w ++ (s ++ w')) vs

theorem Json.ValueText.readChars {v : List Char} (h : ValueText v) {α : Type} (s : Shape α) :
    s.readChars v = s.decode (documentOf v) :=
  s.readChars_eq_decode h.writes.1

theorem Json.QuotedText.readChars {s : List Char} (h : QuotedText s) :
    Shape.text.readChars ('"' :: (s ++ ['"'])) = (quotedOf s).decode :=
  Shape.text.readChars_eq_decode h.writesKey_quotedOf.writes

section Texts

variable {α : Type} {s : Shape α} {text : List Char}

/-- The text of an object is read iff every declared field is given its value by the members. -/
theorem ObjectOf.readChars_eq_ok_iff {ms : List (String × List Char)} (h : ObjectOf text ms)
    (hrec : s.isRecord = true) (hs : s.sound = true) (a : α) : s.readChars text = .ok a ↔
      ∀ f ∈ s.declared, GivenAt f.shape.readChars f.shape.absent? f.key ms (f.value a) := by
  obtain @⟨w, p, w', parts, ms, hw, hw', hp, hms⟩ := h
  have hkeys : ∀ part ∈ parts, QuotedText part.1 :=
    ((List.forall₂_and_left _ _).1 (hms.imp fun _ _ h => ⟨h.quoted, h⟩)).1
  have hparts : ∀ part ∈ parts, ValueText part.2 :=
    ((List.forall₂_and_left _ _).1 (hms.imp fun _ _ h => ⟨h.json, h⟩)).1
  have hvs : ∀ m ∈ ms, ValueText m.2 :=
    ((List.forall₂_and_left _ _).1 (hms.flip.imp fun _ _ h => ⟨h.value ▸ h.json, h⟩)).1
  have hnames : List.Forall₂ (fun n m => n.1.decode = .ok m.1 ∧ n.2 = m.2)
      (parts.map fun part => (quotedOf part.1, documentOf part.2))
      (ms.map fun m => (m.1, documentOf m.2)) := by
    rw [List.forall₂_map_left_iff, List.forall₂_map_right_iff]
    apply hms.imp
    intro part m h
    exact ⟨h.quoted.readChars.symm.trans h.reads, congrArg documentOf h.value⟩
  have hpass : ∀ m ∈ ms, (documentOf m.2).pass = .ok () := fun m hm => (hvs m hm).writes.2
  rw [s.readChars_of_writes (ObjectText.writes hp hkeys fun part h => (hparts part h).writes.1) hw
    hw', Shape.decode_object_ofParts hrec hnames, Shape.decode_object_iff hrec hs,
    List.forall_mem_map, and_iff_left fun m hm _ => hpass m hm]
  exact forall₂_congr fun f _ => givenAt_map_iff (fun m hm => ((hvs m hm).readChars f.shape).symm) _

/-- The text of a list is read iff its values are those of the declared fields, in order. -/
theorem ListOf.readChars_eq_ok_iff {vs : List (List Char)} (h : ListOf text vs)
    (hrec : s.isRecord = true) (a : α) : s.readChars text = .ok a ↔
      List.Forall₂ (fun f v => f.shape.readChars v = .ok (f.value a)) s.declared vs := by
  obtain ⟨hw, hw', hp, hvs⟩ := h
  rw [s.readChars_of_writes (ListText.writes hp fun v hv => (hvs v hv).writes.1) hw hw',
    Shape.decode_list_iff hrec, List.forall₂_map_right_iff, List.forall₂_iff_zip,
    List.forall₂_iff_zip]
  refine and_congr_right fun _ => forall₂_congr fun f v => forall_congr' fun hmem => ?_
  rw [(hvs v (List.of_mem_zip hmem).2).readChars]

/-- The values of the fields, each of them given by one member. -/
theorem forall₂_reads_iff_givenAt {ms : List (String × List Char)} {fs : List (Declared α)}
    {vs : List (List Char)} (h : List.Forall₂ (fun f v => valuesAt f.key ms = [v]) fs vs) (a : α) :
    List.Forall₂ (fun f v => f.shape.readChars v = .ok (f.value a)) fs vs ↔
      ∀ f ∈ fs, GivenAt f.shape.readChars f.shape.absent? f.key ms (f.value a) := by
  induction h with
  | nil => exact iff_of_true .nil nofun
  | cons hv _ ih => rw [List.forall₂_cons, List.forall_mem_cons, givenAt_of_valuesAt_eq hv, ih]

end Texts

/-! ## Records -/

namespace RecordKind

variable (k : RecordKind)

theorem isRecord_shape : k.shape.isRecord = true := by
  cases k <;> rfl

/-- Only the wake of an element may be absent. -/
theorem isSome_absent?_iff : ∀ f ∈ k.shape.declared,
    (f.shape.absent?.isSome = true ↔ k = .element ∧ f.key = "wake") := by
  have hall : (k.shape.declared.all fun f =>
      f.shape.absent?.isSome == decide (k = .element ∧ f.key = "wake")) = true := by
    cases k <;> decide
  intro f hf
  have := List.all_eq_true.1 hall f hf
  rw [beq_iff_eq] at this
  rw [this, decide_eq_true_iff]

variable {k : RecordKind} {text : String} {ms : List (String × List Char)}

theorem read_eq_ok_iff_of_object (h : ObjectOf text.toList ms) (r : k.Carrier) :
    Record.read text = .ok r ↔
      ∀ f ∈ k.shape.declared, GivenAt f.shape.readChars f.shape.absent? f.key ms (f.value r) :=
  h.readChars_eq_ok_iff k.isRecord_shape k.sound_shape r

/-- An object is read iff every declared key is that of one member, with a value that reads as the
field; the wake of an element may be absent. -/
theorem exists_read_iff_of_object (h : ObjectOf text.toList ms) :
    (∃ r : k.Carrier, Record.read text = .ok r) ↔ ∀ f ∈ k.shape.declared,
      (∃ v, valuesAt f.key ms = [v] ∧ ∃ a, f.shape.readChars v = .ok a) ∨
        (valuesAt f.key ms = [] ∧ k = .element ∧ f.key = "wake") := by
  have hgiven : ∀ f ∈ k.shape.declared,
      ((∃ a, GivenAt f.shape.readChars f.shape.absent? f.key ms a) ↔
        (∃ v, valuesAt f.key ms = [v] ∧ ∃ a, f.shape.readChars v = .ok a) ∨
          (valuesAt f.key ms = [] ∧ k = .element ∧ f.key = "wake")) := by
    intro f hf
    rw [exists_givenAt_iff, k.isSome_absent?_iff f hf]
  rw [← forall₂_congr hgiven]
  simp only [read_eq_ok_iff_of_object h]
  constructor
  · rintro ⟨r, hr⟩ f hf
    exact ⟨_, hr f hf⟩
  · exact Shape.exists_of_declared
      (P := fun key s a => GivenAt s.readChars s.absent? key ms a) k.isRecord_shape

/-- The order of the members and unknown members make no difference. -/
theorem read_congr_of_perm (h : ObjectOf text.toList ms) {text' : String}
    {ms' : List (String × List Char)} (h' : ObjectOf text'.toList ms')
    (hperm : (ms.filter fun m => m.1 ∈ k.shape.keys).Perm (ms'.filter fun m => m.1 ∈ k.shape.keys))
    (r : k.Carrier) :
    Record.read text' = .ok r ↔ Record.read text = .ok r := by
  rw [read_eq_ok_iff_of_object h, read_eq_ok_iff_of_object h']
  apply forall₂_congr
  intro f hf
  apply givenAt_congr_of_perm
  refine (perm_valuesAt ?_ hperm).symm
  intro m hm
  apply decide_eq_true
  rw [hm, ← k.shape.map_key_declared]
  exact List.mem_map_of_mem hf

/-- The list of the values in the order of declaration is read alike. -/
theorem read_list_iff_read_object (h : ObjectOf text.toList ms) {text' : String}
    {vs : List (List Char)} (h' : ListOf text'.toList vs)
    (hvs : List.Forall₂ (fun f v => valuesAt f.key ms = [v]) k.shape.declared vs) (r : k.Carrier) :
    Record.read text' = .ok r ↔ Record.read text = .ok r := by
  rw [read_eq_ok_iff_of_object h, ← forall₂_reads_iff_givenAt hvs]
  exact h'.readChars_eq_ok_iff k.isRecord_shape r

end RecordKind

namespace Element

/-- The wake as a declared field. -/
def wakeField : Declared Element :=
  ⟨"wake", Option Wakefield, .optional Wakefield.shape, Element.wake⟩

theorem wakeField_mem : wakeField ∈ Element.shape.declared :=
  List.mem_of_getElem? (i := 25) rfl

/-- An element that is read without a wake has none. -/
theorem wake_eq_none_of_read {text : String} {ms : List (String × List Char)}
    (h : ObjectOf text.toList ms) (hms : valuesAt "wake" ms = []) {e : Element}
    (he : Record.read text = .ok e) : e.wake = none := by
  rcases (RecordKind.read_eq_ok_iff_of_object (k := .element) h e).1 he _ wakeField_mem with
    ⟨v, hv, -⟩ | ⟨-, hwake⟩
  · exact absurd (hms.symm.trans hv) (List.cons_ne_nil v []).symm
  · exact (Option.some_inj.1 hwake).symm

end Element

/-- A record is read from the text of an object iff every declared key is that of exactly one member
and the value there reads as the field; only the wake of an element may be absent, and is absent
then.  Each field of the record holds what its value is read as.  Neither the order of the members
nor unknown members nor blanks make a difference, and the list of the same values in the order of
declaration is read as the same record. -/
theorem RecordKind.no_silent_defaults (k : RecordKind) {text : String}
    {ms : List (String × List Char)} (h : ObjectOf text.toList ms) :
    ((∃ r : k.Carrier, Record.read text = .ok r) ↔ ∀ f ∈ k.shape.declared,
      (∃ v, valuesAt f.key ms = [v] ∧ ∃ a, f.shape.readChars v = .ok a) ∨
        (valuesAt f.key ms = [] ∧ k = .element ∧ f.key = "wake")) ∧
    (∀ r : k.Carrier, Record.read text = .ok r ↔ ∀ f ∈ k.shape.declared,
      GivenAt f.shape.readChars f.shape.absent? f.key ms (f.value r)) ∧
    (∀ e : Element, Record.read text = .ok e → valuesAt "wake" ms = [] → e.wake = none) ∧
    (∀ (text' : String) (ms' : List (String × List Char)), ObjectOf text'.toList ms' →
      (ms.filter fun m => m.1 ∈ k.shape.keys).Perm (ms'.filter fun m => m.1 ∈ k.shape.keys) →
      ∀ r : k.Carrier, Record.read text' = .ok r ↔ Record.read text = .ok r) ∧
    ∀ (text' : String) (vs : List (List Char)), ListOf text'.toList vs →
      List.Forall₂ (fun f v => valuesAt f.key ms = [v]) k.shape.declared vs →
      ∀ r : k.Carrier, Record.read text' = .ok r ↔ Record.read text = .ok r := by
  refine ⟨exists_read_iff_of_object h, read_eq_ok_iff_of_object h, ?_, ?_, ?_⟩
  · intro e he hms
    exact Element.wake_eq_none_of_read h hms he
  · intro text' ms' h' hperm
    exact read_congr_of_perm h h' hperm
  · intro text' vs h' hvs
    exact read_list_iff_read_object h h' hvs

/-! ## An object in disorder -/

/-- A summary with blanks, its members in another order, an unknown member twice, and an escape in a
key. -/
def scrambled : String :=
  " \x7b\"chrom\":1,\"x\":[\x7b\x7d],\"\\u0065mit\" : 2,\"x\":[\x7b\x7d],\"tune\":0.5\x7d\n"

/-- The members of the text. -/
def scrambledMembers : List (String × List Char) := [
  ("chrom", ['1']), ("x", ['[', '{', '}', ']']), ("emit", ['2']), ("x", ['[', '{', '}', ']']),
  ("tune", ['0', '.', '5'])]

theorem objectOf_scrambled : ObjectOf scrambled.toList scrambledMembers := by
  have hblank : Blanks [' '] := List.forall_mem_singleton.2 rfl
  have hplain (key v : List Char) :=
    @MemberText.mk [] [] [] [] key v blanks_nil blanks_nil blanks_nil blanks_nil
  have hchrom := hplain ['c', 'h', 'r', 'o', 'm'] ['1']
  have hx := hplain ['x'] ['[', '{', '}', ']']
  have hemit := @MemberText.mk [] [' '] [' '] [] ['\\', 'u', '0', '0', '6', '5', 'm', 'i', 't']
    ['2'] blanks_nil hblank hblank blanks_nil
  have htune := hplain ['t', 'u', 'n', 'e'] ['0', '.', '5']
  -- The texts of the values.
  have hone : ValueText ['1'] :=
    @ValueText.number ⟨false, [1], [], none⟩ 'e' ⟨by decide, by decide, nofun⟩ (.inl rfl)
  have htwo : ValueText ['2'] :=
    @ValueText.number ⟨false, [2], [], none⟩ 'e' ⟨by decide, by decide, nofun⟩ (.inl rfl)
  have hhalf : ValueText ['0', '.', '5'] :=
    @ValueText.number ⟨false, [0], [5], none⟩ 'e' ⟨by decide, by decide, nofun⟩ (.inl rfl)
  have hempty : ValueText ['{', '}'] := .object (.empty blanks_nil) nofun nofun
  have hlist : ValueText ['[', '{', '}', ']'] :=
    .list (.parts (.one (ItemText.mk ['{', '}'] blanks_nil blanks_nil)))
      (List.forall_mem_singleton.2 hempty)
  have hmember {key v : List Char} {name : String} (hq : QuotedText key)
      (hname : (Shape.text.readChars ('"' :: (key ++ ['"']))).toOption = some name)
      (hv : ValueText v) : ReadableMember (key, v) (name, v) :=
    ⟨hq, eq_ok_of_toOption_eq hname, hv, rfl⟩
  refine @ObjectOf.mk [' '] _ ['\n'] _ _ hblank (List.forall_mem_singleton.2 rfl)
    (.parts (.cons hchrom (.cons hx (.cons hemit (.cons hx (.one htune))))))
    (.cons ?_ (.cons ?_ (.cons ?_ (.cons ?_ (.cons ?_ .nil)))))
  · exact hmember (quotedText_of_plain (by simp)) (by decide +kernel) hone
  · exact hmember (quotedText_of_plain (by simp)) (by decide +kernel) hlist
  · exact hmember (.code (by simp [hexDigits]) (quotedText_of_plain (by simp))) (by decide +kernel)
      htwo
  · exact hmember (quotedText_of_plain (by simp)) (by decide +kernel) hlist
  · exact hmember (quotedText_of_plain (by simp)) (by decide +kernel) hhalf

/-- The summary is read all the same. -/
theorem RecordKind.no_silent_defaults_scrambled :
    ObjectOf scrambled.toList scrambledMembers ∧
      Record.read scrambled = .ok (⟨0.5, 2, 1⟩ : PlaneSummary) := by
  refine ⟨objectOf_scrambled, ?_⟩
  have hreads {v : List Char} {x : Float} (h : (Shape.real.readChars v).toOption = some x) :
      Shape.real.readChars v = .ok x := eq_ok_of_toOption_eq h
  apply ((RecordKind.no_silent_defaults .planeSummary objectOf_scrambled).2.1 ⟨0.5, 2, 1⟩).2
  refine List.forall_mem_cons.2 ⟨.inl ⟨_, rfl, hreads (by decide +kernel)⟩, ?_⟩
  refine List.forall_mem_cons.2 ⟨.inl ⟨_, rfl, hreads (by decide +kernel)⟩, ?_⟩
  exact List.forall_mem_singleton.2 (.inl ⟨_, rfl, hreads (by decide +kernel)⟩)

end Accelerator
