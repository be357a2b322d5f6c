import Accelerator.Json.Fault
import Accelerator.Proofs.Json.Grammar
import Accelerator.Proofs.Json.Quoted
import Mathlib.Data.List.Forall2

/-!
# Documents that are written and read

A text scans as the document it is the text of (`Writes`), whatever comes before and after it as
long as blanks come before it and no number goes on after it: words, numbers and strings do, and
lists and objects do if their parts do (`writes_of_enclosed_items`, `writes_of_enclosed_members`),
with any blanks between them.  Hence every text of a value is that of a document, and it is passed
over without a fault (`ValueText.writes`).  What is written are such texts without blanks.
-/

namespace Accelerator.Json

/-! ## Blanks -/

/-- A scan finds `d`, and `t` follows it. -/
def Finds {δ : Type} {s : List Char} (scan : δ × Rest s) (d : δ) (t : List Char) : Prop :=
  ∃ h, scan = (d, some ⟨t, h⟩)

theorem blanks_nil : Blanks [] := nofun

theorem skipBlanks_cons {c : Char} (h : isSeparator c = false) (r : List Char) :
    skipBlanks (c :: r) = c :: r := by
  rw [skipBlanks, List.dropWhile_cons_of_neg (by rw [h]; exact Bool.false_ne_true)]

theorem skipBlanks_append {w : List Char} (hw : Blanks w) (s : List Char) :
    skipBlanks (w ++ s) = skipBlanks s :=
  List.dropWhile_append_of_pos hw

theorem skipBlanks_append_cons {w : List Char} (hw : Blanks w) {c : Char}
    (h : isSeparator c = false) (r : List Char) : skipBlanks (w ++ c :: r) = c :: r := by
  rw [skipBlanks_append hw, skipBlanks_cons h]

theorem ends_blanks_append {w t : List Char} (hw : Blanks w) (ht : Numeral.Ends t) :
    Numeral.Ends (w ++ t) := by
  have hsep : ∀ c, isSeparator c = true →
      Digit.ofChar? c = none ∧ c ≠ '.' ∧ c ≠ 'e' ∧ c ≠ 'E' := by
    intro c hc
    simp only [isSeparator, Bool.or_eq_true, decide_eq_true_eq] at hc
    rcases hc with ((rfl | rfl) | rfl) | rfl <;> decide
  cases w with
  | nil => exact ht
  | cons c w => exact Numeral.ends_cons _ (hsep c (hw c List.mem_cons_self))

/-- A text that does not start with a separator. -/
def Starts (s : List Char) : Prop :=
  ∃ c r, s = c :: r ∧ isSeparator c = false

theorem Starts.skipBlanks_append {s : List Char} (h : Starts s) (t : List Char) :
    skipBlanks (s ++ t) = s ++ t := by
  obtain ⟨c, r, rfl, hc⟩ := h
  exact skipBlanks_cons hc (r ++ t)

namespace Document

variable {s r t u : List Char} {d : Document} {items : Items} {members : Members}

/-! ## Words, numbers and strings -/

theorem scanLetters_append (letters t : List Char) :
    scanLetters letters (letters ++ t) = .ok t := by
  induction letters with
  | nil => rfl
  | cons l ls ih =>
    change (if l = l then scanLetters ls (ls ++ t) else _) = _
    rw [if_pos rfl, ih]

theorem finds_wordAt (w : Word) (letters t : List Char) {s : List Char}
    (h : (letters ++ t).length < s.length) :
    Finds (wordAt w letters (letters ++ t) h) (.word w) t := by
  unfold wordAt
  split
  · next e =>
    rw [scanLetters_append] at e
    cases e
    exact ⟨_, rfl⟩
  · next e =>
    rw [scanLetters_append] at e
    cases e

theorem finds_nullText (hs : skipBlanks s = nullText ++ t) : Finds (scan s) (.word .null) t := by
  rw [scan]
  split
  case h_2 h =>
    rw [hs] at h
    cases h
    exact finds_wordAt .null ['u', 'l', 'l'] t _
  all_goals
    next h =>
      rw [hs] at h
      cases h <;> contradiction

theorem finds_flagText (b : Bool) (hs : skipBlanks s = flagText b ++ t) :
    Finds (scan s) (.word (.flag b)) t := by
  cases b
  · rw [scan]
    split
    case h_4 h =>
      rw [hs] at h
      cases h
      exact finds_wordAt (.flag false) ['a', 'l', 's', 'e'] t _
    all_goals
      next h =>
        rw [hs] at h
        cases h <;> contradiction
  · rw [scan]
    split
    case h_3 h =>
      rw [hs] at h
      cases h
      exact finds_wordAt (.flag true) ['r', 'u', 'e'] t _
    all_goals
      next h =>
        rw [hs] at h
        cases h <;> contradiction

theorem finds_string {q : Quoted} (hs : skipBlanks s = '"' :: r) (hq : Quoted.scan r = (q, t))
    (hclosed : q.ending = .closed) : Finds (scan s) (.string q) t := by
  rw [scan]
  split
  case h_5 h =>
    rw [hs] at h
    cases h
    unfold quotedAt
    simp only [hq, hclosed, if_true]
    exact ⟨_, rfl⟩
  all_goals
    next h =>
      rw [hs] at h
      cases h <;> contradiction

section Numbers

variable {n : Numeral} {letter : Char}

theorem finds_numberAt (hn : n.Proper) (hletter : letter = 'e' ∨ letter = 'E')
    (ht : Numeral.Ends t) (h : (n.unsignedText letter ++ t).length ≤ s.length) :
    Finds (numberAt n.negative (n.unsignedText letter ++ t) h) (.number n) t := by
  have hscan := Numeral.scan_text_append hletter hn ht
  unfold numberAt
  split
  · next e =>
    rw [hscan] at e
    cases e
    exact ⟨_, rfl⟩
  · next e =>
    rw [hscan] at e
    cases e

theorem isSeparator_char : ∀ d : Digit, isSeparator d.char = false := by
  decide

theorem char_ne_start {c : Char} (hc : c ∈ ['n', 't', 'f', '"', '[', '{', '-']) (d : Digit) :
    d.char ≠ c := by
  rintro rfl
  revert d
  decide

theorem finds_number (hn : n.Proper) (hletter : letter = 'e' ∨ letter = 'E')
    (hs : skipBlanks s = n.signText ++ n.unsignedText letter ++ t) (ht : Numeral.Ends t) :
    Finds (scan s) (.number n) t := by
  have hnum := fun (s : List Char) (h) => finds_numberAt (s := s) hn hletter ht h
  obtain ⟨d, es, -, hd⟩ := Numeral.digitText_ne_nil hn.whole_ne_nil
  have hfirst : ∃ r, n.unsignedText letter ++ t = d.char :: r := by
    rw [Numeral.unsignedText, hd]
    exact ⟨_, rfl⟩
  rw [Numeral.signText, List.append_assoc] at hs
  cases hneg : n.negative
  · rw [hneg] at hnum hs
    rw [if_neg Bool.false_ne_true, List.nil_append] at hs
    generalize n.unsignedText letter ++ t = body at hnum hfirst hs
    obtain ⟨r, rfl⟩ := hfirst
    rw [scan]
    split
    case h_9 h =>
      rw [hs] at h
      cases h
      rw [if_pos (by rw [Digit.ofChar?_char]; rfl)]
      exact hnum _ _
    case h_1 h =>
      rw [hs] at h
      cases h
    all_goals
      next h =>
        rw [hs] at h
        exact absurd (List.cons.inj h).1 (char_ne_start (by decide) d)
  · rw [hneg, if_pos rfl] at hs
    rw [scan]
    split
    case h_8 h =>
      rw [hs] at h
      cases h
      rw [hneg] at hnum
      exact hnum _ _
    all_goals
      next h =>
        rw [hs] at h
        cases h <;> contradiction

end Numbers

/-! ## Lists -/

/-- Where a value is found, no list ends. -/
theorem skipBlanks_ne_of_finds (h : Finds (scan s) d t) :
    skipBlanks s ≠ [] ∧ skipBlanks s ≠ ']' :: r := by
  obtain ⟨ht, h⟩ := h
  constructor
  · intro hs
    rw [scan] at h
    split at h
    case h_1 => cases h
    all_goals
      next h' =>
        rw [hs] at h'
        cases h'
  · intro hs
    rw [scan] at h
    split at h
    case h_9 h' =>
      rw [hs] at h'
      cases h'
      rw [if_neg (by decide)] at h
      cases h
    all_goals
      next h' =>
        rw [hs] at h'
        cases h'

theorem finds_list_closed (hs : skipBlanks s = '[' :: r) (hr : skipBlanks r = ']' :: t) :
    Finds (scan s) (.list .closed) t := by
  rw [scan]
  split
  case h_6 h =>
    rw [hs] at h
    cases h
    split
    · next h' =>
      rw [hr] at h'
      cases h'
    · next h' =>
      rw [hr] at h'
      cases h'
      exact ⟨_, rfl⟩
    · next h' => exact absurd hr (h' t)
  all_goals
    next h =>
      rw [hs] at h
      cases h <;> contradiction

theorem finds_list_item (hs : skipBlanks s = '[' :: r) (hd : Finds (scan r) d u)
    (hi : Finds (scanItems u) items t) : Finds (scan s) (.list (.item d items)) t := by
  have hr := fun r' => skipBlanks_ne_of_finds (r := r') hd
  obtain ⟨hu, hd⟩ := hd
  obtain ⟨ht, hi⟩ := hi
  rw [scan]
  split
  case h_6 h =>
    rw [hs] at h
    cases h
    split
    · next h' => exact absurd h' (hr []).1
    · next h' => exact absurd h' (hr _).2
    · rw [hd]
      simp only [hi]
      exact ⟨_, rfl⟩
  all_goals
    next h =>
      rw [hs] at h
      cases h <;> contradiction

theorem finds_items_closed (hs : skipBlanks s = ']' :: t) : Finds (scanItems s) .closed t := by
  rw [scanItems]
  split
  case h_2 h =>
    rw [hs] at h
    cases h
    exact ⟨_, rfl⟩
  case h_4 _ h _ => exact absurd hs (h t)
  all_goals
    next h =>
      rw [hs] at h
      cases h

theorem finds_items_item (hs : skipBlanks s = ',' :: r) (hd : Finds (scan r) d u)
    (hi : Finds (scanItems u) items t) : Finds (scanItems s) (.item d items) t := by
  have hr := fun r' => skipBlanks_ne_of_finds (r := r') hd
  obtain ⟨hu, hd⟩ := hd
  obtain ⟨ht, hi⟩ := hi
  rw [scanItems]
  split
  case h_3 h =>
    rw [hs] at h
    cases h
    simp only
    split
    · next h' => exact absurd h' (hr _).2
    · rw [hd]
      simp only [hi]
      exact ⟨_, rfl⟩
  case h_4 _ _ h => exact absurd hs (h r)
  all_goals
    next h =>
      rw [hs] at h
      cases h

/-! ## Objects -/

theorem finds_object_closed (hs : skipBlanks s = '{' :: r) (hr : skipBlanks r = '}' :: t) :
    Finds (scan s) (.object .closed) t := by
  rw [scan]
  split
  case h_7 h =>
    rw [hs] at h
    cases h
    split
    case h_2 h' =>
      rw [hr] at h'
      cases h'
      exact ⟨_, rfl⟩
    case h_4 _ h' _ => exact absurd hr (h' t)
    all_goals
      next h' =>
        rw [hr] at h'
        cases h'
  all_goals
    next h =>
      rw [hs] at h
      cases h <;> contradiction

theorem finds_object_member (hs : skipBlanks s = '{' :: r) (hr : skipBlanks r = '"' :: u)
    (hm : Finds (scanMember u) members t) : Finds (scan s) (.object members) t := by
  obtain ⟨ht, hm⟩ := hm
  rw [scan]
  split
  case h_7 h =>
    rw [hs] at h
    cases h
    split
    case h_3 h' =>
      rw [hr] at h'
      cases h'
      simp only [hm]
      exact ⟨_, rfl⟩
    case h_4 _ _ h' => exact absurd hr (h' u)
    all_goals
      next h' =>
        rw [hr] at h'
        cases h'
  all_goals
    next h =>
      rw [hs] at h
      cases h <;> contradiction

theorem finds_member {key : Quoted} {v : List Char} (hkey : Quoted.scan s = (key, v))
    (hclosed : key.ending = .closed) (hv : skipBlanks v = ':' :: r) (hd : Finds (scan r) d u)
    (hm : Finds (scanMembers u) members t) : Finds (scanMember s) (.member key d members) t := by
  obtain ⟨hu, hd⟩ := hd
  obtain ⟨ht, hm⟩ := hm
  rw [scanMember]
  simp only [hkey, hclosed, if_true]
  split
  case h_2 h =>
    rw [hkey, hv] at h
    cases h
    rw [hd]
    simp only [hm]
    exact ⟨_, rfl⟩
  case h_3 _ h =>
    rw [hkey] at h
    exact absurd hv (h r)
  all_goals
    next h =>
      rw [hkey, hv] at h
      cases h

theorem finds_members_closed (hs : skipBlanks s = '}' :: t) :
    Finds (scanMembers s) .closed t := by
  rw [scanMembers]
  split
  case h_2 h =>
    rw [hs] at h
    cases h
    exact ⟨_, rfl⟩
  case h_4 _ h _ => exact absurd hs (h t)
  all_goals
    next h =>
      rw [hs] at h
      cases h

theorem finds_members_member (hs : skipBlanks s = ',' :: r) (hr : skipBlanks r = '"' :: u)
    (hm : Finds (scanMember u) members t) : Finds (scanMembers s) members t := by
  obtain ⟨ht, hm⟩ := hm
  rw [scanMembers]
  split
  case h_3 h =>
    rw [hs] at h
    cases h
    simp only
    split
    case h_3 h' =>
      rw [hr] at h'
      cases h'
      simp only [hm]
      exact ⟨_, rfl⟩
    case h_4 _ _ h' => exact absurd hr (h' u)
    all_goals
      next h' =>
        rw [hr] at h'
        cases h'
  case h_4 _ _ h => exact absurd hs (h r)
  all_goals
    next h =>
      rw [hs] at h
      cases h

end Document

/-! ## Texts of documents -/

/-- A text is that of a document. -/
structure Writes (p : List Char) (d : Document) : Prop where
  starts : Starts p
  finds : ∀ s t, skipBlanks s = p ++ t → Numeral.Ends t → Finds (Document.scan s) d t

/-- A text is that of a string, up to its closing mark. -/
structure WritesKey (p : List Char) (q : Quoted) : Prop where
  closed : q.ending = .closed
  scan_append : ∀ r, Quoted.scan (p ++ '"' :: r) = (q, r)

/-- The items of a list that is complete. -/
def Items.ofList : List Document → Items
  | [] => .closed
  | d :: ds => .item d (ofList ds)

/-- The members of an object that is complete, from the texts of their keys. -/
def Members.ofParts : List (Quoted × Document) → Members
  | [] => .closed
  | (key, d) :: ms => .member key d (ofParts ms)

/-- The members of an object that is complete. -/
def Members.ofList : List (String × Document) → Members
  | [] => .closed
  | (key, d) :: ms => .member (Quoted.ofText key) d (ofList ms)

theorem Writes.scan_eq {p : List Char} {d : Document} (h : Writes p d) :
    ∃ hlt, Document.scan p = (d, some ⟨[], hlt⟩) := by
  apply h.finds p [] _ Numeral.ends_nil
  have := h.starts.skipBlanks_append []
  rwa [List.append_nil] at this ⊢

/-- A text is that of one document only. -/
theorem Writes.unique {p : List Char} {d e : Document} (hd : Writes p d) (he : Writes p e) :
    d = e := by
  obtain ⟨_, hd⟩ := hd.scan_eq
  obtain ⟨_, he⟩ := he.scan_eq
  exact congrArg Prod.fst (hd.symm.trans he)

theorem Items.ofList_injective : Function.Injective ofList := by
  intro ds es h
  induction ds generalizing es with
  | nil => cases es with
    | nil => rfl
    | cons e es => cases h
  | cons d ds ih => cases es with
    | nil => cases h
    | cons e es =>
      obtain ⟨rfl, hrest⟩ := Items.item.inj h
      rw [ih hrest]

theorem Members.ofList_injective : Function.Injective ofList := by
  intro ms ns h
  induction ms generalizing ns with
  | nil => cases ns with
    | nil => rfl
    | cons n ns => cases h
  | cons m ms ih => cases ns with
    | nil => cases h
    | cons n ns =>
      obtain ⟨key, d⟩ := m
      obtain ⟨key', d'⟩ := n
      obtain ⟨hkey, rfl, hrest⟩ := Members.member.inj h
      rw [ih hrest, Quoted.ofText_injective hkey]

theorem Members.ofParts_map_ofText (ms : List (String × Document)) :
    ofParts (ms.map fun m => (Quoted.ofText m.1, m.2)) = ofList ms := by
  induction ms with
  | nil => rfl
  | cons m ms ih => exact congrArg (Members.member (Quoted.ofText m.1) m.2) ih

/-! ### Words, numbers and strings -/

theorem writes_nullText : Writes nullText (.word .null) :=
  ⟨⟨_, _, rfl, by decide⟩, fun _ _ hs _ => Document.finds_nullText hs⟩

theorem writes_flagText (b : Bool) : Writes (flagText b) (.word (.flag b)) := by
  refine ⟨?_, fun _ _ hs _ => Document.finds_flagText b hs⟩
  cases b
  · exact ⟨_, _, rfl, by decide⟩
  · exact ⟨_, _, rfl, by decide⟩

theorem writes_numeral {n : Numeral} {letter : Char} (hn : n.Proper)
    (hletter : letter = 'e' ∨ letter = 'E') :
    Writes (n.signText ++ n.unsignedText letter) (.number n) := by
  refine ⟨?_, fun _ _ hs ht => Document.finds_number hn hletter hs ht⟩
  rw [Numeral.signText]
  cases n.negative
  · obtain ⟨d, es, -, hd⟩ := Numeral.digitText_ne_nil hn.whole_ne_nil
    rw [Numeral.unsignedText, hd]
    exact ⟨_, _, rfl, Document.isSeparator_char d⟩
  · exact ⟨_, _, rfl, by decide⟩

theorem writes_numberText {n : Numeral} (hn : n.Proper) : Writes n.text (.number n) := by
  rw [Numeral.text_eq]
  exact writes_numeral hn (.inl rfl)

theorem unitOf?_of_mem_hexDigits {a b c d : Char} (h : ∀ x ∈ [a, b, c, d], x ∈ hexDigits) :
    ∃ n, unitOf? a b c d = some n := by
  have hall : (hexDigits.all fun x => (hexValue? x).isSome) = true := by decide
  have hvalue : ∀ x ∈ hexDigits, ∃ n, hexValue? x = some n := by
    intro x hx
    exact Option.isSome_iff_exists.1 (List.all_eq_true.1 hall x hx)
  simp only [List.forall_mem_cons] at h
  obtain ⟨ha, hb, hc, hd, -⟩ := h
  obtain ⟨i, ha⟩ := hvalue a ha
  obtain ⟨j, hb⟩ := hvalue b hb
  obtain ⟨k, hc⟩ := hvalue c hc
  obtain ⟨l, hd⟩ := hvalue d hd
  rw [unitOf?, ha, hb, hc, hd]
  exact ⟨_, rfl⟩

/-- What may stand between two quotation marks is the text of a string. -/
theorem QuotedText.writesKey {s : List Char} (h : QuotedText s) : ∃ q, WritesKey s q := by
  -- The piece that is scanned first comes before the pieces of the rest.
  have hpush {s s' : List Char} {q : Quoted} (p : Piece)
      (hs : ∀ r, Quoted.scan (s' ++ r) = Quoted.push p (Quoted.scan (s ++ r)))
      (hq : WritesKey s q) : ∃ q, WritesKey s' q := by
    refine ⟨⟨p :: q.pieces, q.ending⟩, hq.closed, ?_⟩
    intro r
    rw [hs, hq.scan_append]
    rfl
  induction h with
  | nil => exact ⟨⟨[], .closed⟩, rfl, fun r => by simp [Quoted.scan, Quoted.stop]⟩
  | @plain c s hc _ ih =>
    obtain ⟨q, hq⟩ := ih
    obtain ⟨hquote, hslash, hcontrol⟩ := hc
    apply hpush (.char c) _ hq
    intro r
    have : ¬c.toNat < 32 := by omega
    simp [Quoted.scan, hslash, this]
  | @escape c s hc _ ih =>
    obtain ⟨q, hq⟩ := ih
    simp only [List.mem_cons, List.not_mem_nil, or_false] at hc
    rcases hc with rfl | rfl | rfl | rfl | rfl | rfl | rfl | rfl
    all_goals exact hpush (.char _) (fun r => by simp [Quoted.scan, escaped?]; rfl) hq
  | @code a b c d s hcode _ ih =>
    obtain ⟨q, hq⟩ := ih
    obtain ⟨n, hn⟩ := unitOf?_of_mem_hexDigits hcode
    apply hpush (.unit n) _ hq
    intro r
    simp only [List.cons_append, Quoted.scan, hn]

theorem writesKey_charText (key : String) :
    WritesKey (key.toList.flatMap charText) (Quoted.ofText key) :=
  ⟨rfl, fun r => Quoted.scan_flatMap_charText_append key.toList r⟩

theorem WritesKey.writes {s : List Char} {q : Quoted} (h : WritesKey s q) :
    Writes ('"' :: (s ++ ['"'])) (.string q) := by
  refine ⟨⟨_, _, rfl, by decide⟩, ?_⟩
  intro u t hu _
  rw [List.cons_append, List.append_assoc] at hu
  exact Document.finds_string hu (h.scan_append t) h.closed

theorem writes_stringText (s : String) : Writes (stringText s) (.string (Quoted.ofText s)) :=
  (writesKey_charText s).writes

/-! ### Lists and objects -/

section Parts

variable {α β : Type} {P : List Char → α → Prop} {R : α → β → Prop} {s : List Char}
  {as : List α} {bs : List β}

/-- Parts that are put in relation one by one. -/
theorem Separated.comp (h : Separated P s as) (hR : List.Forall₂ R as bs) :
    Separated (fun s b => ∃ a, P s a ∧ R a b) s bs := by
  induction h generalizing bs with
  | one h =>
    obtain ⟨b, _, hab, hnil, rfl⟩ := List.forall₂_cons_left_iff.1 hR
    obtain rfl := List.forall₂_nil_left_iff.1 hnil
    exact .one ⟨_, h, hab⟩
  | cons h _ ih =>
    obtain ⟨b, bs, hab, hbs, rfl⟩ := List.forall₂_cons_left_iff.1 hR
    exact .cons ⟨_, h, hab⟩ (ih hbs)

theorem Enclosed.comp {opening closing : Char} (h : Enclosed P opening closing s as)
    (hR : List.Forall₂ R as bs) :
    Enclosed (fun s b => ∃ a, P s a ∧ R a b) opening closing s bs := by
  cases h with
  | empty hw =>
    obtain rfl := List.forall₂_nil_left_iff.1 hR
    exact .empty hw
  | parts h => exact .parts (h.comp hR)

theorem separated_cons {p : List Char} {ps : List (List Char)} {a : α}
    (h : List.Forall₂ P (p :: ps) (a :: as)) : Separated P (separated (p :: ps)) (a :: as) := by
  induction ps generalizing p a as with
  | nil =>
    obtain ⟨ha, hnil⟩ := List.forall₂_cons.1 h
    obtain rfl := List.forall₂_nil_left_iff.1 hnil
    rw [separated, partsText, List.append_nil]
    exact .one ha
  | cons p' ps ih =>
    obtain ⟨ha, has⟩ := List.forall₂_cons.1 h
    obtain ⟨b, bs, -, -, rfl⟩ := List.forall₂_cons_left_iff.1 has
    exact .cons ha (ih has)

/-- Parts that are written without blanks. -/
theorem enclosed_separated (opening closing : Char) {ps : List (List Char)}
    (h : List.Forall₂ P ps as) :
    Enclosed P opening closing (opening :: (separated ps ++ [closing])) as := by
  cases h with
  | nil => exact .empty blanks_nil
  | cons ha has => exact .parts (separated_cons (.cons ha has))

end Parts

section Lists

variable {s u : List Char} {d : Document} {ds : List Document}

/-- A text is that of a document, with blanks around it. -/
def WritesItem (s : List Char) (d : Document) : Prop :=
  ∃ v, ItemText s v ∧ Writes v d

theorem WritesItem.finds (h : WritesItem s d) (c : Char) (hc : isSeparator c = false)
    {t : List Char} (ht : Numeral.Ends (c :: t)) :
    ∃ u, Finds (Document.scan (s ++ c :: t)) d u ∧ skipBlanks u = c :: t := by
  obtain ⟨_, ⟨v, hw, hw'⟩, hv⟩ := h
  refine ⟨_, hv.finds _ _ ?_ (ends_blanks_append hw' ht), skipBlanks_append_cons hw' hc t⟩
  rw [List.append_assoc, List.append_assoc, skipBlanks_append hw, hv.starts.skipBlanks_append]

/-- The first item and those after it. -/
theorem finds_separated_items (h : Separated WritesItem s ds) (t : List Char) :
    ∃ d ds' u, ds = d :: ds' ∧ Finds (Document.scan (s ++ ']' :: t)) d u ∧
      Finds (Document.scanItems u) (Items.ofList ds') t := by
  induction h with
  | one h =>
    obtain ⟨u, hd, hu⟩ := h.finds ']' (by decide) (Numeral.ends_cons t (by decide))
    exact ⟨_, [], u, rfl, hd, Document.finds_items_closed hu⟩
  | cons h _ ih =>
    obtain ⟨e, es, v, rfl, he, hes⟩ := ih
    obtain ⟨u, hd, hu⟩ := h.finds ',' (by decide) (Numeral.ends_cons (_ ++ ']' :: t) (by decide))
    rw [List.append_assoc]
    exact ⟨_, _, u, rfl, hd, Document.finds_items_item hu he hes⟩

/-- The text of a list is that of its items. -/
theorem writes_of_enclosed_items (h : Enclosed WritesItem '[' ']' s ds) :
    Writes s (.list (Items.ofList ds)) := by
  cases h with
  | @empty w hw =>
    refine ⟨⟨_, _, rfl, by decide⟩, ?_⟩
    intro s t hs _
    rw [List.cons_append, List.append_assoc] at hs
    exact Document.finds_list_closed hs (skipBlanks_append_cons hw (by decide) t)
  | @parts p _ h =>
    refine ⟨⟨_, _, rfl, by decide⟩, ?_⟩
    intro s t hs _
    obtain ⟨d, ds, u, rfl, hd, hds⟩ := finds_separated_items h t
    rw [List.cons_append, List.append_assoc] at hs
    exact Document.finds_list_item hs hd hds

/-- The text of an array is that of the list of its items. -/
theorem writes_arrayText {ps : List (List Char)} (h : List.Forall₂ Writes ps ds) :
    Writes (arrayText ps) (.list (Items.ofList ds)) := by
  apply writes_of_enclosed_items
  apply enclosed_separated
  apply h.imp
  intro p d hp
  refine ⟨p, ?_, hp⟩
  have := ItemText.mk p blanks_nil blanks_nil
  rwa [List.nil_append, List.append_nil] at this

end Lists

section Objects

variable {s t : List Char} {q : Quoted} {d : Document} {ns : List (Quoted × Document)}

/-- A text is that of a member, with blanks around its parts. -/
def WritesPart (s : List Char) (n : Quoted × Document) : Prop :=
  ∃ m, MemberText s m ∧ WritesKey m.1 n.1 ∧ Writes m.2 n.2

theorem WritesPart.finds (h : WritesPart s (q, d)) (c : Char) (hc : isSeparator c = false)
    (ht : Numeral.Ends (c :: t)) :
    ∃ r u, skipBlanks (s ++ c :: t) = '"' :: r ∧ skipBlanks u = c :: t ∧
      ∀ {members : Members} {x : List Char}, Finds (Document.scanMembers u) members x →
        Finds (Document.scanMember r) (.member q d members) x := by
  obtain ⟨_, @⟨w₁, w₂, w₃, w₄, key, v, h₁, h₂, h₃, h₄⟩, hkey, hv⟩ := h
  refine ⟨key ++ '"' :: (w₂ ++ ':' :: (w₃ ++ (v ++ (w₄ ++ c :: t)))), w₄ ++ c :: t, ?_,
    skipBlanks_append_cons h₄ hc t, ?_⟩
  · simp only [List.append_assoc, List.cons_append]
    exact skipBlanks_append_cons h₁ (by decide) _
  · intro members x hm
    apply Document.finds_member (hkey.scan_append _) hkey.closed
      (skipBlanks_append_cons h₂ (by decide) _) _ hm
    apply hv.finds _ _ _ (ends_blanks_append h₄ ht)
    rw [skipBlanks_append h₃, hv.starts.skipBlanks_append]

/-- The members from the key of the first one on. -/
theorem finds_separated_members (h : Separated WritesPart s ns) (t : List Char) :
    ∃ r, skipBlanks (s ++ '}' :: t) = '"' :: r ∧
      Finds (Document.scanMember r) (Members.ofParts ns) t := by
  induction h with
  | one h =>
    obtain ⟨r, u, hr, hu, hm⟩ := h.finds '}' (by decide) (Numeral.ends_cons t (by decide))
    exact ⟨r, hr, hm (Document.finds_members_closed hu)⟩
  | cons h _ ih =>
    obtain ⟨r', hr', hms⟩ := ih
    obtain ⟨r, u, hr, hu, hm⟩ :=
      h.finds ',' (by decide) (Numeral.ends_cons (_ ++ '}' :: t) (by decide))
    rw [List.append_assoc]
    exact ⟨r, hr, hm (Document.finds_members_member hu hr' hms)⟩

/-- The text of an object is that of its members. -/
theorem writes_of_enclosed_members (h : Enclosed WritesPart '{' '}' s ns) :
    Writes s (.object (Members.ofParts ns)) := by
  cases h with
  | @empty w hw =>
    refine ⟨⟨_, _, rfl, by decide⟩, ?_⟩
    intro s t hs _
    rw [List.cons_append, List.append_assoc] at hs
    exact Document.finds_object_closed hs (skipBlanks_append_cons hw (by decide) t)
  | @parts p _ h =>
    refine ⟨⟨_, _, rfl, by decide⟩, ?_⟩
    intro s t hs _
    obtain ⟨r, hr, hms⟩ := finds_separated_members h t
    rw [List.cons_append, List.append_assoc] at hs
    exact Document.finds_object_member hs hr hms

/-- A text is that of a member without blanks. -/
def WritesMember (p : List Char) (m : String × Document) : Prop :=
  ∃ v, p = memberText m.1 v ∧ Writes v m.2

theorem WritesMember.writesPart {p : List Char} {m : String × Document} (h : WritesMember p m) :
    WritesPart p (Quoted.ofText m.1, m.2) := by
  obtain ⟨v, rfl, hv⟩ := h
  refine ⟨(m.1.toList.flatMap charText, v), ?_, writesKey_charText m.1, hv⟩
  have := MemberText.mk (m.1.toList.flatMap charText) v blanks_nil blanks_nil blanks_nil blanks_nil
  simpa only [memberText, stringText, List.nil_append, List.append_nil, List.cons_append,
    List.append_assoc] using this

/-- The text of an object is that of its members. -/
theorem writes_objectText {ps : List (List Char)} {ms : List (String × Document)}
    (h : List.Forall₂ WritesMember ps ms) :
    Writes (objectText ps) (.object (Members.ofList ms)) := by
  rw [← Members.ofParts_map_ofText]
  apply writes_of_enclosed_members
  apply enclosed_separated
  exact List.forall₂_map_right_iff.2 (h.imp fun _ _ => WritesMember.writesPart)

end Objects

/-! ### Values -/

/-- The document at the front of a text. -/
def documentOf (s : List Char) : Document :=
  (Document.scan s).1

/-- The string in front of the closing mark that is put after a text. -/
def quotedOf (s : List Char) : Quoted :=
  (Quoted.scan (s ++ ['"'])).1

theorem Writes.documentOf_eq {p : List Char} {d : Document} (h : Writes p d) :
    documentOf p = d := by
  obtain ⟨_, hscan⟩ := h.scan_eq
  rw [documentOf, hscan]

theorem QuotedText.writesKey_quotedOf {s : List Char} (h : QuotedText s) :
    WritesKey s (quotedOf s) := by
  obtain ⟨q, hq⟩ := h.writesKey
  rwa [quotedOf, hq.scan_append]

theorem Items.pass_ofList {ds : List Document} (h : ∀ d ∈ ds, d.pass = .ok ()) :
    (ofList ds).pass = .ok () := by
  induction ds with
  | nil => rfl
  | cons d ds ih =>
    obtain ⟨hd, hds⟩ := List.forall_mem_cons.1 h
    rw [ofList, pass, hd, ih hds]

theorem Members.pass_ofParts {ns : List (Quoted × Document)} (h : ∀ n ∈ ns, n.2.pass = .ok ()) :
    (ofParts ns).pass = .ok () := by
  induction ns with
  | nil => rfl
  | cons n ns ih =>
    obtain ⟨hn, hns⟩ := List.forall_mem_cons.1 h
    rw [ofParts, pass, hn, ih hns]

/-- A text of an object whose parts are texts of strings and of documents. -/
theorem ObjectText.writes {s : List Char} {ms : List (List Char × List Char)}
    (h : ObjectText s ms) (hkeys : ∀ m ∈ ms, QuotedText m.1)
    (hvs : ∀ m ∈ ms, Writes m.2 (documentOf m.2)) :
    Writes s (.object (.ofParts (ms.map fun m => (quotedOf m.1, documentOf m.2)))) := by
  apply writes_of_enclosed_members
  apply h.comp
  rw [List.forall₂_map_right_iff, List.forall₂_same]
  intro m hm
  exact ⟨(hkeys m hm).writesKey_quotedOf, hvs m hm⟩

/-- A text of a list whose parts are texts of documents. -/
theorem ListText.writes {s : List Char} {vs : List (List Char)} (h : ListText s vs)
    (hvs : ∀ v ∈ vs, Writes v (documentOf v)) :
    Writes s (.list (.ofList (vs.map documentOf))) := by
  apply writes_of_enclosed_items
  apply h.comp
  rwa [List.forall₂_map_right_iff, List.forall₂_same]

/-- The text of a value is that of a document, which is passed over without a fault. -/
theorem ValueText.writes {v : List Char} (h : ValueText v) :
    Writes v (documentOf v) ∧ (documentOf v).pass = .ok () := by
  have hof {v : List Char} {d : Document} (hv : Writes v d) (hd : d.pass = .ok ()) :
      Writes v (documentOf v) ∧ (documentOf v).pass = .ok () := by
    rw [hv.documentOf_eq]
    exact ⟨hv, hd⟩
  induction h with
  | null => exact hof writes_nullText rfl
  | flag b => exact hof (writes_flagText b) rfl
  | number hn hletter => exact hof (writes_numeral hn hletter) rfl
  | string hs =>
    have hq := hs.writesKey_quotedOf
    refine hof hq.writes ?_
    rw [Document.pass, Quoted.pass, hq.closed]
  | list hs _ ih =>
    refine hof (ListText.writes hs fun v hv => (ih v hv).1) (Items.pass_ofList ?_)
    rw [List.forall_mem_map]
    exact fun v hv => (ih v hv).2
  | object hs hkeys _ ih =>
    refine hof (ObjectText.writes hs hkeys fun m hm => (ih m hm).1) (Members.pass_ofParts ?_)
    rw [List.forall_mem_map]
    exact fun m hm => (ih m hm).2

end Accelerator.Json
