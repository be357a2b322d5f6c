import Accelerator.Decimal.Value
import Mathlib.Tactic.Common
import Mathlib.Tactic.Ring

/-!
# Digits and numerals in a text

Digits in front of something else are taken off a text again (`spanDigits_digitText_append`), and so
is a numeral without a leading zero (`Numeral.scan_text_append`): its text determines it.
-/

namespace Accelerator

/-! ## Digits -/

theorem digits_ne_nil (n : Nat) : digits n ≠ [] := by
  rw [digits]
  split_ifs
  · exact List.cons_ne_nil _ _
  · exact List.append_ne_nil_of_right_ne_nil _ (List.cons_ne_nil _ _)

/-- The digits of a positive number do not start with a zero. -/
theorem head?_digits_ne_zero {n : Nat} (h : 0 < n) : (digits n).head? ≠ some 0 := by
  induction n using digits.induct with
  | case1 n hn =>
    rw [digits, dif_pos hn, List.head?_cons, ne_eq, Option.some_inj, Fin.ext_iff]
    exact h.ne'
  | case2 n hn ih =>
    have ih := ih (by omega)
    obtain ⟨d, ds, hd⟩ := List.exists_cons_of_ne_nil (digits_ne_nil (n / 10))
    rw [digits, dif_neg hn]
    rw [hd] at ih ⊢
    exact ih

theorem appendDigits_eq (n : Nat) (ds : List Digit) :
    appendDigits n ds = n * 10 ^ ds.length + ofDigits ds := by
  induction ds generalizing n with
  | nil => simp [appendDigits, ofDigits]
  | cons d ds ih =>
    change appendDigits (n * 10 + d.val) ds =
      n * 10 ^ (ds.length + 1) + appendDigits (0 * 10 + d.val) ds
    rw [ih, ih (0 * 10 + d.val)]
    ring

theorem ofDigits_append (ds es : List Digit) :
    ofDigits (ds ++ es) = ofDigits ds * 10 ^ es.length + ofDigits es := by
  rw [ofDigits, appendDigits_append, appendDigits_eq]
  rfl

theorem ofDigits_replicate_zero (k : Nat) : ofDigits (List.replicate k 0) = 0 := by
  induction k with
  | zero => rfl
  | succ k ih => rw [List.replicate_succ', ofDigits_append, ih]; rfl

/-- A 64-bit word gathers all digits of a number that fits. -/
theorem gather_eq_of_lt {n : Nat} {ds : List Digit} (h : appendDigits n ds < 2 ^ 64) :
    gather n ds = (appendDigits n ds, []) := by
  induction ds generalizing n with
  | nil => rfl
  | cons d ds ih =>
    have happ : appendDigits n (d :: ds) = appendDigits (n * 10 + d.val) ds := rfl
    have hle : n * 10 + d.val ≤ appendDigits (n * 10 + d.val) ds := by
      rw [appendDigits_eq]
      exact Nat.le_add_right_of_le (Nat.le_mul_of_pos_right _ (Nat.pow_pos (by decide)))
    rw [happ] at h ⊢
    have hfits : n * 10 + d.val < 0x10000000000000000 := lt_of_le_of_lt hle h
    rw [gather, if_pos hfits, ih h]

theorem gather_digits {n : Nat} (h : n < 2 ^ 64) : gather 0 (digits n) = (n, []) := by
  have hn : appendDigits 0 (digits n) = n := ofDigits_digits n
  rw [gather_eq_of_lt (by rwa [hn]), hn]

theorem spanDigits_digitText_append (ds : List Digit) {t : List Char}
    (ht : ∀ c ∈ t.head?, Digit.ofChar? c = none) : spanDigits (digitText ds ++ t) = (ds, t) := by
  induction ds with
  | nil =>
    cases t with
    | nil => rfl
    | cons c r =>
      change spanDigits (c :: r) = _
      rw [spanDigits, ht c rfl]
  | cons d ds ih =>
    change spanDigits (d.char :: (digitText ds ++ t)) = _
    rw [spanDigits, Digit.ofChar?_char, ih]

namespace Numeral

/-! ## Numerals -/

/-- A numeral with whole digits that do not start with a zero unless they are one zero, and with
digits in its exponent. -/
structure Proper (n : Numeral) : Prop where
  whole_ne_nil : n.whole ≠ []
  eq_zero_of_head : n.whole.head? = some 0 → n.whole = [0]
  exponent_ne_nil : ∀ e ∈ n.exponent, e.digits ≠ []

/-- A text does not go on with a numeral that it follows. -/
def Ends (t : List Char) : Prop :=
  ∀ c ∈ t.head?, Digit.ofChar? c = none ∧ c ≠ '.' ∧ c ≠ 'e' ∧ c ≠ 'E'

/-- The sign as written. -/
def signText (n : Numeral) : List Char :=
  if n.negative then ['-'] else []

/-- The exponent as written after a letter. -/
def exponentAfter (letter : Char) : Option Exponent → List Char
  | none => []
  | some e => letter :: (e.mark.text ++ digitText e.digits)

/-- The numeral without its sign, as written with a letter before its exponent. -/
def unsignedText (letter : Char) (n : Numeral) : List Char :=
  digitText n.whole ++ (fractionText n.fraction ++ exponentAfter letter n.exponent)

theorem text_eq (n : Numeral) : n.text = n.signText ++ n.unsignedText 'e' := by
  rw [text, unsignedText, List.append_assoc, List.append_assoc]
  cases n.exponent <;> rfl

theorem Ends.noDigit {t : List Char} (h : Ends t) : ∀ c ∈ t.head?, Digit.ofChar? c = none :=
  fun c hc => (h c hc).1

theorem ends_nil : Ends [] := nofun

theorem ends_cons {c : Char} (t : List Char)
    (h : Digit.ofChar? c = none ∧ c ≠ '.' ∧ c ≠ 'e' ∧ c ≠ 'E') : Ends (c :: t) := by
  rintro _ ⟨⟩
  exact h

theorem digitText_ne_nil {ds : List Digit} (h : ds ≠ []) :
    ∃ d es, ds = d :: es ∧ digitText ds = d.char :: digitText es := by
  obtain ⟨d, es, rfl⟩ := List.exists_cons_of_ne_nil h
  exact ⟨d, es, rfl, rfl⟩

theorem char_ne_mark : ∀ d : Digit, d.char ≠ '+' ∧ d.char ≠ '-' := by
  decide

theorem markScan_text_append (m : ExponentMark) {ds : List Digit} (h : ds ≠ []) (t : List Char) :
    ExponentMark.scan (m.text ++ (digitText ds ++ t)) = (m, digitText ds ++ t) := by
  cases m with
  | plus => rfl
  | minus => rfl
  | plain =>
    obtain ⟨d, es, rfl, hd⟩ := digitText_ne_nil h
    rw [hd]
    change ExponentMark.scan (d.char :: (digitText es ++ t)) = _
    have hd := char_ne_mark d
    unfold ExponentMark.scan
    split
    · exact absurd (List.cons.inj ‹_›).1 hd.1
    · exact absurd (List.cons.inj ‹_›).1 hd.2
    · rfl

section Scanning

variable {t : List Char} {letter : Char} (hletter : letter = 'e' ∨ letter = 'E')

include hletter

theorem scanExponent_text_append (negative : Bool) (whole fraction : List Digit)
    {e : Option Exponent} (he : ∀ x ∈ e, x.digits ≠ []) (ht : Ends t) :
    scanExponent negative whole fraction (exponentAfter letter e ++ t) =
      .complete ⟨negative, whole, fraction, e⟩ t := by
  cases e with
  | none =>
    cases t with
    | nil => rfl
    | cons c r =>
      obtain ⟨-, -, h1, h2⟩ := ht c rfl
      change scanExponent negative whole fraction (c :: r) = _
      unfold scanExponent
      split
      · exact absurd (List.cons.inj ‹_›).1 h1
      · exact absurd (List.cons.inj ‹_›).1 h2
      · rfl
  | some e =>
    have hne := he e rfl
    have hspan : spanDigits (digitText e.digits ++ t) = (e.digits, t) :=
      spanDigits_digitText_append _ ht.noDigit
    change scanExponent negative whole fraction
      (letter :: ((e.mark.text ++ digitText e.digits) ++ t)) = _
    rw [List.append_assoc]
    rcases hletter with rfl | rfl
    all_goals
      rw [scanExponent]
      simp only [markScan_text_append e.mark hne, hspan]

theorem scanFraction_text_append (negative : Bool) (whole fraction : List Digit)
    {e : Option Exponent} (he : ∀ x ∈ e, x.digits ≠ []) (ht : Ends t) :
    scanFraction negative whole (fractionText fraction ++ (exponentAfter letter e ++ t)) =
      .complete ⟨negative, whole, fraction, e⟩ t := by
  have hend : ∀ c ∈ (exponentAfter letter e ++ t).head?, Digit.ofChar? c = none ∧ c ≠ '.' := by
    cases e with
    | none =>
      intro c hc
      exact ⟨(ht c hc).1, (ht c hc).2.1⟩
    | some e =>
      rintro _ ⟨⟩
      rcases hletter with rfl | rfl <;> decide
  cases fraction with
  | nil =>
    rw [← scanExponent_text_append hletter negative whole [] he ht]
    change scanFraction negative whole (exponentAfter letter e ++ t) = _
    unfold scanFraction
    split
    · next r hr => exact absurd rfl (hend '.' (by rw [hr]; rfl)).2
    · rfl
  | cons d ds =>
    change scanFraction negative whole
      ('.' :: (digitText (d :: ds) ++ (exponentAfter letter e ++ t))) = _
    rw [scanFraction, spanDigits_digitText_append _ fun c hc => (hend c hc).1]
    exact scanExponent_text_append hletter negative whole (d :: ds) he ht

/-- A numeral is taken off the front of a text again. -/
theorem scan_text_append {n : Numeral} (hn : n.Proper) (ht : Ends t) :
    scan n.negative (n.unsignedText letter ++ t) = .complete n t := by
  obtain ⟨negative, whole, fraction, e⟩ := n
  obtain ⟨hw, hz, he⟩ := hn
  have hspan : spanDigits (digitText whole ++ (fractionText fraction ++
      (exponentAfter letter e ++ t))) =
      (whole, fractionText fraction ++ (exponentAfter letter e ++ t)) := by
    apply spanDigits_digitText_append whole
    cases fraction with
    | cons d ds => rintro _ ⟨⟩; decide
    | nil =>
      cases e with
      | none => exact ht.noDigit
      | some e =>
        rintro _ ⟨⟩
        rcases hletter with rfl | rfl <;> decide
  rw [unsignedText, List.append_assoc, List.append_assoc, scan, hspan]
  split
  · next h => exact absurd (Prod.mk.inj h).1 hw
  · next h =>
    obtain ⟨rfl, -⟩ := Prod.mk.inj h
    cases hz rfl
  · next h =>
    obtain ⟨rfl, rfl⟩ := Prod.mk.inj h
    exact scanFraction_text_append hletter negative whole fraction he ht

end Scanning

end Numeral

end Accelerator
