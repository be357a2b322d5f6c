import Accelerator.Decimal.Digits

/-!
# Numerals

A `Numeral` is a decimal number as it is written: a sign, whole digits, a fraction, an exponent.
`Numeral.text` writes one and `Numeral.scan` takes one off the front of a text.
-/

namespace Accelerator

/-- The sign in front of the digits of an exponent. -/
inductive ExponentMark where
  | plain
  | plus
  | minus
deriving Repr, DecidableEq

namespace ExponentMark

/-- The mark as written. -/
def text : ExponentMark → List Char
  | plain => []
  | plus => ['+']
  | minus => ['-']

/-- The mark at the front of a text, and what follows it. -/
def scan : List Char → ExponentMark × List Char
  | '+' :: r => (plus, r)
  | '-' :: r => (minus, r)
  | r => (plain, r)

end ExponentMark

/-- The exponent of a numeral. -/
structure Exponent where
  mark : ExponentMark
  digits : List Digit
deriving Repr, DecidableEq

/-- A decimal number as it is written. -/
structure Numeral where
  negative : Bool
  whole : List Digit
  /-- The digits after the point; there is no point when there are none. -/
  fraction : List Digit
  exponent : Option Exponent
deriving Repr, DecidableEq

namespace Numeral

/-- The fraction as written. -/
def fractionText : List Digit → List Char
  | [] => []
  | ds => '.' :: digitText ds

/-- The exponent as written. -/
def exponentText : Option Exponent → List Char
  | none => []
  | some e => 'e' :: (e.mark.text ++ digitText e.digits)

/-- The numeral as written. -/
def text (n : Numeral) : List Char :=
  (if n.negative then ['-'] else []) ++ digitText n.whole ++ fractionText n.fraction ++
    exponentText n.exponent

/-- What is found where a numeral is due: a numeral and the text after it, or text that is none. -/
inductive Scan where
  | complete (n : Numeral) (rest : List Char)
  /-- A digit is due but the text ends there, or goes on with something else. -/
  | broken (ended : Bool)

/-- Takes the exponent of a numeral off the front of a text. -/
def scanExponent (negative : Bool) (whole fraction : List Digit) (s : List Char) : Scan :=
  let exponent (r : List Char) : Scan :=
    let (mark, r) := ExponentMark.scan r
    match spanDigits r with
    | ([], t) => .broken t.isEmpty
    | (ds, t) => .complete ⟨negative, whole, fraction, some ⟨mark, ds⟩⟩ t
  match s with
  | 'e' :: r => exponent r
  | 'E' :: r => exponent r
  | r => .complete ⟨negative, whole, fraction, none⟩ r

/-- Takes the fraction and the exponent of a numeral off the front of a text. -/
def scanFraction (negative : Bool) (whole : List Digit) (s : List Char) : Scan :=
  match s with
  | '.' :: r =>
    match spanDigits r with
    | ([], t) => .broken t.isEmpty
    | (ds, t) => scanExponent negative whole ds t
  | r => scanExponent negative whole [] r

/-- Takes a numeral whose sign is already read off the front of a text. The whole digits do not
start with a zero unless they are one zero. -/
def scan (negative : Bool) (s : List Char) : Scan :=
  match spanDigits s with
  | ([], t) => .broken t.isEmpty
  | (0 :: _ :: _, _) => .broken false
  | (ds, t) => scanFraction negative ds t

theorem length_markScan (s : List Char) : (ExponentMark.scan s).2.length ≤ s.length := by
  unfold ExponentMark.scan
  split <;> simp

theorem length_scanExponent {negative : Bool} {whole fraction : List Digit} {s rest : List Char}
    {n : Numeral} (h : scanExponent negative whole fraction s = .complete n rest) :
    rest.length ≤ s.length := by
  have exponent {r : List Char}
      (h : (match spanDigits (ExponentMark.scan r).2 with
        | ([], t) => Scan.broken t.isEmpty
        | (ds, t) => .complete ⟨negative, whole, fraction,
            some ⟨(ExponentMark.scan r).1, ds⟩⟩ t) = .complete n rest) :
      rest.length ≤ r.length := by
    have marked := length_markScan r
    have spanned := length_spanDigits (ExponentMark.scan r).2
    split at h
    · cases h
    · next e =>
      cases h
      simp only [e] at spanned
      omega
  unfold scanExponent at h
  split at h
  · have := exponent h; simp only [List.length_cons]; omega
  · have := exponent h; simp only [List.length_cons]; omega
  · cases h; exact Nat.le_refl _

theorem length_scanFraction {negative : Bool} {whole : List Digit} {s rest : List Char}
    {n : Numeral} (h : scanFraction negative whole s = .complete n rest) :
    rest.length ≤ s.length := by
  unfold scanFraction at h
  split at h
  · next r =>
    have spanned := length_spanDigits r
    split at h
    · cases h
    · next e =>
      rw [e] at spanned
      have := length_scanExponent h
      simp only [List.length_cons] at *
      omega
  · exact length_scanExponent h

/-- What follows a numeral is shorter than the text it was taken from. -/
theorem length_scan {negative : Bool} {s rest : List Char} {n : Numeral}
    (h : scan negative s = .complete n rest) : rest.length < s.length := by
  have spanned := length_spanDigits s
  unfold scan at h
  split at h
  · cases h
  · cases h
  · next ds t nonempty _ e =>
    simp only [e] at spanned
    have := length_scanFraction h
    have : ds.length ≠ 0 := fun z => nonempty (List.length_eq_zero_iff.1 z)
    omega

end Numeral

end Accelerator
