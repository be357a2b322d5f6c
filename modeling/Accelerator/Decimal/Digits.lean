/-!
# Decimal digits

A natural number as its decimal digits, most significant first (`digits`), and back
(`ofDigits`), and the digits at the front of a text (`spanDigits`).
-/

namespace Accelerator

/-- A decimal digit. -/
abbrev Digit := Fin 10

namespace Digit

/-- The character of a digit. -/
def char (d : Digit) : Char :=
  Char.ofNat (48 + d.val)

/-- The digit that a character stands for, if it is one of `0` to `9`. -/
def ofChar? (c : Char) : Option Digit :=
  if h : 48 ≤ c.toNat ∧ c.toNat ≤ 57 then some ⟨c.toNat - 48, by omega⟩ else none

theorem ofChar?_char (d : Digit) : ofChar? d.char = some d := by
  revert d
  decide

end Digit

/-- The decimal digits of a number, most significant first; zero has one digit. -/
def digits (n : Nat) : List Digit :=
  if h : n < 10 then [⟨n, h⟩] else digits (n / 10) ++ [⟨n % 10, Nat.mod_lt n (by decide)⟩]

/-- The number that digits stand for, appended to the digits of `n`. -/
def appendDigits (n : Nat) (ds : List Digit) : Nat :=
  ds.foldl (fun n d => n * 10 + d.val) n

/-- The number that digits stand for. -/
def ofDigits (ds : List Digit) : Nat :=
  appendDigits 0 ds

theorem appendDigits_append (n : Nat) (ds es : List Digit) :
    appendDigits n (ds ++ es) = appendDigits (appendDigits n ds) es := by
  simp [appendDigits]

theorem ofDigits_digits (n : Nat) : ofDigits (digits n) = n := by
  induction n using digits.induct with
  | case1 n h => rw [digits, dif_pos h]; simp [ofDigits, appendDigits]
  | case2 n h ih =>
    rw [digits, dif_neg h, ofDigits, appendDigits_append]
    change appendDigits (ofDigits (digits (n / 10))) _ = n
    rw [ih]
    simp only [appendDigits, List.foldl]
    omega

/-- The text of digits. -/
def digitText (ds : List Digit) : List Char :=
  ds.map Digit.char

/-- The decimal text of a number. -/
def natText (n : Nat) : List Char :=
  digitText (digits n)

/-- The decimal text of a number, with a minus sign when it is negative. -/
def intText : Int → List Char
  | .ofNat n => natText n
  | .negSucc n => '-' :: natText (n + 1)

/-- The digits at the front of a text, and what follows them. -/
def spanDigits : List Char → List Digit × List Char
  | [] => ([], [])
  | c :: r =>
    match Digit.ofChar? c with
    | some d => ((d :: (spanDigits r).1), (spanDigits r).2)
    | none => ([], c :: r)

theorem length_spanDigits (s : List Char) :
    (spanDigits s).1.length + (spanDigits s).2.length = s.length := by
  induction s with
  | nil => rfl
  | cons c r ih =>
    simp only [spanDigits]
    split
    · simp only [List.length_cons]; omega
    · simp

end Accelerator
