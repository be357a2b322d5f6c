import Accelerator.Json.Document
import Accelerator.Proofs.Decimal.Numerals

/-!
# The grammar of JSON

Which texts are JSON, said without a reader: the texts of values (`ValueText`), with blanks of any
length wherever a token ends, numbers of any size, strings with any escapes, and lists and objects
of any depth.  Lists and objects are relations between a text and the texts of its parts
(`ListText`, `ObjectText`), so that members can be told apart before they are read.
-/

namespace Accelerator.Json

/-- Nothing but separators. -/
def Blanks (w : List Char) : Prop :=
  ∀ c ∈ w, isSeparator c = true

/-! ## Strings -/

/-- The hexadecimal digits in both cases. -/
def hexDigits : List Char := [
  '0', '1', '2', '3', '4', '5', '6', '7', '8', '9',
  'a', 'b', 'c', 'd', 'e', 'f', 'A', 'B', 'C', 'D', 'E', 'F']

/-- The text between two quotation marks: characters that are neither quotation marks nor
backslashes nor controls, and escapes by a letter or by a code.  Codes may be those of surrogates
that form no pair. -/
inductive QuotedText : List Char → Prop
  | nil : QuotedText []
  | plain {c : Char} {s : List Char} (hc : c ≠ '"' ∧ c ≠ '\\' ∧ 32 ≤ c.toNat) (hs : QuotedText s) :
      QuotedText (c :: s)
  | escape {c : Char} {s : List Char} (hc : c ∈ ['"', '\\', '/', 'b', 'f', 'n', 'r', 't'])
      (hs : QuotedText s) : QuotedText ('\\' :: c :: s)
  | code {a b c d : Char} {s : List Char} (hcode : ∀ x ∈ [a, b, c, d], x ∈ hexDigits)
      (hs : QuotedText s) : QuotedText ('\\' :: 'u' :: a :: b :: c :: d :: s)

theorem quotedText_of_plain {s : List Char} (h : ∀ c ∈ s, c ≠ '"' ∧ c ≠ '\\' ∧ 32 ≤ c.toNat) :
    QuotedText s := by
  induction s with
  | nil => exact .nil
  | cons c s ih =>
    obtain ⟨hc, hs⟩ := List.forall_mem_cons.1 h
    exact .plain hc (ih hs)

/-! ## Lists and objects -/

section Parts

variable {α : Type} (P : List Char → α → Prop)

/-- Texts of one part or more, with commas between them. -/
inductive Separated : List Char → List α → Prop
  | one {s : List Char} {a : α} (h : P s a) : Separated s [a]
  | cons {s t : List Char} {a : α} {as : List α} (h : P s a) (ht : Separated t as) :
      Separated (s ++ ',' :: t) (a :: as)

/-- Texts of any number of parts, with commas between them, in brackets. -/
inductive Enclosed (opening closing : Char) : List Char → List α → Prop
  | empty {w : List Char} (hw : Blanks w) :
      Enclosed opening closing (opening :: (w ++ [closing])) []
  | parts {s : List Char} {as : List α} (h : Separated P s as) :
      Enclosed opening closing (opening :: (s ++ [closing])) as

end Parts

/-- A text with blanks around it. -/
inductive ItemText : List Char → List Char → Prop
  | mk {w w' : List Char} (v : List Char) (hw : Blanks w) (hw' : Blanks w') :
      ItemText (w ++ (v ++ w')) v

/-- A key between quotation marks, a colon and the text of a value, with blanks around each. -/
inductive MemberText : List Char → List Char × List Char → Prop
  | mk {w₁ w₂ w₃ w₄ : List Char} (key v : List Char) (h₁ : Blanks w₁) (h₂ : Blanks w₂)
      (h₃ : Blanks w₃) (h₄ : Blanks w₄) :
      MemberText (w₁ ++ '"' :: (key ++ '"' :: (w₂ ++ ':' :: (w₃ ++ (v ++ w₄))))) (key, v)

/-- The text of a list, and the texts of its items. -/
abbrev ListText : List Char → List (List Char) → Prop :=
  Enclosed ItemText '[' ']'

/-- The text of an object, and the texts of the keys and of the values of its members. -/
abbrev ObjectText : List Char → List (List Char × List Char) → Prop :=
  Enclosed MemberText '{' '}'

/-! ## Values -/

/-- The texts of values. -/
inductive ValueText : List Char → Prop
  | null : ValueText nullText
  | flag (b : Bool) : ValueText (flagText b)
  | number {n : Numeral} {letter : Char} (hn : n.Proper) (hletter : letter = 'e' ∨ letter = 'E') :
      ValueText (n.signText ++ n.unsignedText letter)
  | string {s : List Char} (hs : QuotedText s) : ValueText ('"' :: (s ++ ['"']))
  | list {s : List Char} {vs : List (List Char)} (hs : ListText s vs)
      (hvs : ∀ v ∈ vs, ValueText v) : ValueText s
  | object {s : List Char} {ms : List (List Char × List Char)} (hs : ObjectText s ms)
      (hkeys : ∀ m ∈ ms, QuotedText m.1) (hvs : ∀ m ∈ ms, ValueText m.2) : ValueText s

end Accelerator.Json
