import Accelerator.Decimal.Layout

/-!
# Writing JSON

The JSON texts of numbers and strings, and of arrays and objects from the texts of their parts.
Nothing is written between two tokens.
-/

namespace Accelerator.Json

/-- Numbers from `0.00001` up to sixteen whole digits are written in full, all others with a signed
exponent; a tie goes to the even digit; what is no number is `null`. -/
def layout : Layout where
  tie := .toEven
  plainFrom := -5
  plainTo := 15
  mark := .plus
  notANumber := "null"
  infinity := "null"
  negativeInfinity := "null"

/-- The text of a float. -/
def realText (x : Float) : List Char :=
  layout.text x

/-- The text of a flag. -/
def flagText : Bool → List Char
  | true => ['t', 'r', 'u', 'e']
  | false => ['f', 'a', 'l', 's', 'e']

/-- The text of an absent value. -/
def nullText : List Char :=
  ['n', 'u', 'l', 'l']

/-- A lower-case hexadecimal digit. -/
def hexDigit (d : Fin 16) : Char :=
  if d.val < 10 then Char.ofNat (48 + d.val) else Char.ofNat (87 + d.val)

/-- A control character as an escape of four hexadecimal digits. -/
def controlEscape (n : Nat) : List Char :=
  ['\\', 'u', '0', '0', hexDigit ⟨n / 16 % 16, by omega⟩, hexDigit ⟨n % 16, by omega⟩]

/-- A character as it stands in a string: quotes, backslashes and controls are escaped. -/
def charText (c : Char) : List Char :=
  if c = '"' then ['\\', '"']
  else if c = '\\' then ['\\', '\\']
  else if c = '\x08' then ['\\', 'b']
  else if c = '\t' then ['\\', 't']
  else if c = '\n' then ['\\', 'n']
  else if c = '\x0c' then ['\\', 'f']
  else if c = '\r' then ['\\', 'r']
  else if c.toNat < 32 then controlEscape c.toNat
  else [c]

/-- The text of a string. -/
def stringText (s : String) : List Char :=
  '"' :: (s.toList.flatMap charText ++ ['"'])

/-- The rest of an array or object after its first part. -/
def partsText : List (List Char) → List Char
  | [] => []
  | p :: ps => ',' :: (p ++ partsText ps)

/-- Parts with commas between them. -/
def separated : List (List Char) → List Char
  | [] => []
  | p :: ps => p ++ partsText ps

/-- The text of an array from the texts of its entries. -/
def arrayText (parts : List (List Char)) : List Char :=
  '[' :: (separated parts ++ [']'])

/-- The text of an object from the texts of its members. -/
def objectText (parts : List (List Char)) : List Char :=
  '{' :: (separated parts ++ ['}'])

/-- The text of a member. -/
def memberText (key : String) (value : List Char) : List Char :=
  stringText key ++ ':' :: value

end Accelerator.Json
