import Accelerator.Text.Visible

/-!
# String literals

Text as a literal between double quotes, for people to read: quotes, backslashes and the common
controls are escaped by a letter, other characters that do not show by their code point.
-/

namespace Accelerator

/-- The lower-case hexadecimal digits of a number. -/
def hexText (n : Nat) : List Char :=
  Nat.toDigits 16 n

/-- A character as it stands in a literal. -/
def literalChar (c : Char) : List Char :=
  if c = '"' then ['\\', '"']
  else if c = '\\' then ['\\', '\\']
  else if c = '\n' then ['\\', 'n']
  else if c = '\r' then ['\\', 'r']
  else if c = '\t' then ['\\', 't']
  else if c = '\x00' then ['\\', '0']
  else if isVisible c then [c]
  else ['\\', 'u', '{'] ++ hexText c.toNat ++ ['}']

/-- Text as a literal. -/
def literal (s : String) : String :=
  String.ofList ('"' :: (s.toList.flatMap literalChar ++ ['"']))

end Accelerator
