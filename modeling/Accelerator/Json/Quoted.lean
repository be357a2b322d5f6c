import Accelerator.Json.Error

/-!
# Quoted text

What follows an opening quotation mark, as pieces: characters, and the 16-bit units that escapes
name (`Quoted.scan`). The pieces end at the closing mark or at a fault (`QuotedEnd`). Reading the
text (`Quoted.decode`) joins pairs of surrogate units and refuses units that form no pair; passing
over it (`Quoted.pass`) does not look at the units.
-/

namespace Accelerator.Json

/-- A part of a quoted text. -/
inductive Piece where
  | char (c : Char)
  | unit (n : Nat)
deriving Repr, DecidableEq

/-- How a quoted text ends. -/
inductive QuotedEnd where
  | closed
  | control
  | ended
  /-- An escape that does not exist. -/
  | badLetter
  /-- A code that is not of four hexadecimal digits. -/
  | badCode
deriving Repr, DecidableEq

/-- A quoted text without its opening mark. -/
structure Quoted where
  pieces : List Piece
  ending : QuotedEnd
deriving Repr, DecidableEq

/-- The value of a hexadecimal digit. -/
def hexValue? (c : Char) : Option Nat :=
  let n := c.toNat
  if 48 ≤ n ∧ n ≤ 57 then some (n - 48)
  else if 97 ≤ n ∧ n ≤ 102 then some (n - 87)
  else if 65 ≤ n ∧ n ≤ 70 then some (n - 55)
  else none

/-- The unit that four hexadecimal digits name. -/
def unitOf? (a b c d : Char) : Option Nat := do
  let a ← hexValue? a
  let b ← hexValue? b
  let c ← hexValue? c
  let d ← hexValue? d
  return ((a * 16 + b) * 16 + c) * 16 + d

/-- The character that a letter after a backslash stands for. -/
def escaped? (c : Char) : Option Char :=
  if c = '"' ∨ c = '\\' ∨ c = '/' then some c
  else if c = 'b' then some '\x08'
  else if c = 'f' then some '\x0c'
  else if c = 'n' then some '\n'
  else if c = 'r' then some '\r'
  else if c = 't' then some '\t'
  else none

/-- The size of a text in bytes. -/
def byteCount : List Char → Nat
  | [] => 0
  | c :: r => c.utf8Size + byteCount r

namespace Quoted

/-- A piece in front of a scan. -/
def push (p : Piece) (scan : Quoted × List Char) : Quoted × List Char :=
  ({ scan.1 with pieces := p :: scan.1.pieces }, scan.2)

/-- A scan that ends without a piece. -/
def stop (ending : QuotedEnd) (rest : List Char) : Quoted × List Char :=
  (⟨[], ending⟩, rest)

/-- The quoted text at the front of a text, and what follows its closing mark. A code that has not
four more bytes is cut off by the end of the text. -/
def scan : List Char → Quoted × List Char
  | [] => stop .ended []
  | '"' :: r => stop .closed r
  | ['\\'] => stop .ended []
  | '\\' :: 'u' :: a :: b :: c :: d :: r =>
    match unitOf? a b c d with
    | some n => push (.unit n) (scan r)
    | none => stop .badCode []
  | '\\' :: 'u' :: r => if byteCount r < 4 then stop .ended [] else stop .badCode []
  | '\\' :: e :: r =>
    match escaped? e with
    | some c => push (.char c) (scan r)
    | none => stop .badLetter []
  | c :: r => if c.toNat < 32 then stop .control [] else push (.char c) (scan r)

/-- What follows a quoted text is shorter than the text after its opening mark and the mark. -/
theorem length_scan (s : List Char) : (scan s).2.length ≤ s.length := by
  fun_induction scan s <;> simp_all [push, stop] <;> omega

/-- The character of a surrogate pair. -/
def pair (high low : Nat) : Char :=
  Char.ofNat ((high - 0xd800) * 1024 + (low - 0xdc00) + 0x10000)

/-- Reads pieces up to the ending. A high surrogate needs a low one right after it. -/
def decodePieces (ending : QuotedEnd) : List Piece → Except ReadError (List Char)
  | [] =>
    match ending with
    | .closed => .ok []
    | .control => .error .controlCharacter
    | .ended => .error (.ended .string)
    | .badLetter | .badCode => .error .badEscape
  | .char c :: ps => (c :: ·) <$> decodePieces ending ps
  | .unit n :: ps =>
    if n < 0xd800 ∨ 0xdfff < n then (Char.ofNat n :: ·) <$> decodePieces ending ps
    else if 0xdbff < n then .error .loneSurrogate
    else
      match ps with
      | .unit m :: qs =>
        if 0xdc00 ≤ m ∧ m ≤ 0xdfff then (pair n m :: ·) <$> decodePieces ending qs
        else .error .loneSurrogate
      | .char _ :: _ => .error .surrogateCut
      | [] =>
        match ending with
        | .ended => .error (.ended .string)
        | .badCode => .error .badEscape
        | .closed | .control | .badLetter => .error .surrogateCut

/-- The text that is quoted. -/
def decode (q : Quoted) : Except ReadError String :=
  String.ofList <$> decodePieces q.ending q.pieces

/-- Passes over a quoted text. -/
def pass (q : Quoted) : Except ReadError Unit :=
  match q.ending with
  | .closed => .ok ()
  | .control => .error .controlCharacter
  | .ended => .error (.ended .string)
  | .badLetter | .badCode => .error .badEscape

end Quoted

end Accelerator.Json
