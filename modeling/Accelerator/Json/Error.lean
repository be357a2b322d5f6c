import Accelerator.Json.Writing
import Accelerator.Text.Literal

/-!
# Why a text does not read

A `ReadError` is the first reason, in reading order, why a JSON text is not the value that is due.
It falls in one of three categories, and `ReadError.message` words it; where in the text it is found
is left out.
-/

namespace Accelerator

/-- What is still open where a text ends. -/
inductive Unfinished where
  | value
  | string
  | list
  | object
deriving Repr, DecidableEq

/-- What is found where something else is due. -/
inductive Found where
  | null
  | flag (b : Bool)
  | integer (n : Int)
  | real (x : Float)
  | string (s : String)
  | sequence
  | map
deriving Repr

/-- What is due. -/
inductive Expected where
  | real
  | integer
  | flag
  | string
  | unit
  | list
  | array (length : Nat)
  | record (name : String)
deriving Repr, DecidableEq

/-- A list that is too short for what is due. -/
inductive Sized where
  | array (length : Nat)
  | record (name : String) (fields : Nat)
deriving Repr, DecidableEq

/-- Why a JSON text does not read. -/
inductive ReadError where
  | ended (what : Unfinished)
  | colonDue
  | listEndDue
  | objectEndDue
  | wordDue
  | valueDue
  | keyDue
  | trailingComma
  | trailingText
  | badNumber
  | outOfRange
  | badEscape
  | controlCharacter
  | loneSurrogate
  | surrogateCut
  | wrongType (found : Found) (expected : Expected)
  | outsideInteger (n : Int)
  | tooShort (length : Nat) (expected : Sized)
  | missing (field : String)
  | duplicate (field : String)
  | unknownChoice (name : String) (known : List String)
deriving Repr

/-- What kind of reason an error is. -/
inductive Category where
  /-- The text is no JSON. -/
  | syntactic
  /-- The text is JSON, but not of the value that is due. -/
  | data
  /-- The text ends too early. -/
  | ended
deriving Repr, DecidableEq

namespace Unfinished

/-- What is still open, in words. -/
def text : Unfinished → String
  | value => "a value"
  | string => "a string"
  | list => "a list"
  | object => "an object"

end Unfinished

namespace Found

/-- What is found, in words. -/
def text : Found → String
  | null => "null"
  | flag true => "boolean `true`"
  | flag false => "boolean `false`"
  | integer n => "integer `" ++ String.ofList (intText n) ++ "`"
  | real x => "floating point `" ++ String.ofList (Json.realText x) ++ "`"
  | string s => "string " ++ literal s
  | sequence => "sequence"
  | map => "map"

end Found

namespace Expected

/-- What is due, in words. -/
def text : Expected → String
  | real => "f64"
  | integer => "i32"
  | flag => "a boolean"
  | string => "a string"
  | unit => "unit"
  | list => "a sequence"
  | array n => "an array of length " ++ String.ofList (natText n)
  | record name => "struct " ++ name

end Expected

namespace Sized

/-- What is due, in words. -/
def text : Sized → String
  | array n => (Expected.array n).text
  | record name 1 => "struct " ++ name ++ " with 1 element"
  | record name n => "struct " ++ name ++ " with " ++ String.ofList (natText n) ++ " elements"

end Sized

/-- A name between back quotes. -/
def quotedName (name : String) : String :=
  "`" ++ name ++ "`"

/-- The names that are known, in words. -/
def knownNames : List String → String
  | [] => "there are no variants"
  | [a] => "expected " ++ quotedName a
  | [a, b] => "expected " ++ quotedName a ++ " or " ++ quotedName b
  | names => "expected one of " ++ ", ".intercalate (names.map quotedName)

namespace ReadError

/-- What kind of reason the error is. -/
def category : ReadError → Category
  | ended _ => .ended
  | wrongType .. | outsideInteger _ | tooShort .. | missing _ | duplicate _ | unknownChoice .. =>
    .data
  | _ => .syntactic

/-- The reason, in words. -/
def message : ReadError → String
  | ended what => "EOF while parsing " ++ what.text
  | colonDue => "expected `:`"
  | listEndDue => "expected `,` or `]`"
  | objectEndDue => "expected `,` or `\x7d`"
  | wordDue => "expected ident"
  | valueDue => "expected value"
  | keyDue => "key must be a string"
  | trailingComma => "trailing comma"
  | trailingText => "trailing characters"
  | badNumber => "invalid number"
  | outOfRange => "number out of range"
  | badEscape => "invalid escape"
  | controlCharacter => "control character (\\u0000-\\u001F) found while parsing a string"
  | loneSurrogate => "lone leading surrogate in hex escape"
  | surrogateCut => "unexpected end of hex escape"
  | wrongType found expected => "invalid type: " ++ found.text ++ ", expected " ++ expected.text
  | outsideInteger n =>
    "invalid value: " ++ (Found.integer n).text ++ ", expected " ++ Expected.integer.text
  | tooShort n expected =>
    "invalid length " ++ String.ofList (natText n) ++ ", expected " ++ expected.text
  | missing field => "missing field " ++ quotedName field
  | duplicate field => "duplicate field " ++ quotedName field
  | unknownChoice name known =>
    "unknown variant " ++ quotedName name ++ ", " ++ knownNames known

end ReadError

end Accelerator
