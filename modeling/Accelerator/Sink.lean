/-!
# Sinks

Where reports are written. A `Sink` takes bytes until its room is used up, in the middle of a text
if need be, and refuses all that comes after with an error of its own; a sink without a limit takes
everything.
-/

namespace Accelerator

/-- Why a sink takes no more. -/
structure SinkError where
  /-- The error in words. -/
  message : String
deriving DecidableEq, Repr

/-- Where a sink stops. -/
structure Limit where
  /-- How many more bytes the sink takes. -/
  room : Nat
  /-- The error with which it refuses the next one. -/
  refusal : SinkError
deriving DecidableEq, Repr

/-- A sink with the bytes it has taken. -/
structure Sink where
  limit : Option Limit
  taken : List UInt8
deriving DecidableEq, Repr

/-- The bytes of a text. -/
def textBytes (s : String) : List UInt8 :=
  s.toUTF8.data.toList

namespace Sink

/-- An empty sink. -/
def empty (limit : Option Limit) : Sink :=
  ⟨limit, []⟩

/-- Writes bytes. -/
def putBytes (bytes : List UInt8) (s : Sink) : Sink × Except SinkError Unit :=
  match s.limit with
  | none => (⟨none, s.taken ++ bytes⟩, .ok ())
  | some l =>
    if bytes.length ≤ l.room then
      (⟨some ⟨l.room - bytes.length, l.refusal⟩, s.taken ++ bytes⟩, .ok ())
    else (⟨some ⟨0, l.refusal⟩, s.taken ++ bytes.take l.room⟩, .error l.refusal)

/-- Writes texts one after the other, up to the first that the sink does not take in full. -/
def putAll : List String → Sink → Sink × Except SinkError Unit
  | [], s => (s, .ok ())
  | t :: ts, s =>
    match s.putBytes (textBytes t) with
    | (s, .ok ()) => putAll ts s
    | (s, .error e) => (s, .error e)

end Sink

end Accelerator
