import Accelerator.Json.Document

/-!
# Faults of a document

Passing over a value that nobody asked for (`Document.pass`), and the complaint about a value that
is not of the type that is due (`Document.mismatch`): a faulty value is first of all faulty, and a
scalar is read before its type is refused.
-/

namespace Accelerator.Json

/-- Why a broken word does not read. -/
def wordError (ended : Bool) : ReadError :=
  if ended then .ended .value else .wordDue

/-- Why a broken number does not read. -/
def numberError (ended : Bool) : ReadError :=
  if ended then .ended .value else .badNumber

mutual

/-- Passes over a value: it has to be JSON, but numbers may be out of range and strings may hold
surrogates that form no pair. -/
def Document.pass : Document → Except ReadError Unit
  | .missing => .error (.ended .value)
  | .stray => .error .valueDue
  | .word _ => .ok ()
  | .brokenWord ended => .error (wordError ended)
  | .number _ => .ok ()
  | .brokenNumber _ => .error .badNumber
  | .string q => q.pass
  | .list items => items.pass
  | .object members => members.pass

/-- Passes over the items of a list. -/
def Items.pass : Items → Except ReadError Unit
  | .closed => .ok ()
  | .ended => .error (.ended .list)
  | .stray => .error .listEndDue
  | .dangling => .error .valueDue
  | .item d rest =>
    match d.pass with
    | .error e => .error e
    | .ok () => rest.pass

/-- Passes over the members of an object. -/
def Members.pass : Members → Except ReadError Unit
  | .closed => .ok ()
  | .ended => .error (.ended .object)
  | .stray => .error .objectEndDue
  | .dangling => .error .keyDue
  | .commaEnded => .error (.ended .object)
  | .noKey => .error .keyDue
  | .brokenKey key =>
    match key.pass with
    | .error e => .error e
    | .ok () => .error (.ended .string)
  | .keyEnded _ => .error (.ended .object)
  | .noColon _ => .error .colonDue
  | .member _ d rest =>
    match d.pass with
    | .error e => .error e
    | .ok () => rest.pass

end

/-- The number that a numeral stands for. -/
def numberOf (n : Numeral) : Except ReadError Number :=
  match n.value with
  | some v => .ok v
  | none => .error .outOfRange

namespace Document

/-- What a value is, for the complaint that it is of the wrong type. -/
def found : Document → Except ReadError Found
  | .missing => .error (.ended .value)
  | .stray => .error .valueDue
  | .word .null => .ok .null
  | .word (.flag b) => .ok (.flag b)
  | .brokenWord ended => .error (wordError ended)
  | .number n =>
    match numberOf n with
    | .ok (.integer i) => .ok (.integer i)
    | .ok (.real x) => .ok (.real x)
    | .error e => .error e
  | .brokenNumber ended => .error (numberError ended)
  | .string q => Found.string <$> q.decode
  | .list _ => .ok .sequence
  | .object _ => .ok .map

/-- The complaint about a value where another type is due. -/
def mismatch (d : Document) (expected : Expected) : ReadError :=
  match d.found with
  | .ok found => .wrongType found expected
  | .error e => e

end Document

end Accelerator.Json
