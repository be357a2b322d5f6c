import Accelerator.Decimal.Numeral

/-!
# The number that a numeral stands for

A numeral without fraction and exponent that fits 64 bits is an integer; every other numeral is a
binary64 value (`Numeral.value`). The value is found in two roundings: the digits are gathered in a
64-bit word as long as they fit (`gather`), the word becomes a float, and that float is multiplied
or divided by a power of ten (`scale`). So it need not be the nearest value.
-/

namespace Accelerator

/-- A number that was read. -/
inductive Number where
  | integer (n : Int)
  | real (x : Float)

/-- The float nearest to an integer of at most 64 bits. -/
def realOfInt (n : Int) : Float :=
  if n < 0 then -(UInt64.ofNat n.natAbs).toFloat else (UInt64.ofNat n.natAbs).toFloat

/-- Appends digits to `n` as long as the result fits 64 bits; returns the digits that are left. -/
def gather (n : Nat) : List Digit → Nat × List Digit
  | [] => (n, [])
  | d :: ds => if n * 10 + d.val < 0x10000000000000000 then gather (n * 10 + d.val) ds else (n, d :: ds)

/-- The power of ten nearest to `10 ^ k`. -/
def powerOfTen (k : Nat) : Float :=
  Float.ofScientific 1 false k

/-- `x * 10 ^ e`, or nothing if that is out of range. Exponents below -308 take several steps, which
end when nothing is left of the value. -/
def scale (x : Float) (e : Int) : Option Float :=
  if e < -308 then
    if x == 0 then some x else scale (x / powerOfTen 308) (e + 308)
  else if e < 0 then finite (x / powerOfTen (-e).toNat)
  else if e ≤ 308 then finite (x * powerOfTen e.toNat)
  else if x == 0 then some x else none
termination_by (-e).toNat
decreasing_by omega
where
  /-- The value, if it is finite. -/
  finite (x : Float) : Option Float := if x.isFinite then some x else none

namespace Numeral

/-- The value of the written exponent, or nothing if its digits do not fit 32 bits. -/
def exponentValue? : Option Exponent → Option Int
  | none => some 0
  | some e =>
    let n := ofDigits e.digits
    if n < 0x80000000 then some (if e.mark = .minus then -n else n) else none

/-- The magnitude of a numeral that is no integer: `significand` times ten to the number of whole
digits that were dropped, less the number of fraction digits that were taken, plus the exponent. An
exponent that does not fit 32 bits leaves nothing of the value, or is out of range. -/
def magnitude (n : Numeral) : Option Float :=
  let (whole, dropped) := gather 0 n.whole
  let (significand, untaken) := gather whole n.fraction
  let shift : Int := dropped.length - (n.fraction.length - untaken.length : Nat)
  match exponentValue? n.exponent with
  | some e => scale (UInt64.ofNat significand).toFloat (shift + e)
  | none =>
    if significand ≠ 0 ∧ n.exponent.any (·.mark ≠ .minus) then none else some 0

/-- The number that a numeral stands for, or nothing if it is out of range. A negative integer is
at least `-2 ^ 63`, and `-0` is no integer. -/
def value (n : Numeral) : Option Number :=
  let (m, dropped) := gather 0 n.whole
  if dropped.isEmpty ∧ n.fraction.isEmpty ∧ n.exponent.isNone then
    if ¬n.negative then some (.integer m)
    else if 0 < m ∧ m ≤ 0x8000000000000000 then some (.integer (-m))
    else some (.real (-(UInt64.ofNat m).toFloat))
  else n.magnitude.map fun x => .real (if n.negative then -x else x)

end Numeral

end Accelerator
