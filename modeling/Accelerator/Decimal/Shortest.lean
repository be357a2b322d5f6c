import Accelerator.Decimal.Digits

/-!
# The shortest decimal that reads back

A positive finite binary64 value is a `Dyadic`: a significand times a power of two. The reals that
round to it form an interval (`Dyadic.readsBack`). `Dyadic.shortest` tries ever finer decimal grids,
the first one having the value's leading digit only, and takes the first grid with a point in that
interval; of two such points the nearer, and on an exact tie the one that the `Tie` rule names.
All comparisons are exact, between natural numbers.
-/

namespace Accelerator

/-- A positive value `significand * 2 ^ exponent` of the binary64 format. -/
structure Dyadic where
  significand : Nat
  exponent : Int
  /-- The gap to the next smaller value is half the gap to the next larger one. -/
  narrowBelow : Bool
deriving Repr, DecidableEq

/-- A value `coefficient * 10 ^ exponent`. -/
structure Decimal where
  coefficient : Nat
  exponent : Int
deriving Repr, DecidableEq

/-- Which of two equally near decimals is taken. -/
inductive Tie where
  | toEven
  | upward
deriving Repr, DecidableEq

/-- The number of decimal digits of a natural number. -/
def digitCount (n : Nat) : Nat :=
  if n < 10 then 1 else digitCount (n / 10) + 1

namespace Dyadic

/-- The value that the lower 63 bits of a binary64 pattern stand for, neither zero, infinite nor
not-a-number. -/
def ofBits (bits : Nat) : Dyadic :=
  let biased : Nat := bits / 0x10000000000000 % 0x800
  let fraction : Nat := bits % 0x10000000000000
  if biased = 0 then ⟨fraction, -1074, false⟩
  else ⟨0x10000000000000 + fraction, (biased : Int) - 1075, fraction = 0 && biased > 1⟩

/-- The decimal grid of the multiples of `10 ^ g`, as seen from the value: one unit of the
significand is `step / unit` grid steps. -/
structure Grid where
  step : Nat
  unit : Nat

/-- The grid of the multiples of `10 ^ g`. -/
def grid (x : Dyadic) (g : Int) : Grid where
  step := Nat.pow 2 x.exponent.toNat * Nat.pow 10 (-g).toNat
  unit := Nat.pow 2 (-x.exponent).toNat * Nat.pow 10 g.toNat

/-- The grid point `d` lies among the reals that round to the value: between the midpoints to its
two neighbours, and on one of them only if the significand is even. -/
def readsBack (x : Dyadic) (k : Grid) (d : Nat) : Bool :=
  let low := (4 * x.significand - if x.narrowBelow then 1 else 2) * k.step
  let high := (4 * x.significand + 2) * k.step
  let point := 4 * d * k.unit
  if x.significand % 2 = 0 then low ≤ point && point ≤ high else low < point && point < high

/-- The grid point nearest to the value, the tie rule deciding between two. -/
def nearest (x : Dyadic) (tie : Tie) (k : Grid) : Nat :=
  let low := x.significand * k.step / k.unit
  match compare (2 * (x.significand * k.step)) ((2 * low + 1) * k.unit), tie with
  | .lt, _ => low
  | .gt, _ => low + 1
  | .eq, .upward => low + 1
  | .eq, .toEven => if low % 2 = 0 then low else low + 1

/-- A point of the grid that reads back, the nearest one if both neighbours of the value do. -/
def candidate? (x : Dyadic) (tie : Tie) (k : Grid) : Option Nat :=
  let low := x.significand * k.step / k.unit
  match x.readsBack k low, x.readsBack k (low + 1) with
  | true, true => some (x.nearest tie k)
  | true, false => some low
  | false, true => some (low + 1)
  | false, false => none

/-- The exponent `k` with `10 ^ (k - 1) ≤ x < 10 ^ k`. -/
def magnitude (x : Dyadic) : Int :=
  let whole := x.significand * (x.grid 0).step / (x.grid 0).unit
  if whole = 0 then
    let k := x.grid (-324)
    digitCount (x.significand * k.step / k.unit) - 324
  else digitCount whole

/-- The value itself, as a decimal. -/
def exact (x : Dyadic) : Decimal :=
  if 0 ≤ x.exponent then ⟨x.significand * Nat.pow 2 x.exponent.toNat, 0⟩
  else ⟨x.significand * Nat.pow 5 (-x.exponent).toNat, x.exponent⟩

/-- The decimal of the coarsest grid that reads back; seventeen digits always do. -/
def select (x : Dyadic) (tie : Tie) : Decimal :=
  let top := x.magnitude - 1
  let onGrid (n : Nat) : Option Decimal :=
    (x.candidate? tie (x.grid (top - n))).map fun d => ⟨d, top - n⟩
  ((List.range 17).findSome? onGrid).getD x.exact

end Dyadic

namespace Decimal

/-- The same value without trailing zeros in the coefficient. -/
def strip (d : Decimal) : Decimal :=
  if h : d.coefficient ≠ 0 ∧ d.coefficient % 10 = 0 then
    strip ⟨d.coefficient / 10, d.exponent + 1⟩
  else d
termination_by d.coefficient
decreasing_by omega

end Decimal

/-- The decimal of fewest digits that reads back as the value, without trailing zeros. -/
def Dyadic.shortest (x : Dyadic) (tie : Tie) : Decimal :=
  (x.select tie).strip

end Accelerator
