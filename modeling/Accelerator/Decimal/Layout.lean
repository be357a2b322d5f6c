import Accelerator.Decimal.Numeral
import Accelerator.Decimal.Shortest

/-!
# Writing binary64 values

How a binary64 value is laid out as a numeral is a `Layout`: which exponents are written out in
full, how an exponent is marked, which of two equally near decimals is taken, and what stands for
the values that are no number. `Layout.text` writes a value.
-/

namespace Accelerator

/-- The decisions of a float format. A decimal is `d.ddd * 10 ^ e` with a nonzero first digit. -/
structure Layout where
  tie : Tie
  /-- The least `e` that is written in full. -/
  plainFrom : Int
  /-- The greatest `e` that is written in full. -/
  plainTo : Int
  /-- The mark of an exponent that is not negative. -/
  mark : ExponentMark
  notANumber : String
  infinity : String
  negativeInfinity : String

namespace Layout

/-- The numeral of a decimal. A whole number that is written in full has one zero after the point;
an exponent follows the digits without a point if there is only one. -/
def numeral (l : Layout) (negative : Bool) (d : Decimal) : Numeral :=
  let ds := digits d.coefficient
  let e : Int := d.exponent + (ds.length - 1)
  if l.plainFrom ≤ e ∧ e ≤ l.plainTo then
    if e < 0 then ⟨negative, [0], List.replicate (-e - 1).toNat 0 ++ ds, none⟩
    else if ds.length ≤ e.toNat + 1 then
      ⟨negative, ds ++ List.replicate (e.toNat + 1 - ds.length) 0, [0], none⟩
    else ⟨negative, ds.take (e.toNat + 1), ds.drop (e.toNat + 1), none⟩
  else
    ⟨negative, ds.take 1, ds.drop 1,
      some ⟨if e < 0 then .minus else l.mark, digits e.natAbs⟩⟩

/-- The numeral of a finite value; zero is written in full and keeps its sign. -/
def numeralOf (l : Layout) (x : Float) : Numeral :=
  let bits := x.toBits.toNat
  let negative := bits / 0x8000000000000000 = 1
  if bits % 0x8000000000000000 = 0 then ⟨negative, [0], [0], none⟩
  else l.numeral negative ((Dyadic.ofBits (bits % 0x8000000000000000)).shortest l.tie)

/-- The text of a value. -/
def text (l : Layout) (x : Float) : List Char :=
  if x.isFinite then (l.numeralOf x).text
  else if x.isNaN then l.notANumber.toList
  else if x < 0 then l.negativeInfinity.toList
  else l.infinity.toList

end Layout

end Accelerator
