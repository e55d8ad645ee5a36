import FrameFlow.Decimal.Numeral

/-!
The fewest decimal digits that read back. The numbers that round to a binary value fill an
interval around it; grids of powers of ten are tried from coarse to fine, and the first
grid with a point in the interval gives the digits.
-/

namespace FrameFlow.Decimal

structure RoundingInterval where
  least : Nat
  center : Nat
  greatest : Nat
  unitNumerator : Nat
  unitDenominator : Nat
  endsIncluded : Bool

/-- The interval of a finite magnitude: half a step to either side, except that the step
below a power of two is half as wide; the ends round to even significands. -/
def RoundingInterval.ofMagnitude (format : Binary.Format) (significand exponent : Nat) :
    RoundingInterval where
  least := 4 * significand - (if significand = format.binade ∧ 0 < exponent then 1 else 2)
  center := 4 * significand
  greatest := 4 * significand + 2
  unitNumerator := 2 ^ exponent
  unitDenominator := 2 ^ (format.depth + 2)
  endsIncluded := significand % 2 = 0

namespace RoundingInterval

def onGrid (interval : RoundingInterval) (power : Int) : Nat × Nat :=
  if 0 ≤ power then
    (interval.unitNumerator, interval.unitDenominator * 10 ^ power.toNat)
  else (interval.unitNumerator * 10 ^ (-power).toNat, interval.unitDenominator)

def holds (interval : RoundingInterval) (power : Int) (point : Nat) : Bool :=
  let (numerator, denominator) := interval.onGrid power
  let scaled := point * denominator
  if interval.endsIncluded then
    interval.least * numerator ≤ scaled && scaled ≤ interval.greatest * numerator
  else interval.least * numerator < scaled && scaled < interval.greatest * numerator

/-- The grid point in the interval nearest to its center, if there is one: one of the
center's two neighbours, and the even one where both are equally near. -/
def nearestOn? (interval : RoundingInterval) (power : Int) : Option Nat :=
  let (numerator, denominator) := interval.onGrid power
  let below := interval.center * numerator / denominator
  match interval.holds power below, interval.holds power (below + 1) with
  | true, true => some (Binary.roundQuotient (interval.center * numerator) denominator)
  | true, false => some below
  | false, true => some (below + 1)
  | false, false => none

def firstOn (interval : RoundingInterval) (power : Int) : Nat → Nat × Int
  | 0 => (interval.center * (interval.onGrid power).1 / (interval.onGrid power).2, power)
  | count + 1 =>
      match interval.nearestOn? power with
      | some point => (point, power)
      | none => interval.firstOn (power - 1) count

end RoundingInterval

/-- No format here needs more digits than this to tell its numbers apart; three grids more
make up for an estimate of the height that is too high. -/
def gridCount : Nat := 20

def shortest (format : Binary.Format) (significand exponent : Nat) : Nat × Int :=
  if significand = 0 then (0, 0)
  else
    let logarithm : Int := Nat.log2 significand + exponent - format.depth
    let start := logarithm * 30103 / 100000 + 1
    (RoundingInterval.ofMagnitude format significand exponent).firstOn start gridCount

end FrameFlow.Decimal
