import FrameFlow.Binary.Single

/-! Decimal numbers as they are written, and their rounding to binary formats. -/

namespace FrameFlow.Decimal

/-- A written number: `coefficient * 10 ^ exponent` with a sign of its own, so that minus
zero is told from zero. -/
structure Numeral where
  isNegative : Bool
  coefficient : Nat
  exponent : Int
deriving DecidableEq, Repr, Inhabited

def value (digits : List Char) : Nat :=
  digits.foldl (fun total digit => total * 10 + (digit.toNat - '0'.toNat)) 0

namespace Numeral

def ofDigits (isNegative : Bool) (whole fraction : List Char) (scale : Int) : Numeral where
  isNegative
  coefficient := value (whole ++ fraction)
  exponent := scale - fraction.length

def ofInt (whole : Int) : Numeral := ⟨decide (whole < 0), whole.natAbs, 0⟩

def height (numeral : Numeral) : Int :=
  (Nat.toDigits 10 numeral.coefficient).length + numeral.exponent

/-- Beyond this many decimal places nothing is finite, and below as many places under the
point everything is zero, in single as in double precision. -/
def horizon : Int := 400

def code (format : Binary.Format) (numeral : Numeral) : Nat :=
  if numeral.coefficient = 0 then 0
  else if horizon < numeral.height then format.infinityCode
  else if numeral.height < -horizon then 0
  else if 0 ≤ numeral.exponent then
    format.roundRatio (numeral.coefficient * 10 ^ numeral.exponent.toNat) 1
  else format.roundRatio numeral.coefficient (10 ^ (-numeral.exponent).toNat)

def toSingle (numeral : Numeral) : Single :=
  .ofCode numeral.isNegative (numeral.code Binary.single)

/-- The single-precision number nearest to the nearest double-precision one; none when
double precision already overflows. -/
def toSingleByDouble? (numeral : Numeral) : Option Single :=
  let wide := numeral.code Binary.double
  if wide = Binary.double.infinityCode then none
  else some (.ofCode numeral.isNegative (Binary.double.convert Binary.single wide))

end Numeral

end FrameFlow.Decimal
