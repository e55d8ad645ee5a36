/-!
Binary floating-point formats, as far as magnitudes go: a magnitude is coded by the bits
below the sign. Codes grow with the magnitudes they stand for, so rounding is a choice of
a code, and overflow is a code cut off at infinity.
-/

-- Powers of numbers are the ones built into the language, wherever others are in sight.
attribute [instance (1100), default_instance 20000] instPowNat

namespace FrameFlow.Binary

/-- A binary interchange format. The precision counts the hidden bit. -/
structure Format where
  precision : Nat
  exponentBits : Nat
deriving DecidableEq, Repr

def single : Format := ⟨24, 8⟩

def double : Format := ⟨53, 11⟩

/-- What a code stands for. A finite magnitude is `significand * 2 ^ exponent` of the
format's least positive numbers. -/
inductive Magnitude where
  | finite (significand exponent : Nat)
  | infinite
  | notANumber
deriving DecidableEq, Repr

namespace Format

def binade (format : Format) : Nat := 2 ^ (format.precision - 1)

def depth (format : Format) : Nat := 2 ^ (format.exponentBits - 1) - 3 + format.precision

def infinityCode (format : Format) : Nat := (2 ^ format.exponentBits - 1) * format.binade

def magnitude (format : Format) (code : Nat) : Magnitude :=
  if format.infinityCode < code then .notANumber
  else if code = format.infinityCode then .infinite
  else if code < format.binade then .finite code 0
  else .finite (format.binade + code % format.binade) (code / format.binade - 1)

end Format

/-- The whole number nearest to a quotient; of two equally near the even one. -/
def roundQuotient (numerator denominator : Nat) : Nat :=
  let whole := numerator / denominator
  let rest := numerator % denominator
  if 2 * rest < denominator then whole
  else if denominator < 2 * rest then whole + 1
  else whole + whole % 2

/-- The code of the number nearest to a quotient, ties going to the even significand and
quotients too great going to infinity. In units of the least positive number a significand
fits once the bits beyond the precision are shifted out; each shift is one exponent, and a
significand that rounds up to the next power of two carries into the exponent. -/
def Format.roundRatio (format : Format) (numerator denominator : Nat) : Nat :=
  let units := numerator * 2 ^ format.depth
  let shift := Nat.log2 (units / denominator) + 1 - format.precision
  let significand := roundQuotient units (denominator * 2 ^ shift)
  min (shift * format.binade + significand) format.infinityCode

def Format.convert (source target : Format) (code : Nat) : Nat :=
  match source.magnitude code with
  | .finite significand exponent =>
      target.roundRatio (significand * 2 ^ exponent) (2 ^ source.depth)
  | .infinite => target.infinityCode
  | .notANumber => target.infinityCode + target.binade / 2

end FrameFlow.Binary
