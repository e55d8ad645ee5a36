import FrameFlow.Decimal.Shortest

/-! How decimal digits are laid out on paper: positionally or with an exponent. -/

namespace FrameFlow.Decimal

/-- The choices an output format makes. The exponent of a number is that of its first digit. -/
structure Layout where
  leastPositional : Int
  positionalLimit : Int
  keepsPoint : Bool
  signsExponent : Bool

namespace Layout

def positional (layout : Layout) (digits : List Char) (pointAt : Int) : List Char :=
  if pointAt ≤ 0 then
    '0' :: '.' :: (List.replicate (-pointAt).toNat '0' ++ digits)
  else
    let whole := digits.take pointAt.toNat
    let filling := List.replicate (pointAt.toNat - digits.length) '0'
    match digits.drop pointAt.toNat with
    | [] => whole ++ filling ++ (if layout.keepsPoint then ['.', '0'] else [])
    | fraction => whole ++ '.' :: fraction

def scientific (layout : Layout) (digits : List Char) (exponent : Int) : List Char :=
  let mantissa :=
    match digits with
    | [] => []
    | [digit] => [digit]
    | digit :: fraction => digit :: '.' :: fraction
  let sign := if exponent < 0 then ['-'] else if layout.signsExponent then ['+'] else []
  mantissa ++ 'e' :: (sign ++ (toString exponent.natAbs).toList)

/-- The text of `coefficient * 10 ^ power` with its sign. Zeros that end the coefficient
carry no value and are taken as part of the power. -/
def render (layout : Layout) (isNegative : Bool) (coefficient : Nat) (power : Int) : String :=
  let allDigits := (toString coefficient).toList
  let digits := (allDigits.reverse.dropWhile (· == '0')).reverse
  let body :=
    if coefficient = 0 then layout.positional ['0'] 1
    else
      let pointAt := power + allDigits.length
      let exponent := pointAt - 1
      if layout.leastPositional ≤ exponent ∧ exponent < layout.positionalLimit then
        layout.positional digits pointAt
      else layout.scientific digits exponent
  String.ofList (if isNegative then '-' :: body else body)

end Layout

end FrameFlow.Decimal
