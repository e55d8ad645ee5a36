import FrameFlow.Json.Basic
import FrameFlow.Decimal.Layout

/-! Writing JSON values without blanks, numbers with the fewest digits that read back. -/

namespace FrameFlow.Json

/-- Numbers that are no integers are written positionally from a hundred-thousandth up to
ten to the sixteenth, always with a point, and scales carry their sign. -/
def numberLayout : Decimal.Layout where
  leastPositional := -5
  positionalLimit := 16
  keepsPoint := true
  signsExponent := true

/-- A single-precision number as the shortest decimal of the same number in double
precision; what is not finite has no JSON number. -/
def ofSingle (number : Single) : Json :=
  let code := Binary.single.convert Binary.double number.code
  match Binary.double.magnitude code with
  | .finite significand exponent =>
      let (coefficient, power) := Decimal.shortest Binary.double significand exponent
      .decimal ⟨number.isNegative, coefficient, power⟩
  | .infinite | .notANumber => .null

def escaped (c : Char) : List Char :=
  if c = '"' then ['\\', '"']
  else if c = '\\' then ['\\', '\\']
  else if c = '\x08' then ['\\', 'b']
  else if c = '\x0c' then ['\\', 'f']
  else if c = '\n' then ['\\', 'n']
  else if c = '\r' then ['\\', 'r']
  else if c = '\t' then ['\\', 't']
  else if c.toNat < 0x20 then
    ['\\', 'u', '0', '0', Nat.digitChar (c.toNat / 16), Nat.digitChar (c.toNat % 16)]
  else [c]

def quoted (text : String) : String :=
  String.ofList ('"' :: (text.toList.flatMap escaped ++ ['"']))

mutual

def render : Json → String
  | .null | .unreadable => "null"
  | .bool true => "true"
  | .bool false => "false"
  | .integer value => toString value
  | .decimal value => numberLayout.render value.isNegative value.coefficient value.exponent
  | .string value => quoted value
  | .array items => "[" ++ ",".intercalate (renderItems items) ++ "]"
  | .object members => "\x7b" ++ ",".intercalate (renderMembers members) ++ "\x7d"

def renderItems : List Json → List String
  | [] => []
  | item :: rest => render item :: renderItems rest

def renderMembers : List (String × Json) → List String
  | [] => []
  | (name, value) :: rest => (quoted name ++ ":" ++ render value) :: renderMembers rest

end

end FrameFlow.Json
