import FrameFlow.Decimal.Numeral

/-!
JSON values as texts spell them: objects keep the order and the repetitions of their
members, and numbers keep every digit. Reading a value is separate from reading a type out
of it, which is `FrameFlow.Json.Decoding`.
-/

namespace FrameFlow

/-- A JSON value. A number written without fraction or exponent is an integer, except
minus zero, whose sign only a decimal can keep. -/
inductive Json where
  | null
  | bool (value : Bool)
  | integer (value : Int)
  | decimal (value : Decimal.Numeral)
  | string (value : String)
  | array (items : List Json)
  | object (members : List (String × Json))
  /-- Well-formed text with a string whose escapes spell no characters. It can be skipped,
  but nothing can be read from it. -/
  | unreadable
deriving Inhabited

namespace Json

def valuesAt (members : List (String × Json)) (name : String) : List Json :=
  (members.filter (·.1 == name)).map (·.2)

def member? (name : String) : Json → Option Json
  | .object members => (valuesAt members name).getLast?
  | _ => none

def ofOption (encode : α → Json) : Option α → Json
  | some value => encode value
  | none => .null

def string? : Json → Option String
  | .string value => some value
  | _ => none

def integer? : Json → Option Int
  | .integer value => some value
  | _ => none

def bool? : Json → Option Bool
  | .bool value => some value
  | _ => none

def array? : Json → Option (List Json)
  | .array items => some items
  | _ => none

end Json

end FrameFlow
