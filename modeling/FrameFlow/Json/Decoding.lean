import FrameFlow.Json.Basic

/-!
Reading types out of JSON values. A structure is an object or the array of its fields in
order; both are brought to one form, the list of its fields' values, before any field is
read, so how a structure is written cannot matter to its fields.
-/

namespace FrameFlow.Json

inductive Unknown where
  | ignored
  | refused
deriving DecidableEq

/-- The value each named field of a structure is given, if any. A named field may be given
at most once, and an array may not be longer than the structure. -/
def fields? (names : List String) (unknown : Unknown) : Json → Option (List (Option Json))
  | .array items =>
      if items.length ≤ names.length then
        some (items.map some ++ List.replicate (names.length - items.length) none)
      else none
  | .object members =>
      if names.any fun name => decide (1 < (valuesAt members name).length) then none
      else if unknown = .refused ∧ (members.any fun member => !names.contains member.1) then none
      else some (names.map fun name => (valuesAt members name).head?)
  | _ => none

def optional (missing : α) (decode : Json → Option α) : Option Json → Option α
  | none => some missing
  | some value => decode value

def required (decode : Json → Option α) : Option Json → Option α
  | none => none
  | some value => decode value

def nullable (decode : Json → Option α) : Json → Option (Option α)
  | .null => some none
  | value => (decode value).map some

def list? (decode : Json → Option α) : Json → Option (List α)
  | .array items => items.mapM decode
  | _ => none

def integerBetween? (least limit : Int) : Json → Option Int
  | .integer value => if least ≤ value ∧ value < limit then some value else none
  | _ => none

def int32? (value : Json) : Option Int32 :=
  (integerBetween? (-2 ^ 31) (2 ^ 31) value).map Int32.ofInt

def int64? (value : Json) : Option Int64 :=
  (integerBetween? (-2 ^ 63) (2 ^ 63) value).map Int64.ofInt

def nat64? (value : Json) : Option Nat :=
  (integerBetween? 0 (2 ^ 64) value).map Int.toNat

/-- Any number. An integer of 64 bits is rounded to single precision at once, any other
number by way of double precision; a number beyond double precision is refused. -/
def single? : Json → Option Single
  | .integer value =>
      if -2 ^ 63 ≤ value ∧ value < 2 ^ 64 then some (Decimal.Numeral.ofInt value).toSingle
      else (Decimal.Numeral.ofInt value).toSingleByDouble?
  | .decimal value => value.toSingleByDouble?
  | _ => none

def choice? (choices : List α) (name : α → String) : Json → Option α
  | .string written => choices.find? fun choice => name choice == written
  | .object [(written, .null)] => choices.find? fun choice => name choice == written
  | _ => none

end FrameFlow.Json
