import FrameFlow.Json.Basic

/-!
Members of JSON objects for callers that take what they find: a member that is missing or
of another type counts as a default.
-/

namespace FrameFlow.Json

mutual

/-- The value with only the last of several members of one name, at any depth. -/
def lastMembers : Json → Json
  | .array items => .array (lastMembersOfAll items)
  | .object members => .object (lastOfEach members)
  | value => value

def lastMembersOfAll : List Json → List Json
  | [] => []
  | item :: rest => lastMembers item :: lastMembersOfAll rest

def lastOfEach : List (String × Json) → List (String × Json)
  | [] => []
  | (name, value) :: rest =>
      if rest.any (·.1 == name) then lastOfEach rest
      else (name, lastMembers value) :: lastOfEach rest

end

variable (name : String) (json : Json)

def field : Json := (json.member? name).getD .null

def textAt? : Option String := (json.field name).string?

def textAt : String := (json.textAt? name).getD ""

def itemsAt : List Json := ((json.field name).array?).getD []

def integerAt : Int := ((json.field name).integer?).getD 0

def flagAt : Bool := ((json.field name).bool?).getD false

def naturalBelow? (limit : Nat) : Json → Option Nat
  | .integer value => if 0 ≤ value ∧ value < limit then some value.toNat else none
  | _ => none

def naturalBelow (limit : Nat) (json : Json) : Nat := (naturalBelow? limit json).getD 0

def nat32At : Nat := naturalBelow (2 ^ 32) (json.field name)

def nat64At? : Option Nat := naturalBelow? (2 ^ 64) (json.field name)

def nat64At : Nat := (json.nat64At? name).getD 0

def extended (more : List (String × Json)) : Json → Json
  | .object members => .object (members ++ more)
  | other => other

end FrameFlow.Json
