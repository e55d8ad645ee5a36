import FrameFlow.Json.Token

/-!
Reading a JSON text word by word. What has been read is a stack of containers that are
still open, so texts may nest to any depth.
-/

namespace FrameFlow.Json

inductive Opened where
  | array (items : List Json)
  | object (members : List (Option String × Json))
  | member (members : List (Option String × Json)) (key : Option String)

inductive Expected where
  | value
  | itemOrClose
  | keyOrClose
  | key
  | colon
  | commaOrClose
deriving DecidableEq

/-- What has been read of a text: either containers are open, innermost first, or one
value is complete and nothing may follow. -/
inductive Reading where
  | inside (opened : List Opened) (expected : Expected)
  | complete (value : Json)

namespace Reading

def start : Reading := .inside [] .value

def closeObject (members : List (Option String × Json)) : Json :=
  match members.reverse.mapM fun (key, value) => key.map fun name => (name, value) with
  | some named => .object named
  | none => .unreadable

def accept (value : Json) : List Opened → Option Reading
  | [] => some (.complete value)
  | .array items :: outer => some (.inside (.array (value :: items) :: outer) .commaOrClose)
  | .member members key :: outer =>
      some (.inside (.object ((key, value) :: members) :: outer) .commaOrClose)
  | .object _ :: _ => none

def readValue (opened : List Opened) : Token → Option Reading
  | .openArray => some (.inside (.array [] :: opened) .itemOrClose)
  | .openObject => some (.inside (.object [] :: opened) .keyOrClose)
  | .string none => accept .unreadable opened
  | .string (some text) => accept (.string text) opened
  | .scalar value => accept value opened
  | .closeArray | .closeObject | .colon | .comma => none

def readKey (opened : List Opened) : Token → Option Reading
  | .string key =>
      match opened with
      | .object members :: outer => some (.inside (.member members key :: outer) .colon)
      | _ => none
  | _ => none

def close (opened : List Opened) : Token → Option Reading
  | .closeArray =>
      match opened with
      | .array items :: outer => accept (.array items.reverse) outer
      | _ => none
  | .closeObject =>
      match opened with
      | .object members :: outer => accept (closeObject members) outer
      | _ => none
  | _ => none

def afterComma (opened : List Opened) : Option Reading :=
  match opened with
  | .array _ :: _ => some (.inside opened .value)
  | .object _ :: _ => some (.inside opened .key)
  | _ => none

def step : Reading → Token → Option Reading
  | .complete _, _ => none
  | .inside opened expected, token =>
      match expected with
      | .value => readValue opened token
      | .itemOrClose =>
          match token with
          | .closeArray => close opened token
          | _ => readValue opened token
      | .keyOrClose =>
          match token with
          | .closeObject => close opened token
          | _ => readKey opened token
      | .key => readKey opened token
      | .colon =>
          match token with
          | .colon => some (.inside opened .value)
          | _ => none
      | .commaOrClose =>
          match token with
          | .comma => afterComma opened
          | _ => close opened token

end Reading

def read? (text : String) : Option Json := do
  match ← (← Token.scan? text.toList).foldlM Reading.step Reading.start with
  | .complete value => some value
  | .inside .. => none

end FrameFlow.Json
