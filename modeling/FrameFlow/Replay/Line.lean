import FrameFlow.Json.Printer
import FrameFlow.Session.Poller
import FrameFlow.Task.Encoding

/-! The lines that a replay writes: one JSON object for every output. -/

namespace FrameFlow

inductive LineValue where
  | output (output : Output)
  | dimensions (width height : Nat)
deriving DecidableEq

def LineValue.toJson : LineValue → Json
  | .output shown => shown.toJson Json.ofSingle
  | .dimensions width height => .object [("height", .integer height), ("width", .integer width)]

/-- An output of a stream. A frame without one has a line without a value. -/
structure Line where
  stream : String
  timestamp : Timestamp
  value : Option LineValue
deriving DecidableEq

namespace Line

def ofObservation (stream : String) (observation : Observation) : Line :=
  ⟨stream, observation.timestamp, observation.value.map .output⟩

def ofPreview (stream : String) (frame : StampedFrame) : Line :=
  ⟨stream, frame.timestamp, some (.dimensions frame.frame.width frame.frame.height)⟩

def members (line : Line) : List (String × Json) :=
  [("stream", .string line.stream), ("timestamp", .integer line.timestamp.micros),
    ("present", .bool line.value.isSome)] ++
    match line.value with
    | some value => [("value", value.toJson)]
    | none => []

def text (line : Line) : String := (Json.object line.members).render

end Line

end FrameFlow
