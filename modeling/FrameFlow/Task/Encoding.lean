import FrameFlow.Task
import FrameFlow.Message.Encoding
import FrameFlow.Text.Hex

/-!
Payloads, outputs and layouts as JSON values. How a single-precision number is written is
left to the caller; bytes are written in hexadecimal.
-/

namespace FrameFlow

def Frame.toJson (frame : Frame) : Json :=
  .object [("width", .integer frame.width), ("height", .integer frame.height),
    ("data", .string (Text.hexText frame.data.toList))]

def Layout.toJson (layout : Layout) : Json :=
  .array (layout.map fun port =>
    .array [.string port.output, .ofOption .string port.presence])

variable (single : Single → Json)

def Payload.toJson (payload : Payload) : Json :=
  let value :=
    match payload with
    | .image frame => frame.toJson
    | .presence isPresent => .bool isPresent
    | .detections messages => .array (messages.map (Message.Detection.toJson single))
    | .landmarkList message => message.toJson single
    | .landmarkLists messages => .array (messages.map (Message.LandmarkList.toJson single))
    | .classifications message => message.toJson single
  .object [(payload.kind.name, value)]

def Output.toJson : Output → Json
  | .detections records => .array (records.map (Record.Detection.toJson single))
  | .landmarks records => Record.landmarksToJson single records
  | .landmarkSet records => .array (records.map (Record.landmarksToJson single))
  | .scores values => .array (values.map single)

def Element.toJson : Element → Json
  | .landmark record => record.toJson single
  | .score value => single value

end FrameFlow
