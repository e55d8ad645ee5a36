import FrameFlow.Graph.Validity
import FrameFlow.Message.Decoding
import FrameFlow.Json.Reader

/-! Graphs read from texts. Unlike messages, descriptions may have no unknown members. -/

namespace FrameFlow

open Json

def PayloadKind.ofJson? : Json → Option PayloadKind :=
  choice? PayloadKind.all PayloadKind.name

def Payload.ofJson? (kind : String) (value : Json) : Option Payload :=
  match kind with
  | "presence" => (bool? value).map .presence
  | "detections" => (list? Message.Detection.ofJson? value).map .detections
  | "landmark_list" => (Message.LandmarkList.ofJson? value).map .landmarkList
  | "landmark_lists" => (list? Message.LandmarkList.ofJson? value).map .landmarkLists
  | "classifications" => (Message.ClassificationList.ofJson? value).map .classifications
  | _ => none

def ScriptedValue.ofJson? : Json → Option ScriptedValue
  | .object [("error", value)] => (string? value).map .error
  | .object [(kind, value)] => (Payload.ofJson? kind value).map .payload
  | _ => none

def ScriptedPacket.ofJson? (json : Json) : Option ScriptedPacket := do
  match ← fields? ["stream", "value"] .refused json with
  | [stream, value] =>
      return {
        stream := ← required string? stream
        value := ← required ScriptedValue.ofJson? value }
  | _ => none

def scriptedFrame? (json : Json) : Option (List ScriptedPacket) := do
  match ← fields? ["emit"] .refused json with
  | [emit] => optional [] (list? ScriptedPacket.ofJson?) emit
  | _ => none

/-- Declared streams; of several declarations of one stream the last one holds. -/
def declarations? : Json → Option (StreamMap PayloadKind)
  | .object members =>
      (members.mapM fun member : String × Json =>
        (PayloadKind.ofJson? member.2).map fun kind => (member.1, kind)).map StreamMap.ofList
  | _ => none

def Graph.ofJson? (json : Json) : Option Graph := do
  match ← fields?
      ["input_stream", "preview_stream", "output_streams", "frames", "latency_ms"] .refused json with
  | [inputStream, previewStream, outputStreams, frames, latencyMillis] =>
      return {
        inputStream := ← optional "input_video" string? inputStream
        previewStream := ← optional none (nullable string?) previewStream
        outputStreams := ← optional .empty declarations? outputStreams
        frames := ← optional [] (list? scriptedFrame?) frames
        latencyMillis := ← optional 0 nat64? latencyMillis }
  | _ => none

def Graph.check (graph? : Option Graph) : Except GraphViolation Graph :=
  match graph? with
  | none => .error .unreadable
  | some graph =>
      match graph.violation? with
      | some violation => .error violation
      | none => .ok graph

def Graph.parse (text : String) : Except GraphViolation Graph :=
  Graph.check ((Json.read? text).bind Graph.ofJson?)

end FrameFlow
