import FrameFlow.Graph.Basic
import FrameFlow.Task.Encoding

/-! Graphs as JSON values, for looking at: kinds are worded as in messages. -/

namespace FrameFlow

variable (single : Single → Json)

def ScriptedPacket.toJson (packet : ScriptedPacket) : Json :=
  let value :=
    match packet.value with
    | .payload content => content.toJson single
    | .error message => .object [("error", .string message)]
  .array [.string packet.stream, value]

def Graph.toJson (graph : Graph) : Json :=
  .object [
    ("input_stream", .string graph.inputStream),
    ("preview_stream", .ofOption .string graph.previewStream),
    ("output_streams", .object (graph.outputStreams.entries.map fun entry =>
      (entry.1, .string entry.2.text))),
    ("frames", .array (graph.frames.map fun packets =>
      .array (packets.map (ScriptedPacket.toJson single)))),
    ("latency_ms", .integer graph.latencyMillis)]

end FrameFlow
