import FrameFlow.Replay.Plan
import FrameFlow.Task.Encoding

/-! Plans of replays as JSON values. -/

namespace FrameFlow

variable (single : Single → Json)

def FrameInput.toJson : FrameInput → Json
  | .synthetic count fps =>
      .object [("synthetic", .object [("count", .integer count), ("fps", single fps)])]
  | .rawFile path limit =>
      .object [("raw_file", .object [("path", .string path),
        ("limit", .ofOption (fun limit : Nat => .integer limit) limit)])]

def ReplayPlan.toJson (plan : ReplayPlan) : Json :=
  .object [
    ("graph", .string plan.graph),
    ("task", .string plan.preset.name),
    ("mode", .string plan.mode.name),
    ("input", plan.input.toJson single),
    ("size", .array [.integer plan.width, .integer plan.height]),
    ("timestamp_step_us", .ofOption .integer plan.timestampStep),
    ("streams", .array (plan.streams.map .string)),
    ("preview", .bool plan.preview),
    ("poller_capacity",
      .ofOption (fun capacity : Nat => .integer capacity) plan.pollerCapacity),
    ("chrome_trace", .ofOption .string plan.chromeTrace),
    ("metrics", .bool plan.metrics)]

end FrameFlow
