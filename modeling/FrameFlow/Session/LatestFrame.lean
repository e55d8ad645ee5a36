import FrameFlow.Payload

/-! A place for the newest preview frame, which viewers look at or take away. -/

namespace FrameFlow

/-- The frame stored last, unless it was taken since. -/
structure LatestFrame where
  held : Option StampedFrame := none
deriving DecidableEq

namespace LatestFrame

instance : Inhabited LatestFrame := ⟨{}⟩

def store (_ : LatestFrame) (frame : StampedFrame) : LatestFrame := ⟨some frame⟩

def snapshot (latest : LatestFrame) : Option StampedFrame := latest.held

def take (latest : LatestFrame) : Option StampedFrame × LatestFrame := (latest.held, ⟨none⟩)

end LatestFrame

end FrameFlow
