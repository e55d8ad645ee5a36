import FrameFlow.Binary.Single

/-! The parts that place a detection in its frame, shared by messages and records. -/

namespace FrameFlow

inductive LocationFormat where
  | global
  | boundingBox
  | relativeBoundingBox
  | mask
deriving DecidableEq

namespace LocationFormat

instance : Inhabited LocationFormat := ⟨.global⟩

def all : List LocationFormat := [.global, .boundingBox, .relativeBoundingBox, .mask]

def name : LocationFormat → String
  | .global => "global"
  | .boundingBox => "bounding_box"
  | .relativeBoundingBox => "relative_bounding_box"
  | .mask => "mask"

end LocationFormat

structure BoundingBox where
  xMin : Int32 := 0
  yMin : Int32 := 0
  width : Int32 := 0
  height : Int32 := 0
deriving DecidableEq

instance : Inhabited BoundingBox := ⟨{}⟩

structure RelativeBoundingBox where
  xMin : Single := .zero
  yMin : Single := .zero
  width : Single := .zero
  height : Single := .zero
deriving DecidableEq

instance : Inhabited RelativeBoundingBox := ⟨{}⟩

/-- A run of set pixels on one row, both ends included. -/
structure MaskInterval where
  row : Int32 := 0
  leftX : Int32 := 0
  rightX : Int32 := 0
deriving DecidableEq

instance : Inhabited MaskInterval := ⟨{}⟩

structure BinaryMask where
  width : Int32 := 0
  height : Int32 := 0
  intervals : List MaskInterval := []
deriving DecidableEq

instance : Inhabited BinaryMask := ⟨{}⟩

structure RelativeKeypoint where
  x : Single := .zero
  y : Single := .zero
  label : String := ""
  score : Single := .zero
deriving DecidableEq

instance : Inhabited RelativeKeypoint := ⟨{}⟩

structure AssociatedDetection where
  id : Int32 := 0
  confidence : Single := .zero
deriving DecidableEq

instance : Inhabited AssociatedDetection := ⟨{}⟩

end FrameFlow
