import FrameFlow.Region

/-!
Records: what callers keep of a frame's outputs. A detection's categories are parallel
lists, the entries at one index describing one category.
-/

namespace FrameFlow.Record

structure Landmark where
  x : Single := .zero
  y : Single := .zero
  z : Single := .zero
  visibility : Single := .zero
  presence : Single := .zero
deriving DecidableEq

instance : Inhabited Landmark := ⟨{}⟩

def Landmark.toPixel (landmark : Landmark) (width height : Nat) : Single × Single :=
  (landmark.x.multiply (.ofNat width), landmark.y.multiply (.ofNat height))

/-- Where a detection lies. Every part is there, but only the one that the format names
holds data. -/
structure LocationData where
  format : LocationFormat := .global
  boundingBox : BoundingBox := {}
  relativeBoundingBox : RelativeBoundingBox := {}
  mask : BinaryMask := {}
  relativeKeypoints : List RelativeKeypoint := []
deriving DecidableEq

instance : Inhabited LocationData := ⟨{}⟩

inductive Region where
  | global
  | boundingBox (box : BoundingBox)
  | relativeBoundingBox (box : RelativeBoundingBox)
  | mask (mask : BinaryMask)
deriving DecidableEq

def LocationData.region (location : LocationData) : Region :=
  match location.format with
  | .global => .global
  | .boundingBox => .boundingBox location.boundingBox
  | .relativeBoundingBox => .relativeBoundingBox location.relativeBoundingBox
  | .mask => .mask location.mask

structure Detection where
  labels : List String := []
  labelIds : List Int32 := []
  scores : List Single := []
  location : LocationData := {}
  featureTag : String := ""
  trackId : String := ""
  detectionId : Int64 := 0
  associated : List AssociatedDetection := []
  displayNames : List String := []
  timestampMicros : Int64 := 0
deriving DecidableEq

instance : Inhabited Detection := ⟨{}⟩

end FrameFlow.Record
