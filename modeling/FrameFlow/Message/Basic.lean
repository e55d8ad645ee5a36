import FrameFlow.Region

/-!
Messages as a graph emits them: repeated fields may disagree in length and parts may be
missing. A caller keeps records made from them (`FrameFlow.Record.Marshal`).
-/

namespace FrameFlow.Message

structure Landmark where
  x : Single := .zero
  y : Single := .zero
  z : Single := .zero
  visibility : Single := .zero
  presence : Single := .zero
deriving DecidableEq

instance : Inhabited Landmark := ⟨{}⟩

structure LandmarkList where
  landmarks : List Landmark := []
deriving DecidableEq

instance : Inhabited LandmarkList := ⟨{}⟩

namespace LandmarkList

def length (list : LandmarkList) : Nat := list.landmarks.length

def isEmpty (list : LandmarkList) : Bool := list.landmarks.isEmpty

end LandmarkList

structure LocationData where
  format : LocationFormat := .global
  boundingBox : Option BoundingBox := none
  relativeBoundingBox : Option RelativeBoundingBox := none
  mask : Option BinaryMask := none
  relativeKeypoints : List RelativeKeypoint := []
deriving DecidableEq

instance : Inhabited LocationData := ⟨{}⟩

structure Detection where
  labels : List String := []
  labelIds : List Int32 := []
  scores : List Single := []
  location : Option LocationData := none
  featureTag : String := ""
  trackId : String := ""
  detectionId : Int64 := 0
  associated : List AssociatedDetection := []
  displayNames : List String := []
  timestampMicros : Int64 := 0
deriving DecidableEq

instance : Inhabited Detection := ⟨{}⟩

/-- The number of categories that any of the fields describes. -/
def Detection.categoryCount (detection : Detection) : Nat :=
  max detection.labels.length <| max detection.labelIds.length <|
    max detection.scores.length <| max detection.displayNames.length
      detection.associated.length

structure Classification where
  index : Int32 := 0
  score : Single := .zero
  label : String := ""
  displayName : String := ""
deriving DecidableEq

instance : Inhabited Classification := ⟨{}⟩

structure ClassificationList where
  classifications : List Classification := []
deriving DecidableEq

instance : Inhabited ClassificationList := ⟨{}⟩

end FrameFlow.Message
