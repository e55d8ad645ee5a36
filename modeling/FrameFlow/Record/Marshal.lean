import FrameFlow.Message.Basic
import FrameFlow.Record.Basic

/-!
Records made from messages. Numbers pass through untouched; a detection's lists are padded
with defaults to one length, so an index means the same category in all of them.
-/

namespace FrameFlow

namespace Message

def Landmark.toRecord (message : Landmark) : Record.Landmark where
  x := message.x
  y := message.y
  z := message.z
  visibility := message.visibility
  presence := message.presence

def LandmarkList.toRecord (message : LandmarkList) : List Record.Landmark :=
  message.landmarks.map Landmark.toRecord

def landmarkSet (messages : List LandmarkList) : List (List Record.Landmark) :=
  messages.map LandmarkList.toRecord

def ClassificationList.scores (message : ClassificationList) : List Single :=
  message.classifications.map Classification.score

def LocationData.toRecord (message : LocationData) : Record.LocationData where
  format := message.format
  boundingBox := message.boundingBox.getD {}
  relativeBoundingBox := message.relativeBoundingBox.getD {}
  mask := message.mask.getD {}
  relativeKeypoints := message.relativeKeypoints

def padded (count : Nat) (filling : α) (entries : List α) : List α :=
  (List.range count).map fun index => entries[index]?.getD filling

def Detection.toRecord (message : Detection) : Record.Detection :=
  let count := message.categoryCount
  { labels := padded count "" message.labels
    labelIds := padded count 0 message.labelIds
    scores := padded count .zero message.scores
    location := (message.location.map LocationData.toRecord).getD {}
    featureTag := message.featureTag
    trackId := message.trackId
    detectionId := message.detectionId
    associated := padded count {} message.associated
    displayNames := padded count "" message.displayNames
    timestampMicros := message.timestampMicros }

def detections (messages : List Detection) : List Record.Detection :=
  messages.map Detection.toRecord

end Message

structure CountMismatch where
  expected : Nat
  actual : Nat
deriving DecidableEq

def CountMismatch.message (mismatch : CountMismatch) : String :=
  s!"output buffer holds {mismatch.expected} element(s) but the payload carries " ++
    s!"{mismatch.actual}"

def copyInto (source buffer : List α) : Except CountMismatch (List α) :=
  if source.length = buffer.length then .ok source
  else .error ⟨buffer.length, source.length⟩

end FrameFlow
