import FrameFlow.Record.Marshal
import FrameFlow.Json.Basic

/-!
Records and messages as JSON values, members in the order of their names. How a
single-precision number is written is left to the caller.
-/

namespace FrameFlow

def LocationFormat.toJson (format : LocationFormat) : Json := .string format.name

def BoundingBox.toJson (box : BoundingBox) : Json :=
  .object [
    ("height", .integer box.height.toInt),
    ("width", .integer box.width.toInt),
    ("x_min", .integer box.xMin.toInt),
    ("y_min", .integer box.yMin.toInt)]

def MaskInterval.toJson (interval : MaskInterval) : Json :=
  .object [
    ("left_x", .integer interval.leftX.toInt),
    ("right_x", .integer interval.rightX.toInt),
    ("row", .integer interval.row.toInt)]

def BinaryMask.toJson (mask : BinaryMask) : Json :=
  .object [
    ("height", .integer mask.height.toInt),
    ("intervals", .array (mask.intervals.map MaskInterval.toJson)),
    ("width", .integer mask.width.toInt)]

section

variable (single : Single → Json)

def RelativeBoundingBox.toJson (box : RelativeBoundingBox) : Json :=
  .object [
    ("height", single box.height),
    ("width", single box.width),
    ("x_min", single box.xMin),
    ("y_min", single box.yMin)]

def RelativeKeypoint.toJson (keypoint : RelativeKeypoint) : Json :=
  .object [
    ("label", .string keypoint.label),
    ("score", single keypoint.score),
    ("x", single keypoint.x),
    ("y", single keypoint.y)]

def AssociatedDetection.toJson (associated : AssociatedDetection) : Json :=
  .object [
    ("confidence", single associated.confidence),
    ("id", .integer associated.id.toInt)]

namespace Record

def Landmark.toJson (landmark : Landmark) : Json :=
  .object [
    ("presence", single landmark.presence),
    ("visibility", single landmark.visibility),
    ("x", single landmark.x),
    ("y", single landmark.y),
    ("z", single landmark.z)]

def landmarksToJson (landmarks : List Landmark) : Json :=
  .array (landmarks.map (Landmark.toJson single))

def LocationData.toJson (location : LocationData) : Json :=
  .object [
    ("bounding_box", location.boundingBox.toJson),
    ("format", location.format.toJson),
    ("mask", location.mask.toJson),
    ("relative_bounding_box", location.relativeBoundingBox.toJson single),
    ("relative_keypoints",
      .array (location.relativeKeypoints.map (RelativeKeypoint.toJson single)))]

def Region.toJson : Region → Json
  | .global => .string "global"
  | .boundingBox box => .object [("bounding_box", box.toJson)]
  | .relativeBoundingBox box => .object [("relative_bounding_box", box.toJson single)]
  | .mask runs => .object [("mask", runs.toJson)]

def Detection.toJson (detection : Detection) : Json :=
  .object [
    ("associated", .array (detection.associated.map (AssociatedDetection.toJson single))),
    ("detection_id", .integer detection.detectionId.toInt),
    ("display_names", .array (detection.displayNames.map .string)),
    ("feature_tag", .string detection.featureTag),
    ("label_ids", .array (detection.labelIds.map fun id => .integer id.toInt)),
    ("labels", .array (detection.labels.map .string)),
    ("location", detection.location.toJson single),
    ("scores", .array (detection.scores.map single)),
    ("timestamp_usec", .integer detection.timestampMicros.toInt),
    ("track_id", .string detection.trackId)]

end Record

namespace Message

def Landmark.toJson (landmark : Landmark) : Json := landmark.toRecord.toJson single

def LandmarkList.toJson (list : LandmarkList) : Json :=
  .object [("landmark", .array (list.landmarks.map (Landmark.toJson single)))]

def LocationData.toJson (location : LocationData) : Json :=
  .object [
    ("bounding_box", (location.boundingBox.map BoundingBox.toJson).getD .null),
    ("format", location.format.toJson),
    ("mask", (location.mask.map BinaryMask.toJson).getD .null),
    ("relative_bounding_box",
      (location.relativeBoundingBox.map (RelativeBoundingBox.toJson single)).getD .null),
    ("relative_keypoints",
      .array (location.relativeKeypoints.map (RelativeKeypoint.toJson single)))]

def Detection.toJson (detection : Detection) : Json :=
  .object [
    ("associated_detections",
      .array (detection.associated.map (AssociatedDetection.toJson single))),
    ("detection_id", .integer detection.detectionId.toInt),
    ("display_name", .array (detection.displayNames.map .string)),
    ("feature_tag", .string detection.featureTag),
    ("label", .array (detection.labels.map .string)),
    ("label_id", .array (detection.labelIds.map fun id => .integer id.toInt)),
    ("location_data", (detection.location.map (LocationData.toJson single)).getD .null),
    ("score", .array (detection.scores.map single)),
    ("timestamp_usec", .integer detection.timestampMicros.toInt),
    ("track_id", .string detection.trackId)]

def Classification.toJson (classification : Classification) : Json :=
  .object [
    ("display_name", .string classification.displayName),
    ("index", .integer classification.index.toInt),
    ("label", .string classification.label),
    ("score", single classification.score)]

def ClassificationList.toJson (list : ClassificationList) : Json :=
  .object [
    ("classification", .array (list.classifications.map (Classification.toJson single)))]

end Message

end

end FrameFlow
