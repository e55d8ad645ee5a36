import FrameFlow.Message.Basic
import FrameFlow.Json.Decoding

/-!
Messages read from JSON. Every field may be left out and then has its default; members
that a message does not have are ignored.
-/

namespace FrameFlow

open Json

private def messageFields? (names : List String) : Json → Option (List (Option Json)) :=
  fields? names .ignored

def LocationFormat.ofJson? : Json → Option LocationFormat :=
  choice? LocationFormat.all LocationFormat.name

def BoundingBox.ofJson? (json : Json) : Option BoundingBox := do
  match ← messageFields? ["x_min", "y_min", "width", "height"] json with
  | [xMin, yMin, width, height] =>
      return {
        xMin := ← optional 0 int32? xMin
        yMin := ← optional 0 int32? yMin
        width := ← optional 0 int32? width
        height := ← optional 0 int32? height }
  | _ => none

def RelativeBoundingBox.ofJson? (json : Json) : Option RelativeBoundingBox := do
  match ← messageFields? ["x_min", "y_min", "width", "height"] json with
  | [xMin, yMin, width, height] =>
      return {
        xMin := ← optional .zero single? xMin
        yMin := ← optional .zero single? yMin
        width := ← optional .zero single? width
        height := ← optional .zero single? height }
  | _ => none

def MaskInterval.ofJson? (json : Json) : Option MaskInterval := do
  match ← messageFields? ["row", "left_x", "right_x"] json with
  | [row, leftX, rightX] =>
      return {
        row := ← optional 0 int32? row
        leftX := ← optional 0 int32? leftX
        rightX := ← optional 0 int32? rightX }
  | _ => none

def BinaryMask.ofJson? (json : Json) : Option BinaryMask := do
  match ← messageFields? ["width", "height", "intervals"] json with
  | [width, height, intervals] =>
      return {
        width := ← optional 0 int32? width
        height := ← optional 0 int32? height
        intervals := ← optional [] (list? MaskInterval.ofJson?) intervals }
  | _ => none

def RelativeKeypoint.ofJson? (json : Json) : Option RelativeKeypoint := do
  match ← messageFields? ["x", "y", "label", "score"] json with
  | [x, y, label, score] =>
      return {
        x := ← optional .zero single? x
        y := ← optional .zero single? y
        label := ← optional "" string? label
        score := ← optional .zero single? score }
  | _ => none

def AssociatedDetection.ofJson? (json : Json) : Option AssociatedDetection := do
  match ← messageFields? ["id", "confidence"] json with
  | [id, confidence] =>
      return {
        id := ← optional 0 int32? id
        confidence := ← optional .zero single? confidence }
  | _ => none

namespace Message

def Landmark.ofJson? (json : Json) : Option Landmark := do
  match ← messageFields? ["x", "y", "z", "visibility", "presence"] json with
  | [x, y, z, visibility, presence] =>
      return {
        x := ← optional .zero single? x
        y := ← optional .zero single? y
        z := ← optional .zero single? z
        visibility := ← optional .zero single? visibility
        presence := ← optional .zero single? presence }
  | _ => none

def LandmarkList.ofJson? (json : Json) : Option LandmarkList := do
  match ← messageFields? ["landmark"] json with
  | [landmarks] => return { landmarks := ← optional [] (list? Landmark.ofJson?) landmarks }
  | _ => none

def LocationData.ofJson? (json : Json) : Option LocationData := do
  match ← messageFields?
      ["format", "bounding_box", "relative_bounding_box", "mask", "relative_keypoints"] json with
  | [format, boundingBox, relativeBoundingBox, mask, relativeKeypoints] =>
      return {
        format := ← optional .global LocationFormat.ofJson? format
        boundingBox := ← optional none (nullable BoundingBox.ofJson?) boundingBox
        relativeBoundingBox :=
          ← optional none (nullable RelativeBoundingBox.ofJson?) relativeBoundingBox
        mask := ← optional none (nullable BinaryMask.ofJson?) mask
        relativeKeypoints := ← optional [] (list? RelativeKeypoint.ofJson?) relativeKeypoints }
  | _ => none

def Detection.ofJson? (json : Json) : Option Detection := do
  match ← messageFields?
      ["label", "label_id", "score", "location_data", "feature_tag", "track_id", "detection_id",
        "associated_detections", "display_name", "timestamp_usec"] json with
  | [labels, labelIds, scores, location, featureTag, trackId, detectionId, associated,
      displayNames, timestampMicros] =>
      return {
        labels := ← optional [] (list? string?) labels
        labelIds := ← optional [] (list? int32?) labelIds
        scores := ← optional [] (list? single?) scores
        location := ← optional none (nullable LocationData.ofJson?) location
        featureTag := ← optional "" string? featureTag
        trackId := ← optional "" string? trackId
        detectionId := ← optional 0 int64? detectionId
        associated := ← optional [] (list? AssociatedDetection.ofJson?) associated
        displayNames := ← optional [] (list? string?) displayNames
        timestampMicros := ← optional 0 int64? timestampMicros }
  | _ => none

def Classification.ofJson? (json : Json) : Option Classification := do
  match ← messageFields? ["index", "score", "label", "display_name"] json with
  | [index, score, label, displayName] =>
      return {
        index := ← optional 0 int32? index
        score := ← optional .zero single? score
        label := ← optional "" string? label
        displayName := ← optional "" string? displayName }
  | _ => none

def ClassificationList.ofJson? (json : Json) : Option ClassificationList := do
  match ← messageFields? ["classification"] json with
  | [classifications] =>
      return { classifications := ← optional [] (list? Classification.ofJson?) classifications }
  | _ => none

end Message

end FrameFlow
