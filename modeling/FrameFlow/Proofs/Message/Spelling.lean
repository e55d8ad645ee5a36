import FrameFlow.Message.Decoding
import FrameFlow.Proofs.Json.Spelling

/-!
The ways to write messages. Every message is a structure of optional fields, given here with
their names in order, their defaults and the spellings of their values; so whatever is nested in a
message may be rewritten where it stands.
-/

namespace FrameFlow

open Json

/-- Two readings in a row come to the same if each of them does. -/
theorem bind_congr_of_eq {α β : Type} {first other : Option α} {next more : α → Option β}
    (same : first = other) (rest : ∀ value, next value = more value) :
    (first >>= next) = (other >>= more) := by
  rw [same, funext rest]

namespace Json.Field

def optional {α : Type} (name : String) (missing : α) (spelling : Spelling α) : Field :=
  ⟨name, some missing, spelling⟩

def int32 (name : String) : Field := optional name 0 (.plain int32?)

def int64 (name : String) : Field := optional name 0 (.plain int64?)

def single (name : String) : Field := optional name .zero (.plain single?)

def text (name : String) : Field := optional name "" (.plain string?)

def list {α : Type} (name : String) (item : Spelling α) : Field := optional name [] item.list

def part? {α : Type} (name : String) (part : Spelling α) : Field := optional name none part.nullable

end Json.Field

def BoundingBox.fields : List Field :=
  [.int32 "x_min", .int32 "y_min", .int32 "width", .int32 "height"]

def BoundingBox.spelling : Spelling BoundingBox :=
  .struct fields .ignored ofJson? (by decide) fun alike => alike.bind_eq fun reads =>
    bind_congr_of_eq (reads 0 _ rfl) fun _ => bind_congr_of_eq (reads 1 _ rfl) fun _ =>
    bind_congr_of_eq (reads 2 _ rfl) fun _ => bind_congr_of_eq (reads 3 _ rfl) fun _ => rfl

def RelativeBoundingBox.fields : List Field :=
  [.single "x_min", .single "y_min", .single "width", .single "height"]

def RelativeBoundingBox.spelling : Spelling RelativeBoundingBox :=
  .struct fields .ignored ofJson? (by decide) fun alike => alike.bind_eq fun reads =>
    bind_congr_of_eq (reads 0 _ rfl) fun _ => bind_congr_of_eq (reads 1 _ rfl) fun _ =>
    bind_congr_of_eq (reads 2 _ rfl) fun _ => bind_congr_of_eq (reads 3 _ rfl) fun _ => rfl

def MaskInterval.fields : List Field := [.int32 "row", .int32 "left_x", .int32 "right_x"]

def MaskInterval.spelling : Spelling MaskInterval :=
  .struct fields .ignored ofJson? (by decide) fun alike => alike.bind_eq fun reads =>
    bind_congr_of_eq (reads 0 _ rfl) fun _ => bind_congr_of_eq (reads 1 _ rfl) fun _ =>
    bind_congr_of_eq (reads 2 _ rfl) fun _ => rfl

def BinaryMask.fields : List Field :=
  [.int32 "width", .int32 "height", .list "intervals" MaskInterval.spelling]

def BinaryMask.spelling : Spelling BinaryMask :=
  .struct fields .ignored ofJson? (by decide) fun alike => alike.bind_eq fun reads =>
    bind_congr_of_eq (reads 0 _ rfl) fun _ => bind_congr_of_eq (reads 1 _ rfl) fun _ =>
    bind_congr_of_eq (reads 2 _ rfl) fun _ => rfl

def RelativeKeypoint.fields : List Field :=
  [.single "x", .single "y", .text "label", .single "score"]

def RelativeKeypoint.spelling : Spelling RelativeKeypoint :=
  .struct fields .ignored ofJson? (by decide) fun alike => alike.bind_eq fun reads =>
    bind_congr_of_eq (reads 0 _ rfl) fun _ => bind_congr_of_eq (reads 1 _ rfl) fun _ =>
    bind_congr_of_eq (reads 2 _ rfl) fun _ => bind_congr_of_eq (reads 3 _ rfl) fun _ => rfl

def AssociatedDetection.fields : List Field := [.int32 "id", .single "confidence"]

def AssociatedDetection.spelling : Spelling AssociatedDetection :=
  .struct fields .ignored ofJson? (by decide) fun alike => alike.bind_eq fun reads =>
    bind_congr_of_eq (reads 0 _ rfl) fun _ => bind_congr_of_eq (reads 1 _ rfl) fun _ => rfl

namespace Message

def Landmark.fields : List Field :=
  [.single "x", .single "y", .single "z", .single "visibility", .single "presence"]

def Landmark.spelling : Spelling Landmark :=
  .struct fields .ignored ofJson? (by decide) fun alike => alike.bind_eq fun reads =>
    bind_congr_of_eq (reads 0 _ rfl) fun _ => bind_congr_of_eq (reads 1 _ rfl) fun _ =>
    bind_congr_of_eq (reads 2 _ rfl) fun _ => bind_congr_of_eq (reads 3 _ rfl) fun _ =>
    bind_congr_of_eq (reads 4 _ rfl) fun _ => rfl

def LandmarkList.fields : List Field := [.list "landmark" Landmark.spelling]

def LandmarkList.spelling : Spelling LandmarkList :=
  .struct fields .ignored ofJson? (by decide) fun alike => alike.bind_eq fun reads =>
    bind_congr_of_eq (reads 0 _ rfl) fun _ => rfl

def LocationData.fields : List Field :=
  [.optional "format" .global (.choice LocationFormat.all LocationFormat.name),
    .part? "bounding_box" BoundingBox.spelling,
    .part? "relative_bounding_box" RelativeBoundingBox.spelling,
    .part? "mask" BinaryMask.spelling,
    .list "relative_keypoints" RelativeKeypoint.spelling]

def LocationData.spelling : Spelling LocationData :=
  .struct fields .ignored ofJson? (by decide) fun alike => alike.bind_eq fun reads =>
    bind_congr_of_eq (reads 0 _ rfl) fun _ => bind_congr_of_eq (reads 1 _ rfl) fun _ =>
    bind_congr_of_eq (reads 2 _ rfl) fun _ => bind_congr_of_eq (reads 3 _ rfl) fun _ =>
    bind_congr_of_eq (reads 4 _ rfl) fun _ => rfl

def Detection.fields : List Field :=
  [.list "label" (.plain string?), .list "label_id" (.plain int32?),
    .list "score" (.plain single?), .part? "location_data" LocationData.spelling,
    .text "feature_tag", .text "track_id", .int64 "detection_id",
    .list "associated_detections" AssociatedDetection.spelling,
    .list "display_name" (.plain string?), .int64 "timestamp_usec"]

def Detection.spelling : Spelling Detection :=
  .struct fields .ignored ofJson? (by decide) fun alike => alike.bind_eq fun reads =>
    bind_congr_of_eq (reads 0 _ rfl) fun _ => bind_congr_of_eq (reads 1 _ rfl) fun _ =>
    bind_congr_of_eq (reads 2 _ rfl) fun _ => bind_congr_of_eq (reads 3 _ rfl) fun _ =>
    bind_congr_of_eq (reads 4 _ rfl) fun _ => bind_congr_of_eq (reads 5 _ rfl) fun _ =>
    bind_congr_of_eq (reads 6 _ rfl) fun _ => bind_congr_of_eq (reads 7 _ rfl) fun _ =>
    bind_congr_of_eq (reads 8 _ rfl) fun _ => bind_congr_of_eq (reads 9 _ rfl) fun _ => rfl

def Classification.fields : List Field :=
  [.int32 "index", .single "score", .text "label", .text "display_name"]

def Classification.spelling : Spelling Classification :=
  .struct fields .ignored ofJson? (by decide) fun alike => alike.bind_eq fun reads =>
    bind_congr_of_eq (reads 0 _ rfl) fun _ => bind_congr_of_eq (reads 1 _ rfl) fun _ =>
    bind_congr_of_eq (reads 2 _ rfl) fun _ => bind_congr_of_eq (reads 3 _ rfl) fun _ => rfl

def ClassificationList.fields : List Field := [.list "classification" Classification.spelling]

def ClassificationList.spelling : Spelling ClassificationList :=
  .struct fields .ignored ofJson? (by decide) fun alike => alike.bind_eq fun reads =>
    bind_congr_of_eq (reads 0 _ rfl) fun _ => rfl

/-- The format of a detection's location may be an object. -/
example : Detection.spelling.Respells
    (.object [("location_data", .object [("format", .string "mask")])])
    (.object [("location_data", .object [("format", .object [("mask", .null)])])]) :=
  @RespellsFields.member _ _ [] [] _ _ (.part? "location_data" LocationData.spelling)
    (by simp [Detection.fields])
    ⟨nofun, nofun, @RespellsFields.member _ _ [] [] _ _
      (.optional "format" .global (.choice LocationFormat.all LocationFormat.name))
      (by simp [LocationData.fields]) .tagged⟩

end Message

end FrameFlow
