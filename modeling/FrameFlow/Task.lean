import FrameFlow.Payload
import FrameFlow.Record.Marshal

/-!
Tasks: which payloads a session's outputs are made from, and on which streams they come.
-/

namespace FrameFlow

inductive Task where
  | detection
  | singleLandmarks
  | multiLandmarks
  | holistic
  | scores
deriving DecidableEq

namespace Task

def text : Task → String
  | .detection => "detection"
  | .singleLandmarks => "single-landmarks"
  | .multiLandmarks => "multi-landmarks"
  | .holistic => "holistic"
  | .scores => "scores"

def name : Task → String
  | .detection => "detection"
  | .singleLandmarks => "single_landmarks"
  | .multiLandmarks => "multi_landmarks"
  | .holistic => "holistic"
  | .scores => "scores"

def title : Task → String
  | .detection => "Detection"
  | .singleLandmarks => "SingleLandmarks"
  | .multiLandmarks => "MultiLandmarks"
  | .holistic => "Holistic"
  | .scores => "Scores"

def payload : Task → PayloadKind
  | .detection => .detections
  | .singleLandmarks => .landmarkList
  | .multiLandmarks => .landmarkLists
  | .holistic => .landmarkList
  | .scores => .classifications

end Task

inductive Slot where
  | primary
  | pose
  | face
  | leftHand
  | rightHand
deriving DecidableEq

namespace Slot

def parts : List Slot := [.pose, .face, .leftHand, .rightHand]

def name : Slot → String
  | .primary => "output"
  | .pose => "pose"
  | .face => "face"
  | .leftHand => "left_hand"
  | .rightHand => "right_hand"

end Slot

/-- The streams behind one output: the payloads, and perhaps a presence stream that says
for every frame whether there is a payload. Only pollers consult it. -/
structure Port where
  slot : Slot := .primary
  output : String
  presence : Option String := none
deriving DecidableEq

abbrev Layout := List Port

namespace Layout

def faceDetection : Layout := [{ output := "face_detections" }]

def faceMesh : Layout :=
  [{ output := "multi_face_landmarks", presence := some "multi_landmarks_presence" }]

def handTracking : Layout := [{ output := "landmarks" }]

def poseTracking : Layout := [{ output := "pose_landmarks" }]

def faceBlendshapes : Layout :=
  [{ output := "blendshapes", presence := some "landmarks_presence" }]

def holistic : Layout :=
  [{ slot := .pose, output := "pose_landmarks" },
    { slot := .face, output := "face_landmarks" },
    { slot := .leftHand, output := "left_hand_landmarks" },
    { slot := .rightHand, output := "right_hand_landmarks" }]

def port? (layout : Layout) (slot : Slot) : Option Port := layout.find? (·.slot == slot)

end Layout

def Task.defaultLayout : Task → Layout
  | .detection => .faceDetection
  | .singleLandmarks => .poseTracking
  | .multiLandmarks => .faceMesh
  | .holistic => .holistic
  | .scores => .faceBlendshapes

inductive Output where
  | detections (records : List Record.Detection)
  | landmarks (records : List Record.Landmark)
  | landmarkSet (records : List (List Record.Landmark))
  | scores (scores : List Single)
deriving DecidableEq

def Task.marshal? : Task → Payload → Option Output
  | .detection, .detections messages => some (.detections (Message.detections messages))
  | .singleLandmarks, .landmarkList message => some (.landmarks message.toRecord)
  | .multiLandmarks, .landmarkLists messages => some (.landmarkSet (Message.landmarkSet messages))
  | .holistic, .landmarkList message => some (.landmarks message.toRecord)
  | .scores, .classifications message => some (.scores message.scores)
  | _, _ => none

theorem Task.marshal?_isSome (task : Task) (payload : Payload) :
    (task.marshal? payload).isSome = true ↔ payload.kind = task.payload := by
  cases task <;> cases payload <;> simp [marshal?, Payload.kind, Task.payload]

inductive Element where
  | landmark (record : Record.Landmark)
  | score (score : Single)
deriving DecidableEq

def Task.isBuffered : Task → Bool
  | .detection => false
  | _ => true

namespace Output

/-- The output as a run of plain values; of several subjects only the first. -/
def elements : Output → List Element
  | .detections _ => []
  | .landmarks records => records.map .landmark
  | .landmarkSet records => (records.head?.getD []).map .landmark
  | .scores values => values.map .score

variable {records : List Record.Landmark}

@[simp] theorem elements_detections (records : List Record.Detection) :
    (detections records).elements = [] := rfl

@[simp] theorem elements_landmarks :
    (landmarks records).elements = records.map .landmark := rfl

@[simp] theorem elements_landmarkSet_nil : (landmarkSet []).elements = [] := rfl

@[simp] theorem elements_landmarkSet_cons (others : List (List Record.Landmark)) :
    (landmarkSet (records :: others)).elements = records.map .landmark := rfl

@[simp] theorem elements_scores (values : List Single) :
    (scores values).elements = values.map .score := rfl

end Output

end FrameFlow
