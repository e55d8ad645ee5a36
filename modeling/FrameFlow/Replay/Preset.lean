import FrameFlow.Task
import FrameFlow.Text.Padding

/-! Presets: the tasks that can be replayed, each with the streams its graphs publish. -/

namespace FrameFlow

inductive Preset where
  | faceDetection
  | faceMesh
  | handTracking
  | poseTracking
  | holistic
  | faceBlendshapes
deriving DecidableEq

namespace Preset

def all : List Preset :=
  [.faceDetection, .faceMesh, .handTracking, .poseTracking, .holistic, .faceBlendshapes]

def name : Preset → String
  | .faceDetection => "face-detection"
  | .faceMesh => "face-mesh"
  | .handTracking => "hand-tracking"
  | .poseTracking => "pose-tracking"
  | .holistic => "holistic"
  | .faceBlendshapes => "face-blendshapes"

def ofName? (name : String) : Option Preset := all.find? (·.name == name)

def task : Preset → Task
  | .faceDetection => .detection
  | .faceMesh | .handTracking => .multiLandmarks
  | .poseTracking => .singleLandmarks
  | .holistic => .holistic
  | .faceBlendshapes => .scores

def layout : Preset → Layout
  | .faceDetection => .faceDetection
  | .faceMesh => .faceMesh
  | .handTracking => .handTracking
  | .poseTracking => .poseTracking
  | .holistic => .holistic
  | .faceBlendshapes => .faceBlendshapes

def streamTexts (port : Port) : List String :=
  s!"{port.slot.name}={port.output}" ::
    match port.presence with
    | some presence => [s!"presence={presence}"]
    | none => []

def listing (preset : Preset) : String :=
  Text.padRight 18 preset.name ++ " " ++ Text.padRight 17 preset.task.text ++ " " ++
    " ".intercalate (preset.layout.flatMap streamTexts)

end Preset

end FrameFlow
