import FrameFlow.Task
import FrameFlow.Json.Access

/-! Layouts read from JSON. -/

namespace FrameFlow.Layout

def ofName? (name : String) : Option Layout :=
  match name with
  | "face_detection" => some faceDetection
  | "face_mesh" => some faceMesh
  | "hand_tracking" => some handTracking
  | "pose_tracking" => some poseTracking
  | "face_blendshapes" => some faceBlendshapes
  | _ => none

def single? : Json → Option Layout
  | .string name => ofName? name
  | json => (json.textAt? "output").map fun output =>
      [{ output, presence := json.textAt? "presence" }]

/-- The layout of a task. Null means the default, and parts that are not named keep theirs. -/
def ofJson? (task : Task) (json : Json) : Option Layout :=
  match task, json with
  | task, .null => some task.defaultLayout
  | .holistic, .object _ =>
      some (holistic.map fun port =>
        { port with output := (json.textAt? port.slot.name).getD port.output })
  | .holistic, _ => none
  | _, json => single? json

end FrameFlow.Layout
