import FrameFlow.Frame
import FrameFlow.Timestamp
import FrameFlow.Message.Basic
import FrameFlow.Status

/-! What travels on the streams of a graph: packets, each a payload at a timestamp. -/

namespace FrameFlow

inductive PayloadKind where
  | image
  | presence
  | detections
  | landmarkList
  | landmarkLists
  | classifications
deriving DecidableEq

namespace PayloadKind

def all : List PayloadKind :=
  [.image, .presence, .detections, .landmarkList, .landmarkLists, .classifications]

def name : PayloadKind → String
  | .image => "image"
  | .presence => "presence"
  | .detections => "detections"
  | .landmarkList => "landmark_list"
  | .landmarkLists => "landmark_lists"
  | .classifications => "classifications"

def text : PayloadKind → String
  | .image => "image"
  | .presence => "presence"
  | .detections => "detections"
  | .landmarkList => "landmark list"
  | .landmarkLists => "landmark lists"
  | .classifications => "classifications"

def ofName? (name : String) : Option PayloadKind := all.find? (·.name == name)

end PayloadKind

inductive Payload where
  | image (frame : Frame)
  | presence (isPresent : Bool)
  | detections (messages : List Message.Detection)
  | landmarkList (message : Message.LandmarkList)
  | landmarkLists (messages : List Message.LandmarkList)
  | classifications (message : Message.ClassificationList)
deriving DecidableEq

def Payload.kind : Payload → PayloadKind
  | .image _ => .image
  | .presence _ => .presence
  | .detections _ => .detections
  | .landmarkList _ => .landmarkList
  | .landmarkLists _ => .landmarkLists
  | .classifications _ => .classifications

structure Packet where
  timestamp : Timestamp
  payload : Payload
deriving DecidableEq

structure StampedFrame where
  timestamp : Timestamp
  frame : Frame
deriving DecidableEq

/-- An error raised while a graph runs, rather than by a call. -/
structure Fault where
  stream : Option String
  timestamp : Option Timestamp
  status : Status
deriving DecidableEq

end FrameFlow
