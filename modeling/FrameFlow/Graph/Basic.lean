import FrameFlow.Payload
import FrameFlow.StreamMap

/-!
Scripted graphs: an input stream, typed output streams, perhaps a preview stream, and what
is emitted frame after frame, from the beginning again when the script ends.
-/

namespace FrameFlow

inductive ScriptedValue where
  | payload (content : Payload)
  | error (message : String)
deriving DecidableEq

def ScriptedValue.kind? : ScriptedValue → Option PayloadKind
  | .payload content => some content.kind
  | .error _ => none

structure ScriptedPacket where
  stream : String
  value : ScriptedValue
deriving DecidableEq

structure Graph where
  inputStream : String := "input_video"
  previewStream : Option String := none
  outputStreams : StreamMap PayloadKind := .empty
  frames : List (List ScriptedPacket) := []
  /-- A pause before every frame; it delays what a run emits and changes nothing else. -/
  latencyMillis : Nat := 0

instance : Inhabited Graph := ⟨{}⟩

inductive Emission where
  | packet (stream : String) (packet : Packet)
  | fault (fault : Fault)
deriving DecidableEq

namespace Graph

def isObservable (graph : Graph) (stream : String) : Bool :=
  graph.outputStreams.contains stream || graph.previewStream == some stream

def scripted (graph : Graph) (index : Nat) : List ScriptedPacket :=
  graph.frames[index % graph.frames.length]?.getD []

end Graph

def ScriptedPacket.emission (packet : ScriptedPacket) (timestamp : Timestamp) : Emission :=
  match packet.value with
  | .payload content => .packet packet.stream ⟨timestamp, content⟩
  | .error message => .fault ⟨some packet.stream, some timestamp, ⟨.internal, message⟩⟩

/-- Everything emitted for the frame at an index of a run: what is scripted, in order, and
then the frame itself on the preview stream. -/
def Graph.emissions (graph : Graph) (index : Nat) (input : StampedFrame) : List Emission :=
  (graph.scripted index).map (·.emission input.timestamp) ++
    match graph.previewStream with
    | some preview => [.packet preview ⟨input.timestamp, .image input.frame⟩]
    | none => []

end FrameFlow
