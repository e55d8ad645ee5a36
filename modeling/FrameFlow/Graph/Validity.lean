import FrameFlow.Graph.Basic
import FrameFlow.Text.Blank
import FrameFlow.Text.Quoted

/-!
Which graphs are well-formed, and the first thing that is wrong with one that is not.
-/

namespace FrameFlow

inductive GraphViolation where
  | unreadable
  | blankInput
  | inputIsOutput (stream : String)
  | previewCollides (stream : String)
  | imageOutput (stream : String)
  | undeclared (frame : Nat) (stream : String)
  | repeated (frame : Nat) (stream : String)
  | mistyped (frame : Nat) (stream : String) (found declared : PayloadKind)
deriving DecidableEq

open Text in
def GraphViolation.message : GraphViolation → String
  | .unreadable => "graph description is not valid"
  | .blankInput => "input stream name is empty"
  | .inputIsOutput stream => s!"stream {quoted stream} is declared as both input and output"
  | .previewCollides stream => s!"preview stream {quoted stream} collides with another stream"
  | .imageOutput stream =>
      s!"output stream {quoted stream} cannot carry images; declare it as the preview stream"
  | .undeclared frame stream => s!"frame #{frame} emits on undeclared stream {quoted stream}"
  | .repeated frame stream => s!"frame #{frame} emits twice on {quoted stream}"
  | .mistyped frame stream found declared =>
      s!"frame #{frame} emits {found.text} on {quoted stream}, declared as {declared.text}"

def GraphViolation.status (violation : GraphViolation) : Status :=
  ⟨.invalidArgument, violation.message⟩

namespace Graph

def isBlankName (name : String) : Bool := (Text.trim name.toList).isEmpty

def packetViolation? (graph : Graph) (frame : Nat) (seen : List String)
    (packet : ScriptedPacket) : Option GraphViolation :=
  match graph.outputStreams.find? packet.stream with
  | none => some (.undeclared frame packet.stream)
  | some declared =>
      if packet.stream ∈ seen then some (.repeated frame packet.stream)
      else
        match packet.value.kind? with
        | none => none
        | some found =>
            if found = declared then none else some (.mistyped frame packet.stream found declared)

def frameViolation? (graph : Graph) (frame : Nat) :
    List String → List ScriptedPacket → Option GraphViolation
  | _, [] => none
  | seen, packet :: rest =>
      (graph.packetViolation? frame seen packet).or
        (graph.frameViolation? frame (packet.stream :: seen) rest)

def framesViolation? (graph : Graph) : Nat → List (List ScriptedPacket) → Option GraphViolation
  | _, [] => none
  | frame, packets :: rest =>
      (graph.frameViolation? frame [] packets).or (graph.framesViolation? (frame + 1) rest)

def declarationViolation? (graph : Graph) : Option GraphViolation :=
  if isBlankName graph.inputStream then some .blankInput
  else if graph.outputStreams.contains graph.inputStream then
    some (.inputIsOutput graph.inputStream)
  else
    let collision := graph.previewStream.filter fun preview =>
      preview == graph.inputStream || graph.outputStreams.contains preview
    let image := graph.outputStreams.entries.find? (·.2 == .image)
    (collision.map .previewCollides).or (image.map fun entry => .imageOutput entry.1)

/-- The first violation of a graph: declarations come before frames. -/
def violation? (graph : Graph) : Option GraphViolation :=
  graph.declarationViolation?.or (graph.framesViolation? 0 graph.frames)

structure WellFormed (graph : Graph) : Prop where
  input_not_blank : isBlankName graph.inputStream = false
  input_not_output : graph.outputStreams.find? graph.inputStream = none
  preview_apart : ∀ preview, graph.previewStream = some preview →
    preview ≠ graph.inputStream ∧ graph.outputStreams.find? preview = none
  no_image_output : ∀ stream, graph.outputStreams.find? stream ≠ some .image
  once_per_frame : ∀ packets ∈ graph.frames, (packets.map (·.stream)).Nodup
  declared : ∀ packets ∈ graph.frames, ∀ packet ∈ packets,
    ∃ kind, graph.outputStreams.find? packet.stream = some kind ∧
      (packet.value.kind? = none ∨ packet.value.kind? = some kind)

end Graph

end FrameFlow
