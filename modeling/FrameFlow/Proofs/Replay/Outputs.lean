import FrameFlow.Proofs.Graph.Packets
import FrameFlow.Proofs.Session.Books
import FrameFlow.Replay.Run

/-!
The lines of a replay and its runtime errors, read off the script of a graph: the outputs that a
plan wants, in the order of the script, and the preview after them.
-/

namespace FrameFlow

namespace Preset

theorem port?_slot {preset : Preset} {port : Port} (member : port ∈ preset.layout) :
    preset.layout.port? port.slot = some port := by
  have found : ∀ preset : Preset, ∀ port ∈ preset.layout,
      preset.layout.port? port.slot = some port := by
    intro preset
    cases preset <;> decide
  exact found preset port member

theorem output_ne_preview {preset : Preset} {port : Port} (member : port ∈ preset.layout) :
    port.output ≠ "output_video" := by
  have apart : ∀ preset : Preset, ∀ port ∈ preset.layout, port.output ≠ "output_video" := by
    intro preset
    cases preset <;> decide
  exact apart preset port member

end Preset

/-- What is emitted for a frame besides its script. -/
def Graph.previews (graph : Graph) (input : StampedFrame) : List Emission :=
  match graph.previewStream with
  | some preview => [.packet preview ⟨input.timestamp, .image input.frame⟩]
  | none => []

namespace ReplayPlan

variable (plan : ReplayPlan)

/-- The ports whose outputs a plan wants. -/
def ports : List Port := plan.preset.layout.filter fun port => plan.wants port.output

/-- The outputs of a stream are wanted. -/
def shows (stream : String) : Bool := plan.ports.any (·.output == stream)

/-- The line of a scripted packet: its output, if it is on a wanted stream and of the kind that
outputs are made from. -/
def line? (timestamp : Timestamp) (packet : ScriptedPacket) : Option Line :=
  match packet.value with
  | .error _ => none
  | .payload content =>
      if plan.shows packet.stream ∧ content.kind = plan.preset.task.payload then
        (plan.preset.task.marshal? content).map fun output =>
          ⟨packet.stream, timestamp, some (.output output)⟩
      else none

/-- A scripted error, or a packet on a wanted stream of another kind than outputs are made from. -/
def fails (packet : ScriptedPacket) : Bool :=
  match packet.value with
  | .error _ => true
  | .payload content =>
      plan.shows packet.stream && decide (content.kind ≠ plan.preset.task.payload)

/-- The line of a frame on the preview stream. -/
def previewLine (timestamp : Timestamp) : Line :=
  ⟨"output_video", timestamp, some (.dimensions plan.width plan.height)⟩

/-- All lines of one frame: the outputs in the order of the script, then the preview. -/
def frameLines (graph : Graph) (step : Int) (index : Nat) : List Line :=
  let timestamp := Replay.stepTimestamp step index
  (graph.scripted index).filterMap (plan.line? timestamp) ++
    if plan.preview then [plan.previewLine timestamp] else []

def frameErrors (graph : Graph) (index : Nat) : Nat := (graph.scripted index).countP plan.fails

/-- A graph takes the frames of a replay and has all streams that a plan wants. -/
structure Suits (graph : Graph) : Prop where
  input : graph.inputStream = "input_video"
  declares : ∀ port ∈ plan.ports, graph.outputStreams.contains port.output = true
  preview : plan.preview = true → graph.previewStream = some "output_video"

/-- What of a plan is to be had from a graph: the preview only if the graph has it. -/
def within (graph : Graph) : ReplayPlan :=
  { plan with preview := plan.preview && decide (graph.previewStream = some "output_video") }

/-- Wanted streams are bound for the task, the preview stream if the preview is wanted, and
nothing else. -/
structure Binds (bindings : StreamMap Binding) : Prop where
  wanted : ∀ port ∈ plan.ports, bindings.find? port.output =
    some (.output plan.preset.task port.slot Replay.listener)
  preview : plan.preview = true →
    bindings.find? "output_video" = some (.preview Replay.listener)
  others : ∀ stream, plan.shows stream = false →
    (plan.preview = true → stream ≠ "output_video") → bindings.find? stream = none

variable {plan}

theorem shows_iff {stream : String} :
    plan.shows stream = true ↔ ∃ port ∈ plan.ports, port.output = stream := by
  simp [shows]

/-- A session that lines are made from: it has the streams of the plan's task. -/
structure Fits (plan : ReplayPlan) (replay : Replay) : Prop where
  layout : replay.session.layout = plan.preset.layout
  preview : replay.session.config.previewStream = "output_video"

variable {replay : Replay} {bindings : StreamMap Binding} {graph : Graph}

/-- The line that a packet of a script comes to. -/
theorem lines_of_scripted (fits : plan.Fits replay) (binds : plan.Binds bindings)
    (wellFormed : graph.WellFormed) {index : Nat} {packet : ScriptedPacket}
    (member : packet ∈ graph.scripted index) (timestamp : Timestamp) :
    (((packet.emission timestamp).entry bindings).events (some Replay.listener)).filterMap
      replay.eventLine? = (plan.line? timestamp packet).toList := by
  obtain ⟨kind, declared, same⟩ := wellFormed.declares_scripted member
  obtain ⟨stream, value⟩ := packet
  cases value with
  | error message => rfl
  | payload content =>
      cases shown : plan.shows stream with
      | true =>
          obtain ⟨port, wanted, rfl⟩ := shows_iff.mp shown
          have bound := binds.wanted port wanted
          have slot : replay.session.layout.port? port.slot = some port := by
            rw [fits.layout]
            exact Preset.port?_slot (List.mem_filter.mp wanted).1
          have marshals := plan.preset.task.marshal?_isSome content
          simp only [ScriptedPacket.emission, Emission.entry, bound, line?, shown, Outlets.told,
            Binding.refusal?, Task.decode]
          cases made : plan.preset.task.marshal? content with
          | some output =>
              have typed := marshals.mp (by rw [made]; rfl)
              simp [Entry.events, Replay.eventLine?, slot, typed]
          | none => simp [Entry.events, Replay.eventLine?, Fault.told]
      | false =>
          have unshown : plan.line? timestamp ⟨stream, .payload content⟩ = none := by
            simp [line?, shown]
          rw [unshown]
          by_cases viewed : plan.preview = true ∧ stream = "output_video"
          · -- Who wants images is not told of anything that is scripted.
            obtain ⟨wanted, rfl⟩ := viewed
            have bound := binds.preview wanted
            have typed : content.kind = kind := by simpa [ScriptedValue.kind?] using same
            simp only [ScriptedPacket.emission, Emission.entry, bound]
            cases content with
            | image frame =>
                exact absurd (declared.trans (congrArg some typed.symm))
                  (wellFormed.no_image_output _)
            | _ => rfl
          · have unbound := binds.others stream shown fun wanted same => viewed ⟨wanted, same⟩
            simp only [ScriptedPacket.emission, Emission.entry, unbound]
            rfl

theorem errors_of_scripted (binds : plan.Binds bindings) {packet : ScriptedPacket}
    (apart : plan.preview = true → packet.stream ≠ "output_video") (timestamp : Timestamp) :
    (((packet.emission timestamp).entry bindings).events (some Replay.listener)).countP
      Replay.isFailure = if plan.fails packet then 1 else 0 := by
  obtain ⟨stream, value⟩ := packet
  cases value with
  | error message => rfl
  | payload content =>
      cases shown : plan.shows stream with
      | false =>
          have unbound := binds.others stream shown apart
          simp only [ScriptedPacket.emission, Emission.entry, unbound, fails, shown]
          rfl
      | true =>
          obtain ⟨port, member, rfl⟩ := shows_iff.mp shown
          have bound := binds.wanted port member
          have marshals := plan.preset.task.marshal?_isSome content
          simp only [ScriptedPacket.emission, Emission.entry, bound, fails, shown, Outlets.told,
            Binding.refusal?, Task.decode]
          cases made : plan.preset.task.marshal? content with
          | some output =>
              have typed := marshals.mp (by rw [made]; rfl)
              simp [Entry.events, Replay.isFailure, typed]
          | none =>
              have untyped : content.kind ≠ plan.preset.task.payload := by
                intro typed
                have some := marshals.mpr typed
                rw [made] at some
                contradiction
              simp [Entry.events, Replay.isFailure, Fault.told, untyped]

section All

variable {packets : List ScriptedPacket} {timestamp : Timestamp}

/-- The lines that packets come to, where it is known what each of them comes to. -/
theorem lines_of_all {line? : Event → Option Line} {made? : ScriptedPacket → Option Line}
    (each : ∀ packet ∈ packets,
      (((packet.emission timestamp).entry bindings).events (some Replay.listener)).filterMap
        line? = (made? packet).toList) :
    ((packets.map (·.emission timestamp)).flatMap fun emission =>
      (emission.entry bindings).events (some Replay.listener)).filterMap line? =
        packets.filterMap made? := by
  rw [List.filterMap_flatMap, List.flatMap_map, List.filterMap_eq_flatMap_toList]
  exact List.flatMap_congr each

theorem errors_of_all {fails : ScriptedPacket → Bool}
    (each : ∀ packet ∈ packets,
      (((packet.emission timestamp).entry bindings).events (some Replay.listener)).countP
        Replay.isFailure = if fails packet then 1 else 0) :
    ((packets.map (·.emission timestamp)).flatMap fun emission =>
      (emission.entry bindings).events (some Replay.listener)).countP Replay.isFailure =
        packets.countP fails := by
  induction packets with
  | nil => rfl
  | cons packet rest ih =>
      have more := ih fun other member => each other (List.mem_cons_of_mem _ member)
      rw [List.map_cons, List.flatMap_cons, List.countP_append, more,
        each packet List.mem_cons_self, List.countP_cons, Nat.add_comm]

end All

/-- The preview has a line if it is wanted and to be had, and else nobody has it. -/
theorem lines_of_previews (graph : Graph) (timestamp : Timestamp) {frame : Frame}
    (fits : plan.Fits replay) (binds : plan.Binds bindings) (width : frame.width = plan.width)
    (height : frame.height = plan.height) :
    ((graph.previews ⟨timestamp, frame⟩).flatMap fun emission =>
      (emission.entry bindings).events (some Replay.listener)).filterMap replay.eventLine? =
        if (plan.within graph).preview then [plan.previewLine timestamp] else [] := by
  cases previewed : graph.previewStream with
  | none => simp [Graph.previews, previewed, within]
  | some stream =>
      simp only [Graph.previews, previewed, List.flatMap_cons, List.flatMap_nil, List.append_nil,
        Emission.entry]
      by_cases viewed : plan.preview = true ∧ stream = "output_video"
      · obtain ⟨wanted, rfl⟩ := viewed
        have bound := binds.preview wanted
        simp [bound, wanted, within, previewed, Entry.events, Outlets.told, Binding.refusal?,
          Replay.eventLine?, Line.ofPreview, previewLine, fits.preview, width, height]
      · have unseen : (plan.within graph).preview = false := by
          simpa [within, previewed] using viewed
        rw [unseen]
        cases shown : plan.shows stream with
        | true =>
            -- No output is made from an image.
            obtain ⟨port, member, rfl⟩ := shows_iff.mp shown
            simp only [binds.wanted port member]
            cases plan.preset.task <;> rfl
        | false =>
            have unbound := binds.others stream shown fun wanted same => viewed ⟨wanted, same⟩
            simp only [unbound]
            rfl

theorem errors_of_previews (input : StampedFrame) (binds : plan.Binds bindings)
    (wellFormed : graph.WellFormed) (suits : plan.Suits graph) :
    ((graph.previews input).flatMap fun emission =>
      (emission.entry bindings).events (some Replay.listener)).countP Replay.isFailure = 0 := by
  cases wanted : plan.preview with
  | true =>
      have bound := binds.preview wanted
      simp only [Graph.previews, suits.preview wanted, List.flatMap_cons, Emission.entry, bound]
      rfl
  | false =>
      cases previewed : graph.previewStream with
      | none =>
          simp only [Graph.previews, previewed]
          rfl
      | some preview =>
          have unshown : plan.shows preview = false := by
            refine Bool.eq_false_iff.mpr fun shown => ?_
            obtain ⟨port, member, same⟩ := shows_iff.mp shown
            have declared := suits.declares port member
            rw [same, StreamMap.contains, (wellFormed.preview_apart _ previewed).2] at declared
            contradiction
          have unbound := binds.others preview unshown fun previewed => by
            rw [wanted] at previewed
            contradiction
          simp only [Graph.previews, previewed, List.flatMap_cons, Emission.entry, unbound]
          rfl

/-- The lines that a frame comes to: those of its script, and the preview. -/
theorem lines_of_frame (fits : plan.Fits replay) (binds : plan.Binds bindings)
    (wellFormed : graph.WellFormed) (step : Int) (index : Nat) {frame : Frame}
    (width : frame.width = plan.width) (height : frame.height = plan.height) :
    ((graph.emissions index ⟨Replay.stepTimestamp step index, frame⟩).flatMap fun emission =>
      (emission.entry bindings).events (some Replay.listener)).filterMap replay.eventLine? =
        (plan.within graph).frameLines graph step index := by
  let timestamp := Replay.stepTimestamp step index
  have lines := lines_of_all fun packet (member : packet ∈ graph.scripted index) =>
    lines_of_scripted fits binds wellFormed member timestamp
  have shown := lines_of_previews graph timestamp fits binds width height
  have split : graph.emissions index ⟨timestamp, frame⟩ =
      (graph.scripted index).map (·.emission timestamp) ++ graph.previews ⟨timestamp, frame⟩ := rfl
  rw [show Replay.stepTimestamp step index = timestamp from rfl, split, List.flatMap_append,
    List.filterMap_append, lines, shown]
  rfl

theorem errors_of_frame (binds : plan.Binds bindings) (wellFormed : graph.WellFormed)
    (suits : plan.Suits graph) (index : Nat) (input : StampedFrame) :
    ((graph.emissions index input).flatMap fun emission =>
      (emission.entry bindings).events (some Replay.listener)).countP Replay.isFailure =
        plan.frameErrors graph index := by
  have apart (packet : ScriptedPacket) (member : packet ∈ graph.scripted index)
      (wanted : plan.preview = true) : packet.stream ≠ "output_video" := by
    intro same
    obtain ⟨kind, declared, _⟩ := wellFormed.declares_scripted member
    rw [same, (wellFormed.preview_apart _ (suits.preview wanted)).2] at declared
    contradiction
  have errors := errors_of_all fun packet member =>
    errors_of_scripted binds (apart packet member) input.timestamp
  have none := errors_of_previews input binds wellFormed suits
  have split : graph.emissions index input =
      (graph.scripted index).map (·.emission input.timestamp) ++ graph.previews input := rfl
  rw [split, List.flatMap_append, List.countP_append, errors, none]
  rfl

end ReplayPlan

end FrameFlow
