import FrameFlow.Proofs.Replay.Frames
import FrameFlow.Proofs.Replay.Subscribing

/-!
The lines of a replay that polls its outputs, read off the script of a graph. Every port has lines
of its own: its outputs and, where a presence stream says so, that a frame has none.
-/

namespace FrameFlow

/-- What is made of the packets that a frame brings to a stream is made of its script, where
nothing is made of the frame itself. -/
theorem Graph.filterMap_packetsOn {α : Type} {graph : Graph} {stream : String} {index : Nat}
    {input : StampedFrame} {made? : Packet → Option α}
    (unused : made? ⟨input.timestamp, .image input.frame⟩ = none) :
    (graph.packetsOn stream index [input]).filterMap made? =
      (graph.scripted index).filterMap fun packet =>
        match packet.value with
        | .payload content =>
            if packet.stream = stream then made? ⟨input.timestamp, content⟩ else none
        | .error _ => none := by
  have previews : ((graph.previews input).flatMap (Emission.on stream)).filterMap made? = [] := by
    rw [previews]
    cases graph.previewStream with
    | none => rfl
    | some preview =>
        by_cases same : preview = stream
        · simp [Emission.on, same, unused]
        · simp [Emission.on, same]
  have split : graph.emissions index input =
      (graph.scripted index).map (·.emission input.timestamp) ++ graph.previews input := rfl
  rw [packetsOn_singleton, split, List.flatMap_append, List.filterMap_append, previews,
    List.append_nil, List.flatMap_map, List.filterMap_flatMap, List.filterMap_eq_flatMap_toList]
  refine List.flatMap_congr fun packet _ => ?_
  obtain ⟨other, value⟩ := packet
  cases value with
  | error message => rfl
  | payload content =>
      by_cases same : other = stream
      · cases made : made? ⟨input.timestamp, content⟩ <;>
          simp [ScriptedPacket.emission, Emission.on, same, made]
      · simp [ScriptedPacket.emission, Emission.on, same]

/-- A gate that has all packets of some frames judges them frame by frame. -/
theorem Graph.Pairs.judged_cons {graph : Graph} {presence payload : String}
    (pairs : graph.Pairs presence payload) (wellFormed : graph.WellFormed) (index : Nat)
    (input : StampedFrame) (rest : List StampedFrame) (presenceStream payloadStream : String) :
    Gate.judged presenceStream payloadStream (graph.packetsOn presence index (input :: rest))
        (graph.packetsOn payload index (input :: rest)) =
      Gate.judged presenceStream payloadStream (graph.packetsOn presence index [input])
          (graph.packetsOn payload index [input]) ++
        Gate.judged presenceStream payloadStream (graph.packetsOn presence (index + 1) rest)
          (graph.packetsOn payload (index + 1) rest) := by
  rw [packetsOn_cons index input rest, packetsOn_cons index input rest]
  rcases pairs.frame_cases wellFormed index input with ⟨unpaid, none | one⟩ | ⟨content, paid, one⟩
  · rw [unpaid, none]
    rfl
  · rw [unpaid, one]
    rfl
  · rw [paid, one]
    rfl

namespace OutputPoller

variable {poller : OutputPoller} {graph : Graph}

/-- The line of a payload that a poller observes. -/
def line? (poller : OutputPoller) (packet : Packet) : Option Line :=
  (poller.task.marshal? packet.payload).map fun output =>
    ⟨poller.stream, packet.timestamp, some (.output output)⟩

/-- The line of a presence that says that there is no payload. -/
def absence? (poller : OutputPoller) (presence : Packet) : Option Line :=
  if presence.payload = .presence false then some ⟨poller.stream, presence.timestamp, none⟩
  else none

theorem lines_answerTo (poller : OutputPoller) (packets : List Packet) :
    poller.lines (packets.map poller.answerTo) = packets.filterMap poller.line? := by
  induction packets with
  | nil => rfl
  | cons packet rest ih =>
      rw [List.map_cons, ← List.singleton_append, lines_append, ih, List.filterMap_cons, lines,
        answerTo, answerOf, observe, Task.decode, line?]
      cases poller.task.marshal? packet.payload <;> rfl

/-- Frame by frame, a poller observes what the frame brings. -/
theorem lines_answers_cons (wellFormed : graph.WellFormed) (paired : poller.IsPaired graph)
    (index : Nat) (input : StampedFrame) (rest : List StampedFrame) :
    poller.lines (poller.answers graph index (input :: rest)) =
      poller.lines (poller.answers graph index [input]) ++
        poller.lines (poller.answers graph (index + 1) rest) := by
  rw [← lines_append]
  obtain ⟨task, source | source⟩ := poller
  · simp only [answers, Graph.packetsOn_cons index input rest, List.map_append]
  · have judged := Graph.Pairs.judged_cons paired wellFormed index input rest
    simp only [answers, judged, List.map_append]

/-- A frame brings a gated poller a payload, or the word that there is none. -/
theorem lines_answers_of_gated (task : Task) {source : GatedPoller}
    (wellFormed : graph.WellFormed)
    (pairs : graph.Pairs source.presence.stream source.payload.stream) (index : Nat)
    (input : StampedFrame) :
    let poller : OutputPoller := ⟨task, .gated source⟩
    let presences := graph.packetsOn source.presence.stream index [input]
    let payloads := graph.packetsOn source.payload.stream index [input]
    (presences.filterMap poller.absence? = [] ∧
        poller.lines (poller.answers graph index [input]) = payloads.filterMap poller.line?) ∨
      payloads = [] ∧
        poller.lines (poller.answers graph index [input]) =
          presences.filterMap poller.absence? := by
  intro poller presences payloads
  have hears : poller.answers graph index [input] = (Gate.judged source.presence.stream
    source.payload.stream presences payloads).map poller.answerOf := rfl
  rw [hears]
  rcases pairs.frame_cases wellFormed index input with ⟨unpaid, none | one⟩ | ⟨content, paid, one⟩
  · refine .inr ⟨unpaid, ?_⟩
    rw [show presences = _ from none]
    rfl
  · refine .inr ⟨unpaid, ?_⟩
    rw [show presences = _ from one]
    rfl
  · refine .inl ⟨?_, ?_⟩
    · rw [show presences = _ from one]
      rfl
    · rw [show presences = _ from one, show payloads = _ from paid, ← lines_answerTo]
      simp only [Gate.judged, Gate.paired, if_true]
      rfl

end OutputPoller

namespace ReplayPlan

variable (plan : ReplayPlan)

/-- The line of a scripted packet at a port that is polled: its output, or that there is none. -/
def portLine? (port : Port) (timestamp : Timestamp) (packet : ScriptedPacket) : Option Line :=
  if packet.stream = port.output then plan.line? timestamp packet
  else if port.presence = some packet.stream ∧ packet.value = .payload (.presence false) then
    some ⟨port.output, timestamp, none⟩
  else none

/-- All lines of one frame at a port. -/
def portLines (graph : Graph) (step : Int) (port : Port) (index : Nat) : List Line :=
  (graph.scripted index).filterMap (plan.portLine? port (Replay.stepTimestamp step index))

variable {plan} {graph : Graph} {port : Port} {bindings : StreamMap Binding} {outlets : Outlets}
  {poller : OutputPoller}

/-- The outputs on a wanted stream are the lines of its payloads. -/
theorem line?_of_wanted (member : port ∈ plan.ports)
    (polled : port.IsPolled plan.preset.task bindings outlets poller) (timestamp : Timestamp)
    (content : Payload) :
    plan.line? timestamp ⟨port.output, .payload content⟩ = poller.line? ⟨timestamp, content⟩ := by
  have shown : plan.shows port.output = true := shows_iff.mpr ⟨port, member, rfl⟩
  have marshals := plan.preset.task.marshal?_isSome content
  simp only [line?, OutputPoller.line?, shown, polled.task, polled.stream, true_and]
  split
  · rfl
  · rename_i unlike
    cases made : plan.preset.task.marshal? content with
    | none => rfl
    | some output => exact absurd (marshals.mp (by rw [made]; rfl)) unlike

/-- What a poller observes of a frame is what the script has for its port. -/
theorem lines_answers_eq (member : port ∈ plan.ports)
    (polled : port.IsPolled plan.preset.task bindings outlets poller)
    (wellFormed : graph.WellFormed) (paired : poller.IsPaired graph) (index : Nat)
    (input : StampedFrame) :
    poller.lines (poller.answers graph index [input]) =
      (graph.scripted index).filterMap (plan.portLine? port input.timestamp) := by
  let output? (packet : ScriptedPacket) : Option Line :=
    if packet.stream = port.output then plan.line? input.timestamp packet else none
  have outputs : (graph.packetsOn port.output index [input]).filterMap poller.line? =
      (graph.scripted index).filterMap output? := by
    rw [Graph.filterMap_packetsOn]
    · refine List.filterMap_congr fun packet _ => ?_
      obtain ⟨stream, value⟩ := packet
      cases value with
      | error message => simp [output?, line?]
      | payload content =>
          by_cases same : stream = port.output
          · subst same
            simp only [output?, if_true, line?_of_wanted member polled]
          · simp only [output?, same, if_false]
    · rw [OutputPoller.line?]
      cases poller.task <;> rfl
  have stream := polled.stream
  obtain ⟨task, source | source⟩ := poller
  · have hears : OutputPoller.answers ⟨task, .plain source⟩ graph index [input] =
      (graph.packetsOn source.stream index [input]).map _ := rfl
    rw [hears, OutputPoller.lines_answerTo, show source.stream = port.output from stream, outputs]
    refine List.filterMap_congr fun packet _ => ?_
    simp [portLine?, output?, polled.ungated]
  · let absence? (packet : ScriptedPacket) : Option Line :=
      if port.presence = some packet.stream ∧ packet.value = .payload (.presence false) then
        some ⟨port.output, input.timestamp, none⟩
      else none
    have gates := polled.gated
    have absences : (graph.packetsOn source.presence.stream index [input]).filterMap
        (OutputPoller.absence? ⟨task, .gated source⟩) =
          (graph.scripted index).filterMap absence? := by
      rw [Graph.filterMap_packetsOn]
      · refine List.filterMap_congr fun packet _ => ?_
        obtain ⟨other, value⟩ := packet
        cases value with
        | error message => simp [absence?]
        | payload content =>
            simp only [absence?, OutputPoller.absence?, stream, gates, Option.some.injEq,
              ScriptedValue.payload.injEq, ite_and, eq_comm]
      · rfl
    have split (packet : ScriptedPacket) : plan.portLine? port input.timestamp packet =
        if packet.stream = port.output then output? packet else absence? packet := by
      simp only [portLine?, output?, absence?]
      split <;> rfl
    have apart : source.presence.stream ≠ source.payload.stream := Graph.Pairs.apart paired
    have stream : source.payload.stream = port.output := stream
    rcases OutputPoller.lines_answers_of_gated task wellFormed paired index input with
      ⟨none, lines⟩ | ⟨none, lines⟩
    · rw [absences, List.filterMap_eq_nil_iff] at none
      rw [lines, stream, outputs]
      refine List.filterMap_congr fun packet known => ?_
      rw [split, none packet known]
      simp only [output?]
      split <;> rfl
    · rw [stream] at none
      rw [none, List.filterMap_nil, eq_comm, List.filterMap_eq_nil_iff] at outputs
      rw [lines, absences]
      refine List.filterMap_congr fun packet known => ?_
      rw [split, outputs packet known]
      split
      · rename_i own
        simp only [absence?, gates, own, ← stream, Option.some.injEq, apart, false_and, if_false]
      · rfl

/-- Lines that go with the script of a graph: each wanted port has those of all frames, and so has
the preview if it is wanted. -/
structure HasLines (plan : ReplayPlan) (graph : Graph) (step : Int) (count : Nat)
    (lines : List Line) : Prop where
  ports : ∀ port ∈ plan.ports, Line.on port.output lines =
    (List.range count).flatMap (plan.portLines graph step port)
  preview : Line.on "output_video" lines = (List.range count).flatMap fun index =>
    if plan.preview then [plan.previewLine (Replay.stepTimestamp step index)] else []
  others : ∀ line ∈ lines,
    line.stream = "output_video" ∨ ∃ port ∈ plan.ports, line.stream = port.output

/-- Where a plan polls, the streams that it wants carry what its task is made from. -/
def IsTyped (plan : ReplayPlan) (graph : Graph) : Prop :=
  ∀ port ∈ plan.ports, graph.outputStreams.find? port.output = some plan.preset.task.payload

end ReplayPlan

namespace Replay

variable {plan : ReplayPlan} {graph : Graph} {replay last : Replay} {step : Int}

/-- What is made of stamped frames one by one is made of their places, where it does not depend
on the frames. -/
theorem flatMap_stamped {α : Type} (made : Nat → List StampedFrame → List α)
    (part : Nat → List α) (none : ∀ index, made index [] = [])
    (cons : ∀ index input rest,
      made index (input :: rest) = made index [input] ++ made (index + 1) rest)
    {frames : List Frame}
    (each : ∀ index, ∀ frame ∈ frames,
      made index [⟨stepTimestamp step index, frame⟩] = part index) :
    made 0 (stampedFrames step frames) = (List.range frames.length).flatMap part := by
  suffices all : ∀ start, made start (frames.mapIdx fun index frame =>
      ⟨stepTimestamp step (start + index), frame⟩) =
        (List.range' start frames.length).flatMap part by
    have whole := all 0
    rw [← List.range_eq_range'] at whole
    simpa only [stampedFrames, Nat.zero_add] using whole
  induction frames with
  | nil => exact none
  | cons frame rest ih =>
      intro start
      have later := ih (fun index other member => each index other (List.mem_cons_of_mem _ member))
        (start + 1)
      rw [List.mapIdx_cons, cons, List.length_cons, List.range'_succ, List.flatMap_cons, ← later]
      simp only [Nat.add_zero, each start frame List.mem_cons_self, Nat.add_assoc, Nat.add_comm 1]

/-- No line comes of what listeners are told of a scripted packet: consumers take what is on
wanted streams. -/
theorem Seats.lines_of_scripted (seats : replay.Seats plan graph plan.preview plan.ports)
    (wellFormed : graph.WellFormed) {index : Nat} {packet : ScriptedPacket}
    (member : packet ∈ graph.scripted index) (timestamp : Timestamp) :
    ((packet.emission timestamp).events replay.session.bindings.bindings).filterMap
      replay.eventLine? = [] := by
  obtain ⟨kind, declared, same⟩ := wellFormed.declares_scripted member
  obtain ⟨stream, value⟩ := packet
  cases value with
  | error message => rfl
  | payload content =>
      simp only [ScriptedPacket.emission, Emission.events, Emission.entry]
      cases found : replay.session.bindings.bindings.find? stream with
      | none => rfl
      | some binding =>
          rcases seats.bound stream binding found with
            ⟨_, _, _, channel, rfl⟩ | ⟨wanted, rfl, rfl⟩
          · rfl
          · have typed : content.kind = kind := by simpa [ScriptedValue.kind?] using same
            cases content with
            | image frame =>
                exact absurd (declared.trans (congrArg some typed.symm))
                  (wellFormed.no_image_output _)
            | _ => rfl

/-- Only scripted errors are told, if the graph has what is wanted. -/
theorem Seats.errors_of_scripted (seats : replay.Seats plan graph plan.preview plan.ports)
    (wellFormed : graph.WellFormed) (suits : plan.Suits graph) (typed : plan.IsTyped graph)
    {index : Nat} {packet : ScriptedPacket} (member : packet ∈ graph.scripted index)
    (timestamp : Timestamp) :
    ((packet.emission timestamp).events replay.session.bindings.bindings).countP isFailure =
      if plan.fails packet then 1 else 0 := by
  obtain ⟨kind, declared, same⟩ := wellFormed.declares_scripted member
  obtain ⟨stream, value⟩ := packet
  cases value with
  | error message => rfl
  | payload content =>
      have fine : plan.fails ⟨stream, .payload content⟩ = false := by
        simp only [ReplayPlan.fails, Bool.and_eq_false_iff, decide_eq_false_iff_not, not_not]
        refine Decidable.or_iff_not_imp_left.mpr fun shown => ?_
        rw [Bool.not_eq_false] at shown
        obtain ⟨port, wanted, rfl⟩ := ReplayPlan.shows_iff.mp shown
        have same : content.kind = kind := by simpa [ScriptedValue.kind?] using same
        rw [same]
        exact Option.some.inj (declared.symm.trans (typed port wanted))
      rw [fine]
      simp only [ScriptedPacket.emission, Emission.events, Emission.entry]
      cases found : replay.session.bindings.bindings.find? stream with
      | none => rfl
      | some binding =>
          rcases seats.bound stream binding found with
            ⟨_, _, _, channel, rfl⟩ | ⟨wanted, rfl, _⟩
          · rfl
          · have undeclared := (wellFormed.preview_apart _ (suits.preview wanted)).2
            exact absurd (declared.symm.trans undeclared) (Option.some_ne_none _)

/-- Listeners are told of the preview if it is wanted and to be had. -/
theorem Seats.outcome_of_previews (seats : replay.Seats plan graph plan.preview plan.ports)
    {input : StampedFrame}
    (sized : input.frame.width = plan.width ∧ input.frame.height = plan.height) :
    let events := (graph.previews input).flatMap (Emission.events replay.session.bindings.bindings)
    events.filterMap replay.eventLine? =
        (if (plan.within graph).preview then [plan.previewLine input.timestamp] else []) ∧
      events.countP isFailure = 0 := by
  obtain ⟨width, height⟩ := sized
  cases previewed : graph.previewStream with
  | none => simp [Graph.previews, previewed, ReplayPlan.within]
  | some stream =>
      simp only [Graph.previews, previewed, List.flatMap_cons, List.flatMap_nil, List.append_nil,
        Emission.events, Emission.entry]
      by_cases viewed : plan.preview = true ∧ stream = "output_video"
      · obtain ⟨wanted, rfl⟩ := viewed
        have preview : replay.session.config.previewStream = "output_video" := by
          rw [seats.takes.config]
        rw [seats.viewed wanted]
        refine ⟨?_, rfl⟩
        simp [ReplayPlan.within, wanted, previewed, Entry.events, Outlets.told, Binding.refusal?,
          eventLine?, Line.ofPreview, ReplayPlan.previewLine, preview, width, height]
      · have unseen : (plan.within graph).preview = false := by
          simpa [ReplayPlan.within, previewed] using viewed
        rw [unseen]
        cases found : replay.session.bindings.bindings.find? stream with
        | none => exact ⟨rfl, rfl⟩
        | some binding =>
            rcases seats.bound stream binding found with
              ⟨_, _, _, channel, rfl⟩ | ⟨wanted, same, _⟩
            · exact ⟨rfl, rfl⟩
            · exact absurd ⟨wanted, same⟩ viewed

/-- What listeners are told of a frame comes to the line of its preview. -/
theorem Seats.lines_of_frame (seats : replay.Seats plan graph plan.preview plan.ports)
    (wellFormed : graph.WellFormed) (index : Nat) (input : StampedFrame)
    (sized : input.frame.width = plan.width ∧ input.frame.height = plan.height) :
    ((graph.emissions index input).flatMap
      (Emission.events replay.session.bindings.bindings)).filterMap replay.eventLine? =
        if (plan.within graph).preview then [plan.previewLine input.timestamp] else [] := by
  have none : ((graph.scripted index).map (·.emission input.timestamp)).flatMap
      (fun emission => (emission.events replay.session.bindings.bindings).filterMap
        replay.eventLine?) = [] := by
    rw [List.flatMap_map, List.flatMap_eq_nil_iff]
    exact fun packet member => seats.lines_of_scripted wellFormed member input.timestamp
  have split : graph.emissions index input =
      (graph.scripted index).map (·.emission input.timestamp) ++ graph.previews input := rfl
  rw [split, List.flatMap_append, List.filterMap_append, List.filterMap_flatMap, none,
    (seats.outcome_of_previews sized).1, List.nil_append]

theorem Seats.errors_of_frame (seats : replay.Seats plan graph plan.preview plan.ports)
    (wellFormed : graph.WellFormed) (suits : plan.Suits graph) (typed : plan.IsTyped graph)
    (index : Nat) (input : StampedFrame)
    (sized : input.frame.width = plan.width ∧ input.frame.height = plan.height) :
    ((graph.emissions index input).flatMap
      (Emission.events replay.session.bindings.bindings)).countP isFailure =
        plan.frameErrors graph index := by
  have errors := ReplayPlan.errors_of_all fun packet (member : packet ∈ graph.scripted index) =>
    seats.errors_of_scripted wellFormed suits typed member input.timestamp
  have split : graph.emissions index input =
      (graph.scripted index).map (·.emission input.timestamp) ++ graph.previews input := rfl
  rw [split, List.flatMap_append, List.countP_append, (seats.outcome_of_previews sized).2]
  exact errors

section Frames

variable {frames : List Frame}

theorem lines_answers_stamped {port : Port} {bindings : StreamMap Binding} {outlets : Outlets}
    {poller : OutputPoller} (member : port ∈ plan.ports)
    (polled : port.IsPolled plan.preset.task bindings outlets poller)
    (wellFormed : graph.WellFormed) (paired : poller.IsPaired graph) (step : Int)
    (frames : List Frame) :
    poller.lines (poller.answers graph 0 (stampedFrames step frames)) =
      (List.range frames.length).flatMap (plan.portLines graph step port) := by
  refine flatMap_stamped (fun index inputs => poller.lines (poller.answers graph index inputs)) _
    (fun index => ?_) (poller.lines_answers_cons wellFormed paired) fun index frame _ =>
      ReplayPlan.lines_answers_eq member polled wellFormed paired index _
  obtain ⟨task, plain | gated⟩ := poller <;> rfl

section Each

variable {bindings : StreamMap Binding}

/-- What listeners are told of frames, one after the other. -/
theorem events_emissionsFrom_cons (index : Nat) (input : StampedFrame)
    (rest : List StampedFrame) :
    (graph.emissionsFrom index (input :: rest)).flatMap (Emission.events bindings) =
      (graph.emissionsFrom index [input]).flatMap (Emission.events bindings) ++
        (graph.emissionsFrom (index + 1) rest).flatMap (Emission.events bindings) := by
  simp only [Graph.emissionsFrom, List.flatMap_append, List.append_nil]

/-- The lines that frames come to, where it is known what each of them comes to. -/
theorem lines_of_frames {line? : Event → Option Line} (part : Nat → List Line)
    (each : ∀ index, ∀ frame ∈ frames,
      ((graph.emissions index ⟨stepTimestamp step index, frame⟩).flatMap
        (Emission.events bindings)).filterMap line? = part index) :
    ((graph.emissionsFrom 0 (stampedFrames step frames)).flatMap
      (Emission.events bindings)).filterMap line? = (List.range frames.length).flatMap part := by
  refine flatMap_stamped (fun index inputs => ((graph.emissionsFrom index inputs).flatMap
    (Emission.events bindings)).filterMap line?) part (fun _ => rfl)
    (fun index input rest => ?_) fun index frame member => ?_
  · rw [events_emissionsFrom_cons, List.filterMap_append]
  · rw [Graph.emissionsFrom, Graph.emissionsFrom, List.append_nil]
    exact each index frame member

theorem errors_of_frames (errors : Nat → Nat)
    (each : ∀ index, ∀ frame ∈ frames,
      ((graph.emissions index ⟨stepTimestamp step index, frame⟩).flatMap
        (Emission.events bindings)).countP isFailure = errors index) :
    ((graph.emissionsFrom 0 (stampedFrames step frames)).flatMap
      (Emission.events bindings)).countP isFailure =
        ((List.range frames.length).map errors).sum := by
  let marks (index : Nat) (inputs : List StampedFrame) : List Unit :=
    List.replicate (((graph.emissionsFrom index inputs).flatMap
      (Emission.events bindings)).countP isFailure) ()
  have counted : marks 0 (stampedFrames step frames) = _ := flatMap_stamped marks
    (fun index => List.replicate (errors index) ()) (fun _ => rfl)
    (fun index input rest => by
      simp only [marks]
      rw [events_emissionsFrom_cons, List.countP_append, List.replicate_add])
    fun index frame member => by
      simp only [marks, Graph.emissionsFrom, List.append_nil, each index frame member]
  have number := congrArg List.length counted
  simpa only [marks, List.length_replicate, List.length_flatMap] using number

end Each

/-- Once everything is written, the lines go with the script. -/
theorem Seats.hasLines (seats : replay.Seats plan graph plan.preview plan.ports)
    (wellFormed : graph.WellFormed) (typed : plan.IsTyped graph) (pairs : plan.Pairs graph)
    (sized : ∀ frame ∈ frames, frame.width = plan.width ∧ frame.height = plan.height)
    (proceeds : last.Proceeds (replay.roster graph) (stampedFrames step frames))
    (written : last.IsWritten) :
    (∀ consumer ∈ last.consumers, consumer.error? = none) ∧
      (plan.within graph).HasLines graph step frames.length last.lines ∧
      (plan.Suits graph → last.runtimeErrors =
        ((List.range frames.length).map (plan.frameErrors graph)).sum) := by
  have declared (poller : OutputPoller) (member : poller ∈ (replay.roster graph).pollers) :
      graph.outputStreams.find? poller.stream = some poller.task.payload := by
    obtain ⟨port, wanted, polled⟩ := seats.exists_port member
    rw [polled.stream, polled.task]
    exact typed port wanted
  obtain ⟨unfailed, outputs, others, errors⟩ := proceeds.lines_of_isWritten written declared
  have shown := lines_of_frames
    (fun index => if (plan.within graph).preview then
      [(plan.within graph).previewLine (stepTimestamp step index)] else [])
    fun index frame member =>
      seats.lines_of_frame wellFormed index ⟨stepTimestamp step index, frame⟩ (sized frame member)
  have failures (suits : plan.Suits graph) := errors_of_frames (plan.frameErrors graph)
    fun index frame member => seats.errors_of_frame wellFormed suits typed index
      ⟨stepTimestamp step index, frame⟩ (sized frame member)
  have told : last.lines.filter (replay.roster graph).tells = _ := others.trans shown
  have previews (line : Line) (member : line ∈ last.lines.filter (replay.roster graph).tells) :
      line.stream = "output_video" := by
    rw [told] at member
    obtain ⟨index, _, known⟩ := List.mem_flatMap.mp member
    split at known
    · rw [List.mem_singleton.mp known]
      rfl
    · contradiction
  refine ⟨unfailed, ⟨fun port member => ?_, ?_, fun line member => ?_⟩,
    fun suits => errors.trans (failures suits)⟩
  · obtain ⟨poller, known, polled⟩ := seats.exists_poller member
    rw [← polled.stream, outputs poller known]
    exact lines_answers_stamped member polled wellFormed
      (polled.isPaired (pairs port member)) step frames
  · have own : (last.lines.filter (replay.roster graph).tells).filter
        (·.stream = "output_video") = Line.on "output_video" last.lines := by
      rw [List.filter_filter]
      refine List.filter_congr fun line _ => ?_
      rw [Bool.and_eq_left_iff_imp]
      intro same
      refine List.all_eq_true.mpr fun poller known => ?_
      obtain ⟨port, wanted, polled⟩ := seats.exists_port known
      rw [of_decide_eq_true same, polled.stream]
      exact decide_eq_true (Preset.output_ne_preview (List.mem_filter.mp wanted).1)
    rw [← own, ← told]
    exact Line.on_of_all previews
  · refine Decidable.or_iff_not_imp_left.mpr fun unlike => ?_
    by_contra foreign
    refine unlike (previews line (List.mem_filter.mpr ⟨member, List.all_eq_true.mpr ?_⟩))
    intro poller known
    obtain ⟨port, wanted, polled⟩ := seats.exists_port known
    refine decide_eq_true fun same => foreign ⟨port, wanted, ?_⟩
    rw [← polled.stream, same]

end Frames

end Replay

end FrameFlow
