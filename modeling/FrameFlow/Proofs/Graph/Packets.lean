import FrameFlow.Proofs.Engine.Progress
import FrameFlow.Proofs.Graph.Acceptance

/-!
The packets of one stream in a run: one at most for every frame, with the frame's timestamp.
-/

namespace FrameFlow

theorem Timestamp.ne_of_lt {earlier later : Timestamp} (before : earlier < later) :
    earlier ≠ later := by
  rintro rfl
  exact Int.lt_irrefl _ before

/-- Packets as a stream brings them, at most one at a time. -/
def Increasing (packets : List Packet) : Prop :=
  packets.Pairwise fun earlier later => earlier.timestamp < later.timestamp

theorem Increasing.place_unique {before after : List Packet} {packet other : Packet} {place : Nat}
    (increasing : Increasing (before ++ packet :: after))
    (found : (before ++ packet :: after)[place]? = some other)
    (same : other.timestamp = packet.timestamp) : place = before.length := by
  obtain ⟨inside, rfl⟩ := List.getElem?_eq_some_iff.mp found
  have ordered := List.pairwise_iff_getElem.mp increasing
  have here : before.length < (before ++ packet :: after).length := by simp
  rcases Nat.lt_trichotomy place before.length with earlier | same | later
  · have smaller := ordered place before.length inside here earlier
    simp only [List.getElem_append_right (Nat.le_refl _), Nat.sub_self, List.getElem_cons_zero]
      at smaller
    exact absurd same (Timestamp.ne_of_lt smaller)
  · exact same
  · have larger := ordered before.length place here inside later
    simp only [List.getElem_append_right (Nat.le_refl _), Nat.sub_self, List.getElem_cons_zero]
      at larger
    exact absurd same.symm (Timestamp.ne_of_lt larger)

namespace Emission

/-- The stream that an emission is about. -/
def stream? : Emission → Option String
  | .packet stream _ => some stream
  | .fault reported => reported.stream

/-- What an emission brings to a stream. -/
def on (stream : String) : Emission → List Packet
  | .packet other content => if other = stream then [content] else []
  | .fault _ => []

variable {emission : Emission} {emissions : List Emission} {stream : String} {packet : Packet}

theorem mem_on : packet ∈ emission.on stream ↔ emission = .packet stream packet := by
  cases emission with
  | fault fault => simp [on]
  | packet other content =>
      by_cases same : other = stream
      · simp [on, same, eq_comm]
      · simp [on, same]

theorem stream?_emission (packet : ScriptedPacket) (timestamp : Timestamp) :
    (packet.emission timestamp).stream? = some packet.stream := by
  unfold ScriptedPacket.emission
  split <;> rfl

theorem on_eq_nil_of_not_mem (absent : stream ∉ emissions.filterMap stream?) :
    emissions.flatMap (on stream) = [] := by
  rw [List.flatMap_eq_nil_iff]
  intro emission member
  refine List.eq_nil_iff_forall_not_mem.mpr fun packet brought => absent ?_
  exact List.mem_filterMap.mpr ⟨emission, member, by rw [mem_on.mp brought]; rfl⟩

theorem length_on_le (once : (emissions.filterMap stream?).Nodup) (stream : String) :
    (emissions.flatMap (on stream)).length ≤ 1 := by
  induction emissions with
  | nil => exact Nat.zero_le 1
  | cons emission rest ih =>
      rw [List.flatMap_cons]
      cases emission with
      | fault fault =>
          rw [List.filterMap_cons] at once
          refine ih ?_
          split at once
          · exact once
          · exact (List.nodup_cons.mp once).2
      | packet other content =>
          obtain ⟨apart, others⟩ := List.nodup_cons.mp once
          by_cases same : other = stream
          · subst same
            simp [on, on_eq_nil_of_not_mem apart]
          · simpa [on, same] using ih others

end Emission

namespace Graph

variable {graph : Graph} {stream : String} {kind : PayloadKind} {content : Payload}

/-- A payload is in the script for the frame at an index of a run. -/
def Emits (graph : Graph) (stream : String) (index : Nat) (content : Payload) : Prop :=
  ⟨stream, .payload content⟩ ∈ graph.scripted index

/-- What a run brings to a stream, from a frame on. -/
def packetsOn (graph : Graph) (stream : String) (index : Nat) (frames : List StampedFrame) :
    List Packet :=
  (graph.emissionsFrom index frames).flatMap (Emission.on stream)

theorem packetsOn_append (index : Nat) (before later : List StampedFrame) :
    graph.packetsOn stream index (before ++ later) =
      graph.packetsOn stream index before ++
        graph.packetsOn stream (index + before.length) later := by
  rw [packetsOn, emissionsFrom_append, List.flatMap_append]
  rfl

theorem packetsOn_cons (index : Nat) (input : StampedFrame) (rest : List StampedFrame) :
    graph.packetsOn stream index (input :: rest) =
      graph.packetsOn stream index [input] ++ graph.packetsOn stream (index + 1) rest :=
  packetsOn_append index [input] rest

theorem packetsOn_singleton (index : Nat) (input : StampedFrame) :
    graph.packetsOn stream index [input] =
      (graph.emissions index input).flatMap (Emission.on stream) := by
  rw [packetsOn, emissionsFrom, emissionsFrom, List.append_nil]

theorem WellFormed.declares_scripted (wellFormed : graph.WellFormed) {index : Nat}
    {packet : ScriptedPacket} (member : packet ∈ graph.scripted index) :
    graph.Declares packet := by
  rw [scripted] at member
  cases found : graph.frames[index % graph.frames.length]? with
  | none => simp [found] at member
  | some packets =>
      rw [found] at member
      exact wellFormed.declared packets (List.mem_of_getElem? found) packet member

theorem WellFormed.nodup_scripted (wellFormed : graph.WellFormed) (index : Nat) :
    ((graph.scripted index).map (·.stream)).Nodup := by
  rw [scripted]
  cases found : graph.frames[index % graph.frames.length]? with
  | none => exact .nil
  | some packets => exact wellFormed.once_per_frame packets (List.mem_of_getElem? found)

theorem WellFormed.kind_of_emits (wellFormed : graph.WellFormed)
    (declared : graph.outputStreams.find? stream = some kind) {index : Nat}
    (emits : graph.Emits stream index content) : content.kind = kind := by
  obtain ⟨other, same, typed⟩ := wellFormed.declares_scripted emits
  cases same.symm.trans declared
  simpa [ScriptedValue.kind?] using typed

/-- A frame brings a packet or a fault to a stream, and not more than one of both. -/
theorem WellFormed.nodup_streams (wellFormed : graph.WellFormed) (index : Nat)
    (input : StampedFrame) :
    ((graph.emissions index input).filterMap Emission.stream?).Nodup := by
  have scripted : ((graph.scripted index).map (·.emission input.timestamp)).filterMap
      Emission.stream? = (graph.scripted index).map (·.stream) := by
    simp only [List.filterMap_map, Function.comp_def, Emission.stream?_emission,
      List.filterMap_eq_map']
  rw [emissions, List.filterMap_append, scripted]
  cases shown : graph.previewStream with
  | none => simpa using wellFormed.nodup_scripted index
  | some preview =>
      refine List.nodup_append.mpr ⟨wellFormed.nodup_scripted index, List.pairwise_singleton .., ?_⟩
      intro stream member other last
      obtain ⟨packet, known, rfl⟩ := List.mem_map.mp member
      obtain rfl : other = preview := by simpa [Emission.stream?] using last
      rintro rfl
      obtain ⟨kind, declared, _⟩ := wellFormed.declares_scripted known
      rw [(wellFormed.preview_apart packet.stream shown).2] at declared
      contradiction

theorem mem_packetsOn_singleton {index : Nat} {input : StampedFrame} {packet : Packet} :
    packet ∈ graph.packetsOn stream index [input] ↔
      .packet stream packet ∈ graph.emissions index input := by
  simp [packetsOn_singleton, List.mem_flatMap, Emission.mem_on]

theorem mem_emissions_of_emits {index : Nat} (emits : graph.Emits stream index content)
    (input : StampedFrame) :
    .packet stream ⟨input.timestamp, content⟩ ∈ graph.emissions index input :=
  List.mem_append_left _ (List.mem_map_of_mem emits)

theorem timestamp_of_mem_emissions {index : Nat} {input : StampedFrame} {packet : Packet}
    (member : .packet stream packet ∈ graph.emissions index input) :
    packet.timestamp = input.timestamp := by
  rcases List.mem_append.mp member with scripted | shown
  · obtain ⟨⟨other, value⟩, _, same⟩ := List.mem_map.mp scripted
    cases value with
    | error message => cases same
    | payload content =>
        cases same
        rfl
  · split at shown
    · cases List.mem_singleton.mp shown
      rfl
    · contradiction

/-- What a frame brings to a declared stream is scripted and of the declared kind; else it is
the frame itself, on the preview stream. -/
theorem WellFormed.mem_emissions (wellFormed : graph.WellFormed) {index : Nat}
    {input : StampedFrame} {packet : Packet}
    (member : .packet stream packet ∈ graph.emissions index input) :
    graph.outputStreams.find? stream = some packet.payload.kind ∧
        graph.Emits stream index packet.payload ∨
      graph.outputStreams.find? stream = none ∧ graph.previewStream = some stream ∧
        packet.payload = .image input.frame := by
  rcases List.mem_append.mp member with scripted | shown
  · obtain ⟨⟨other, value⟩, known, same⟩ := List.mem_map.mp scripted
    cases value with
    | error message => cases same
    | payload content =>
        cases same
        obtain ⟨kind, declared, typed⟩ := wellFormed.declares_scripted known
        have same : content.kind = kind := by simpa [ScriptedValue.kind?] using typed
        exact .inl ⟨same ▸ declared, known⟩
  · cases preview : graph.previewStream with
    | none => simp [preview] at shown
    | some name =>
        rw [preview] at shown
        cases List.mem_singleton.mp shown
        exact .inr ⟨(wellFormed.preview_apart _ preview).2, rfl, rfl⟩

theorem WellFormed.image_of_preview (wellFormed : graph.WellFormed)
    (shown : graph.previewStream = some stream) {index : Nat} {input : StampedFrame}
    {packet : Packet} (member : .packet stream packet ∈ graph.emissions index input) :
    packet.payload = .image input.frame := by
  rcases wellFormed.mem_emissions member with ⟨declared, _⟩ | ⟨_, _, image⟩
  · have undeclared := (wellFormed.preview_apart stream shown).2
    exact absurd (declared.symm.trans undeclared) (Option.some_ne_none _)
  · exact image

/-- The kind of packets that a stream has: the one that it is declared with, or images if it is
the preview stream. -/
def Carries (graph : Graph) (stream : String) (kind : PayloadKind) : Prop :=
  graph.outputStreams.find? stream = some kind ∧ kind ≠ .image ∨
    graph.outputStreams.find? stream = none ∧ graph.previewStream = some stream ∧ kind = .image

theorem WellFormed.carries (wellFormed : graph.WellFormed) {index : Nat} {input : StampedFrame}
    {packet : Packet} (member : .packet stream packet ∈ graph.emissions index input) :
    graph.Carries stream packet.payload.kind := by
  rcases wellFormed.mem_emissions member with ⟨declared, _⟩ | ⟨undeclared, shown, image⟩
  · refine .inl ⟨declared, fun image => ?_⟩
    rw [image] at declared
    exact wellFormed.no_image_output stream declared
  · exact .inr ⟨undeclared, shown, by rw [image]; rfl⟩

/-- A frame brings nothing to a stream, or one packet. -/
theorem WellFormed.packetsOn_cases (wellFormed : graph.WellFormed) (stream : String)
    (index : Nat) (input : StampedFrame) :
    graph.packetsOn stream index [input] = [] ∨
      ∃ content, graph.packetsOn stream index [input] = [⟨input.timestamp, content⟩] := by
  have most := Emission.length_on_le (wellFormed.nodup_streams index input) stream
  cases brought : graph.packetsOn stream index [input] with
  | nil => exact .inl rfl
  | cons packet rest =>
      rw [← packetsOn_singleton, brought, List.length_cons] at most
      obtain rfl := List.eq_nil_of_length_eq_zero (Nat.le_zero.mp (Nat.le_of_succ_le_succ most))
      have member : packet ∈ graph.packetsOn stream index [input] := by simp [brought]
      have stamped := timestamp_of_mem_emissions (mem_packetsOn_singleton.mp member)
      exact .inr ⟨packet.payload, by rw [← stamped]⟩

theorem WellFormed.packetsOn_of_emits (wellFormed : graph.WellFormed) {index : Nat}
    (emits : graph.Emits stream index content) (input : StampedFrame) :
    graph.packetsOn stream index [input] = [⟨input.timestamp, content⟩] := by
  have member := mem_packetsOn_singleton.mpr (mem_emissions_of_emits emits input)
  rcases wellFormed.packetsOn_cases stream index input with none | ⟨other, one⟩
  · rw [none] at member
    contradiction
  · rw [one, List.mem_singleton] at member
    rw [one, member]

/-- What the frame at an index brings stands among the packets of all frames. -/
theorem WellFormed.packetsOn_split (wellFormed : graph.WellFormed)
    {frames : List StampedFrame} {index : Nat} {input : StampedFrame}
    (found : frames[index]? = some input)
    (emits : graph.Emits stream index content) :
    ∃ later, graph.packetsOn stream 0 frames =
      graph.packetsOn stream 0 (frames.take index) ++ ⟨input.timestamp, content⟩ :: later := by
  obtain ⟨inside, same⟩ := List.getElem?_eq_some_iff.mp found
  refine ⟨graph.packetsOn stream (index + 1) (frames.drop (index + 1)), ?_⟩
  have position : 0 + (frames.take index).length = index := by
    rw [List.length_take, Nat.zero_add, Nat.min_eq_left (Nat.le_of_lt inside)]
  calc graph.packetsOn stream 0 frames
      = graph.packetsOn stream 0 (frames.take index ++ input :: frames.drop (index + 1)) := by
        rw [← same, ← List.drop_eq_getElem_cons inside, List.take_append_drop]
    _ = _ := by
        rw [packetsOn_append, position, packetsOn_cons,
          wellFormed.packetsOn_of_emits emits]
        rfl

theorem mem_packetsOn {index : Nat} {frames : List StampedFrame} {packet : Packet}
    (member : packet ∈ graph.packetsOn stream index frames) :
    ∃ position, ∃ input ∈ frames, .packet stream packet ∈ graph.emissions position input := by
  induction frames generalizing index with
  | nil => contradiction
  | cons input rest ih =>
      rw [packetsOn_cons, List.mem_append] at member
      rcases member with here | later
      · exact ⟨index, input, List.mem_cons_self .., mem_packetsOn_singleton.mp here⟩
      · obtain ⟨position, other, known, brought⟩ := ih later
        exact ⟨position, other, List.mem_cons_of_mem _ known, brought⟩

theorem timestamp_of_mem_packetsOn {index : Nat} {frames : List StampedFrame} {packet : Packet}
    (member : packet ∈ graph.packetsOn stream index frames) :
    ∃ input ∈ frames, packet.timestamp = input.timestamp := by
  obtain ⟨_, input, known, brought⟩ := mem_packetsOn member
  exact ⟨input, known, timestamp_of_mem_emissions brought⟩

theorem WellFormed.kind_of_mem_packetsOn (wellFormed : graph.WellFormed)
    (declared : graph.outputStreams.find? stream = some kind) {index : Nat}
    {frames : List StampedFrame} {packet : Packet}
    (member : packet ∈ graph.packetsOn stream index frames) : packet.payload.kind = kind := by
  obtain ⟨_, _, _, brought⟩ := mem_packetsOn member
  rcases wellFormed.mem_emissions brought with ⟨same, _⟩ | ⟨undeclared, _⟩
  · exact Option.some.inj (same.symm.trans declared)
  · exact absurd (declared.symm.trans undeclared) (Option.some_ne_none _)

theorem WellFormed.increasing_packetsOn (wellFormed : graph.WellFormed) (stream : String)
    {frames : List StampedFrame}
    (ordered : frames.Pairwise fun earlier later => earlier.timestamp < later.timestamp)
    (index : Nat) : Increasing (graph.packetsOn stream index frames) := by
  induction frames generalizing index with
  | nil => exact .nil
  | cons input rest ih =>
      obtain ⟨first, others⟩ := List.pairwise_cons.mp ordered
      rw [packetsOn_cons]
      rcases wellFormed.packetsOn_cases stream index input with none | ⟨content, one⟩
      · rw [none]
        exact ih others (index + 1)
      · rw [one, List.singleton_append]
        refine List.pairwise_cons.mpr ⟨fun packet member => ?_, ih others (index + 1)⟩
        obtain ⟨other, known, same⟩ := timestamp_of_mem_packetsOn member
        rw [same]
        exact first other known

theorem WellFormed.length_packetsOn_le (wellFormed : graph.WellFormed) (stream : String)
    (index : Nat) (frames : List StampedFrame) :
    (graph.packetsOn stream index frames).length ≤ frames.length := by
  induction frames generalizing index with
  | nil => exact Nat.le_refl _
  | cons input rest ih =>
      have later := ih (index + 1)
      rw [packetsOn_cons, List.length_append, List.length_cons]
      rcases wellFormed.packetsOn_cases stream index input with none | ⟨content, one⟩
      · rw [none, List.length_nil]
        omega
      · rw [one, List.length_singleton]
        omega

end Graph

end FrameFlow
