import FrameFlow.Graph.Decoding

/-!
A graph without a violation is well-formed. So a script emits on declared streams only, at
most once a frame on each of them, and what it emits is of the declared kind.
-/

namespace FrameFlow

deriving instance DecidableEq for StreamMap

deriving instance DecidableEq for Graph

namespace Graph

variable {graph : Graph} {frame : Nat}

theorem parse_of_toOption {text : String} (read : (Graph.parse text).toOption = some graph) :
    Graph.parse text = .ok graph := by
  cases parsed : Graph.parse text with
  | ok other =>
      rw [parsed] at read
      exact congrArg Except.ok (Option.some.inj read)
  | error violation =>
      rw [parsed] at read
      contradiction

/-- A packet is an error, or of the kind that its stream is declared with. -/
def Declares (graph : Graph) (packet : ScriptedPacket) : Prop :=
  ∃ kind, graph.outputStreams.find? packet.stream = some kind ∧
    (packet.value.kind? = none ∨ packet.value.kind? = some kind)

theorem packetViolation?_eq_none_iff {seen : List String} {packet : ScriptedPacket} :
    graph.packetViolation? frame seen packet = none ↔
      packet.stream ∉ seen ∧ graph.Declares packet := by
  unfold packetViolation? Declares
  cases declared : graph.outputStreams.find? packet.stream with
  | none => simp
  | some kind =>
      by_cases repeated : packet.stream ∈ seen
      · simp [repeated]
      · cases packet.value.kind? with
        | none => simp [repeated]
        | some found => by_cases same : found = kind <;> simp [repeated, same]

theorem frameViolation?_eq_none_iff {seen : List String} {packets : List ScriptedPacket} :
    graph.frameViolation? frame seen packets = none ↔
      (∀ packet ∈ packets, packet.stream ∉ seen ∧ graph.Declares packet) ∧
        (packets.map (·.stream)).Nodup := by
  induction packets generalizing seen with
  | nil => simp [frameViolation?]
  | cons packet rest ih =>
      rw [frameViolation?, Option.or_eq_none_iff, packetViolation?_eq_none_iff, ih,
        List.forall_mem_cons, List.map_cons, List.nodup_cons]
      simp only [List.mem_cons, not_or, List.mem_map]
      constructor
      · rintro ⟨first, others, distinct⟩
        refine ⟨⟨first, fun other member => ⟨(others other member).1.2, (others other member).2⟩⟩,
          ?_, distinct⟩
        rintro ⟨other, member, same⟩
        exact (others other member).1.1 same
      · rintro ⟨⟨first, others⟩, apart, distinct⟩
        exact ⟨first, fun other member => ⟨⟨fun same => apart ⟨other, member, same⟩,
          (others other member).1⟩, (others other member).2⟩, distinct⟩

theorem framesViolation?_eq_none_iff {frames : List (List ScriptedPacket)} :
    graph.framesViolation? frame frames = none ↔
      ∀ packets ∈ frames, (packets.map (·.stream)).Nodup ∧
        ∀ packet ∈ packets, graph.Declares packet := by
  induction frames generalizing frame with
  | nil => simp [framesViolation?]
  | cons packets rest ih =>
      simp only [framesViolation?, Option.or_eq_none_iff, frameViolation?_eq_none_iff, ih,
        List.forall_mem_cons, List.not_mem_nil, not_false_eq_true, true_and]
      rw [and_comm (a := ∀ _, _)]

theorem declarationViolation?_eq_none {graph : Graph}
    (accepted : graph.declarationViolation? = none) :
    isBlankName graph.inputStream = false ∧
      graph.outputStreams.find? graph.inputStream = none ∧
      (∀ preview, graph.previewStream = some preview →
        preview ≠ graph.inputStream ∧ graph.outputStreams.find? preview = none) ∧
      ∀ stream, graph.outputStreams.find? stream ≠ some .image := by
  unfold declarationViolation? at accepted
  split at accepted
  · contradiction
  · rename_i named
    split at accepted
    · contradiction
    · rename_i apart
      simp only [Option.or_eq_none_iff, Option.map_eq_none_iff] at accepted
      obtain ⟨collision, image⟩ := accepted
      refine ⟨by simpa using named, by simpa [StreamMap.contains] using apart, ?_, ?_⟩
      · intro preview shown
        simpa [shown, StreamMap.contains] using collision
      · intro stream declared
        obtain ⟨entry, found, same⟩ := Option.map_eq_some_iff.mp declared
        have unlike := List.find?_eq_none.mp image entry (List.mem_of_find?_eq_some found)
        simp [same] at unlike

theorem wellFormed_of_accepted (accepted : graph.violation? = none) : graph.WellFormed := by
  rw [violation?, Option.or_eq_none_iff, framesViolation?_eq_none_iff] at accepted
  obtain ⟨declared, frames⟩ := accepted
  obtain ⟨named, input, preview, image⟩ := declarationViolation?_eq_none declared
  exact ⟨named, input, preview, image, fun packets member => (frames packets member).1,
    fun packets member => (frames packets member).2⟩

theorem wellFormed_of_parse {text : String} (parsed : Graph.parse text = .ok graph) :
    graph.WellFormed := by
  unfold Graph.parse Graph.check at parsed
  split at parsed
  · contradiction
  · split at parsed
    · contradiction
    · rename_i accepted
      cases parsed
      exact wellFormed_of_accepted accepted

end Graph

end FrameFlow
