import FrameFlow.Proofs.Session.Pairing

/-!
Scripts whose payloads go with their presences, frame by frame. A gate that polls such
streams observes every presence, and every payload with its own one.
-/

namespace FrameFlow

namespace Gated

def timestamp : Gated → Timestamp
  | .present packet => packet.timestamp
  | .absent timestamp => timestamp

def packet? : Gated → Option Packet
  | .present packet => some packet
  | .absent _ => none

end Gated

namespace Graph

/-- A stream carries presences, and a frame brings a payload to another stream just if it
brings a true presence to the first one; which of both comes first does not matter. -/
structure Pairs (graph : Graph) (presence payload : String) : Prop where
  apart : presence ≠ payload
  signals : ∀ index input, ∀ packet ∈ graph.packetsOn presence index [input],
    ∃ isPresent, packet.payload = .presence isPresent
  paired : ∀ index input, graph.packetsOn payload index [input] ≠ [] ↔
    ∃ packet ∈ graph.packetsOn presence index [input], packet.signals = true

variable {graph : Graph} {presence payload : String}

/-- On declared streams it is enough to look at the script. -/
theorem WellFormed.pairs_of_script (wellFormed : graph.WellFormed) {kind : PayloadKind}
    (apart : presence ≠ payload)
    (signals : graph.outputStreams.find? presence = some .presence)
    (pays : graph.outputStreams.find? payload = some kind)
    (paired : ∀ index, (∃ content, graph.Emits payload index content) ↔
      graph.Emits presence index (.presence true)) : graph.Pairs presence payload := by
  have scripted {stream : String} {kind : PayloadKind} {index : Nat} {input : StampedFrame}
      {packet : Packet} (declared : graph.outputStreams.find? stream = some kind)
      (member : packet ∈ graph.packetsOn stream index [input]) :
      packet.payload.kind = kind ∧ graph.Emits stream index packet.payload := by
    rcases wellFormed.mem_emissions (mem_packetsOn_singleton.mp member) with
      ⟨same, emits⟩ | ⟨undeclared, _⟩
    · exact ⟨Option.some.inj (same.symm.trans declared), emits⟩
    · rw [declared] at undeclared
      contradiction
  refine ⟨apart, ?_, ?_⟩
  · intro index input packet member
    obtain ⟨kind, _⟩ := scripted signals member
    cases content : packet.payload <;> simp [content, Payload.kind] at kind
    exact ⟨_, rfl⟩
  · intro index input
    constructor
    · intro brought
      obtain ⟨packet, member⟩ := List.exists_mem_of_ne_nil _ brought
      have present := (paired index).mp ⟨_, (scripted pays member).2⟩
      rw [wellFormed.packetsOn_of_emits present input]
      exact ⟨_, List.mem_singleton_self _, rfl⟩
    · rintro ⟨packet, member, present⟩
      have emits := (scripted signals member).2
      rw [of_decide_eq_true present] at emits
      obtain ⟨content, pays⟩ := (paired index).mpr emits
      rw [wellFormed.packetsOn_of_emits pays input]
      exact List.cons_ne_nil _ _

namespace Pairs

theorem frame_cases (pairs : graph.Pairs presence payload) (wellFormed : graph.WellFormed)
    (index : Nat) (input : StampedFrame) :
    graph.packetsOn payload index [input] = [] ∧
        (graph.packetsOn presence index [input] = [] ∨
          graph.packetsOn presence index [input] = [⟨input.timestamp, .presence false⟩]) ∨
      ∃ content, graph.packetsOn payload index [input] = [⟨input.timestamp, content⟩] ∧
        graph.packetsOn presence index [input] = [⟨input.timestamp, .presence true⟩] := by
  have paired := pairs.paired index input
  rcases wellFormed.packetsOn_cases payload index input with unpaid | ⟨content, paid⟩
  · refine .inl ⟨unpaid, ?_⟩
    rcases wellFormed.packetsOn_cases presence index input with none | ⟨other, one⟩
    · exact .inl none
    · have member : ⟨input.timestamp, other⟩ ∈ graph.packetsOn presence index [input] := by
        rw [one]
        exact List.mem_singleton_self _
      obtain ⟨isPresent, same⟩ := pairs.signals index input _ member
      obtain rfl : other = .presence isPresent := same
      cases isPresent with
      | false => exact .inr one
      | true => exact absurd unpaid (paired.mpr ⟨_, member, rfl⟩)
  · refine .inr ⟨content, paid, ?_⟩
    obtain ⟨packet, member, present⟩ := paired.mp (by rw [paid]; exact List.cons_ne_nil _ _)
    rcases wellFormed.packetsOn_cases presence index input with none | ⟨other, one⟩
    · rw [none] at member
      contradiction
    · rw [one, List.mem_singleton] at member
      subst member
      rw [one, show other = _ from of_decide_eq_true present]

/-- A frame brings as many payloads as true presences. -/
theorem countP_signals (pairs : graph.Pairs presence payload) (wellFormed : graph.WellFormed)
    (index : Nat) (frames : List StampedFrame) :
    (graph.packetsOn presence index frames).countP Packet.signals =
      (graph.packetsOn payload index frames).length := by
  induction frames generalizing index with
  | nil => rfl
  | cons input rest ih =>
      rw [packetsOn_cons index input rest, List.countP_append, packetsOn_cons index input rest,
        List.length_append, ih]
      rcases pairs.frame_cases wellFormed index input with ⟨unpaid, absent⟩ | ⟨content, paid, one⟩
      · rcases absent with none | one
        · rw [unpaid, none]
          rfl
        · rw [unpaid, one]
          rfl
      · rw [paid, one]
        rfl

/-- Polls of a gate that has all packets observe every presence once, in order: the true
ones with all payloads, each at its own timestamp. -/
theorem exists_observed (pairs : graph.Pairs presence payload) (wellFormed : graph.WellFormed)
    (index : Nat) (frames : List StampedFrame) (presenceStream payloadStream : String) :
    let presences := graph.packetsOn presence index frames
    let payloads := graph.packetsOn payload index frames
    ∃ observed : List Gated,
      Gate.judged presenceStream payloadStream presences payloads =
          observed.map (fun gated => .ok (.ready gated)) ∧
        observed.map Gated.timestamp = presences.map (·.timestamp) ∧
        observed.map (·.packet?.isSome) = presences.map Packet.signals ∧
        observed.filterMap Gated.packet? = payloads := by
  induction frames generalizing index with
  | nil => exact ⟨[], rfl, rfl, rfl, rfl⟩
  | cons input rest ih =>
      obtain ⟨observed, judged, timestamps, present, paid⟩ := ih (index + 1)
      intro presences payloads
      have presences_eq : presences = _ := packetsOn_cons index input rest
      have payloads_eq : payloads = _ := packetsOn_cons index input rest
      rw [presences_eq, payloads_eq]
      rcases pairs.frame_cases wellFormed index input with
        ⟨none, silent | one⟩ | ⟨content, pay, one⟩
      · rw [none, silent]
        exact ⟨observed, judged, timestamps, present, paid⟩
      · rw [none, one]
        refine ⟨.absent input.timestamp :: observed, ?_, ?_, ?_, paid⟩
        · exact congrArg (_ :: ·) judged
        · exact congrArg (_ :: ·) timestamps
        · exact congrArg (_ :: ·) present
      · rw [pay, one]
        refine ⟨.present ⟨input.timestamp, content⟩ :: observed, ?_, ?_, ?_, ?_⟩
        · have first : Gate.paired payloadStream input.timestamp [⟨input.timestamp, content⟩] =
              .ok (.ready (.present ⟨input.timestamp, content⟩)) := if_pos rfl
          simp only [List.singleton_append, Gate.judged, List.tail_cons, judged, List.map_cons]
          exact congrArg (· :: _) first
        · exact congrArg (_ :: ·) timestamps
        · exact congrArg (_ :: ·) present
        · exact congrArg (_ :: ·) paid

end Pairs

end Graph

end FrameFlow
