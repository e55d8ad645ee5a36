import FrameFlow.Proofs.Session.Books
import FrameFlow.Proofs.Session.Seating

/-!
What one listener hears of all that a session tells: the packets of his binding, and the faults
that his binding makes of packets. Nothing of that depends on what else is bound.
-/

namespace FrameFlow

namespace Event

/-- Who is told of a packet. -/
def listener? : Event → Option Listener
  | .output listener .. | .packet listener .. | .preview listener _ => some listener
  | .failure .. => none

/-- The stream of a packet that its binding could not use. -/
def refused? : Event → Option String
  | .failure _ (.engineRuntime fault) =>
      if fault.status.code = .invalidArgument then fault.stream else none
  | _ => none

/-- A fault that the graph reported, and not one of a packet that could not be used. -/
def isScripted : Event → Bool
  | .failure _ (.engineRuntime fault) => fault.status.code != .invalidArgument
  | _ => false

end Event

namespace Outlets

variable {stream : String} {packet : Packet} {binding : Binding} {event : Event}

theorem heard_of_told (member : event ∈ told stream packet binding) :
    event.listener? = binding.listener? ∧ event.refused? = none ∧ event.isScripted = false := by
  cases binding with
  | output task slot listener =>
      rw [told] at member
      split at member
      · rw [List.mem_singleton.mp member]
        exact ⟨rfl, rfl, rfl⟩
      · contradiction
  | packets listener =>
      rw [List.mem_singleton.mp member]
      exact ⟨rfl, rfl, rfl⟩
  | preview listener =>
      rw [told] at member
      split at member
      · rw [List.mem_singleton.mp member]
        exact ⟨rfl, rfl, rfl⟩
      · contradiction
  | latest place | poller channel => contradiction

end Outlets

theorem Binding.code_of_refusal {binding : Binding} {stream : String} {payload : Payload}
    {status : Status} (refused : binding.refusal? stream payload = some status) :
    status.code = .invalidArgument := by
  cases binding with
  | output task slot listener =>
      rw [refusal?] at refused
      split at refused <;> cases refused
      rfl
  | preview listener | latest place =>
      simp only [refusal?] at refused
      split at refused <;> cases refused
      rfl
  | packets listener | poller channel => contradiction

namespace Emission

variable {bindings : StreamMap Binding} {errors : Listener} {stream : String} {packet : Packet}
  {binding : Binding} {event : Event}

theorem entry_of_unbound (unbound : bindings.find? stream = none) :
    (Emission.packet stream packet).entry bindings = {} := by
  simp only [entry, unbound]

/-- Whatever is told of a packet is told for the binding of its stream. -/
theorem heard_of_packet (bound : bindings.find? stream = some binding)
    (member : event ∈ ((Emission.packet stream packet).entry bindings).events (some errors)) :
    event.isScripted = false ∧
      (event.listener? = binding.listener? ∧ event.refused? = none ∨
        event.listener? = none ∧ event.refused? = some stream) := by
  simp only [entry, bound, Entry.events] at member
  rcases List.mem_append.mp member with told | faulty
  · obtain ⟨listener, unrefused, unscripted⟩ := Outlets.heard_of_told told
    exact ⟨unscripted, .inl ⟨listener, unrefused⟩⟩
  · cases refused : binding.refusal? stream packet.payload with
    | none =>
        rw [refused] at faulty
        contradiction
    | some status =>
        rw [refused] at faulty
        have code := Binding.code_of_refusal refused
        obtain rfl : event = .failure errors
            (.engineRuntime ⟨some stream, some packet.timestamp, status⟩) :=
          List.mem_singleton.mp faulty
        exact ⟨by simp [Event.isScripted, code], .inr ⟨rfl, by simp [Event.refused?, code]⟩⟩

/-- The faults of a script are told whatever is bound. -/
theorem filter_isScripted (emission : Emission) (bindings : StreamMap Binding)
    (errors : Listener) :
    ((emission.entry bindings).events (some errors)).filter Event.isScripted =
      ((emission.entry .empty).events (some errors)).filter Event.isScripted := by
  cases emission with
  | fault fault => rfl
  | packet stream packet =>
      rw [entry_of_unbound (show StreamMap.empty.find? stream = none from rfl)]
      cases found : bindings.find? stream with
      | none => rw [entry_of_unbound found]
      | some binding =>
          refine List.filter_eq_nil_iff.mpr fun event member => ?_
          rw [(heard_of_packet found member).1]
          exact Bool.false_ne_true

end Emission

namespace Wish

variable {wish : Wish} {task : Task} {previewStream : String} {bindings : StreamMap Binding}

/-- Whether an event is for one who wants to be told: a packet for him, or a fault that his
binding made of a packet. -/
def hears (task : Task) (previewStream : String) (wish : Wish) (event : Event) : Bool :=
  match wish.telling? task previewStream with
  | some (stream, binding) =>
      event.listener? == binding.listener? || event.refused? == some stream
  | none => false

/-- The bindings of one who has a session to himself. -/
def alone (task : Task) (previewStream : String) (wish : Wish) : StreamMap Binding :=
  match wish.telling? task previewStream with
  | some (stream, binding) => StreamMap.empty.insert stream binding
  | none => .empty

/-- What a listener hears is what he would hear if nothing else were bound. -/
theorem filter_hears
    (told : ∀ stream binding, wish.telling? task previewStream = some (stream, binding) →
      bindings.find? stream = some binding ∧ ∀ other telling,
        bindings.find? other = some telling → telling.listener? = binding.listener? →
          other = stream)
    (emission : Emission) (errors : Listener) :
    ((emission.entry bindings).events (some errors)).filter (wish.hears task previewStream) =
      ((emission.entry (wish.alone task previewStream)).events (some errors)).filter
        (wish.hears task previewStream) := by
  cases emission with
  | fault fault => rfl
  | packet other packet =>
      cases telling : wish.telling? task previewStream with
      | none =>
          have deaf : wish.hears task previewStream = fun _ => false := by
            funext event
            rw [hears, telling]
          rw [deaf, List.filter_eq_nil_iff.mpr fun _ _ => Bool.false_ne_true,
            List.filter_eq_nil_iff.mpr fun _ _ => Bool.false_ne_true]
      | some entry =>
          obtain ⟨stream, binding⟩ := entry
          obtain ⟨own, only⟩ := told stream binding telling
          have single : (wish.alone task previewStream).find? other =
              if other = stream then some binding else none := by
            rw [alone, telling]
            exact StreamMap.find?_insert ..
          by_cases same : other = stream
          · subst same
            rw [if_pos rfl] at single
            simp only [Emission.entry, own, single]
          · rw [if_neg same] at single
            rw [Emission.entry_of_unbound single]
            cases found : bindings.find? other with
            | none => rw [Emission.entry_of_unbound found]
            | some known =>
                refine List.filter_eq_nil_iff.mpr fun event member heard => ?_
                have named : binding.listener? ≠ none := by
                  obtain ⟨_, listener, _, some⟩ := mem_of_telling telling
                  rw [listener, some]
                  exact Option.some_ne_none _
                rw [hears, telling, Bool.or_eq_true, beq_iff_eq, beq_iff_eq] at heard
                rcases (Emission.heard_of_packet found member).2 with ⟨who, no⟩ | ⟨nobody, what⟩
                · rcases heard with alike | refused
                  · exact same (only other known found (who.symm.trans alike))
                  · have impossible := no.symm.trans refused
                    contradiction
                · rcases heard with alike | refused
                  · exact named (alike.symm.trans nobody)
                  · exact same (Option.some.inj (what.symm.trans refused))

end Wish

end FrameFlow
