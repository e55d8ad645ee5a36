import FrameFlow.Session.Gate

/-!
A poll of a gate has two halves. Packets may come, and queues may be closed, between two
polls and between the halves of one. What such a poll answers, if anything is there for it,
it would also have answered with everything there from the start.
-/

namespace FrameFlow

/-- Whether a poll answered that nothing came yet. -/
def saysNothing : Except SessionError (PollResult α) → Bool
  | .ok .empty => true
  | _ => false

theorem saysNothing_iff {answer : Except SessionError (PollResult α)} :
    saysNothing answer = true ↔ answer = .ok .empty := by
  rcases answer with error | (value | _ | _) <;> simp [saysNothing]

namespace Gate

/-- A gate after more packets have come, and with nothing to come after them. -/
def completed (gate : Gate) (presences payloads : List Packet) : Gate :=
  { gate with
    presence := ⟨gate.presence.packets ++ presences, false⟩
    payload := ⟨gate.payload.packets ++ payloads, false⟩ }

/-- The queue to be read next is empty, and not closed. -/
def IsBare (gate : Gate) : Prop :=
  match gate.pending with
  | none => gate.presence = ⟨[], true⟩
  | some _ => gate.payload = ⟨[], true⟩

/-- Nothing more comes into a queue that is closed. -/
structure MayGet (gate : Gate) (presences payloads : List Packet) : Prop where
  presences : gate.presence.isOpen = false → presences = []
  payloads : gate.payload.isOpen = false → payloads = []

def polls : Nat → Gate → List (Except SessionError (PollResult Gated))
  | 0, _ => []
  | number + 1, gate => gate.poll.1 :: polls number gate.poll.2

/-- Polls of one gate hear these answers, and after them what polls of another one hear. -/
def Yields (full : Gate) (heard : List (Except SessionError (PollResult Gated))) (left : Gate) :
    Prop :=
  ∀ number, full.polls (heard.length + number) = heard ++ left.polls number

namespace Yields

variable {full left next : Gate} {heard : List (Except SessionError (PollResult Gated))}

theorem refl (gate : Gate) : gate.Yields [] gate :=
  fun number => congrArg (polls · gate) (Nat.zero_add number)

theorem same (yields : full.Yields heard left) (same : next.poll = left.poll) :
    full.Yields heard next := by
  intro number
  rw [yields number]
  cases number with
  | zero => rfl
  | succ number => simp only [polls, same]

theorem more {answer : Except SessionError (PollResult Gated)}
    (yields : full.Yields heard left) (polled : left.poll = (answer, next)) :
    full.Yields (heard ++ [answer]) next := by
  intro number
  have more : left.polls (number + 1) = answer :: next.polls number := by
    simp only [polls, polled]
  rw [List.length_append, List.length_singleton, Nat.add_assoc, Nat.add_comm 1 number, yields,
    more, List.append_assoc, List.singleton_append]

theorem heard_eq (yields : full.Yields heard left) : heard = full.polls heard.length := by
  have all := yields 0
  rw [Nat.add_zero, polls, List.append_nil] at all
  exact all.symm

end Yields

theorem takePayload_pending (gate : Gate) (due : Timestamp) :
    takePayload { gate with pending := some due } due = gate.takePayload due := by
  simp only [takePayload]

/-- A poll, opened: the payload that is due, or the next presence and the payload after it. -/
theorem poll_eq (gate : Gate) :
    gate.poll =
      match gate.pending with
      | some due => gate.takePayload due
      | none =>
          match gate.presence.take with
          | (.empty, _) => (.ok .empty, gate)
          | (.closed, _) => (.ok .closed, gate)
          | (.ready packet, presence) =>
              let taken := { gate with presence }
              match packet.payload with
              | .presence true => taken.takePayload packet.timestamp
              | .presence false => (.ok (.ready (.absent packet.timestamp)), taken)
              | other =>
                  (.error (.unexpectedPayload gate.presenceStream .presence other.kind), taken) := by
  cases due : gate.pending with
  | some timestamp => simp only [poll, readPresence, readPayload, due]
  | none =>
      simp only [poll, readPresence, due]
      rcases gate.presence.take with ⟨packet | _ | _, presence⟩
      · obtain ⟨timestamp, content⟩ := packet
        cases content with
        | presence isPresent =>
            cases isPresent with
            | true => exact takePayload_pending { gate with presence } timestamp
            | false => rfl
        | _ => rfl
      · rfl
      · rfl

variable {gate : Gate} {presences payloads : List Packet}

theorem readPresence_completed (may : gate.MayGet presences payloads) :
    match gate.readPresence with
    | (some answer, after) => after.MayGet presences payloads ∧
        (answer = .ok .empty ∧ after = gate ∨
          (gate.completed presences payloads).poll =
            (answer, after.completed presences payloads))
    | (none, after) => after.MayGet presences payloads ∧ after.pending.isSome = true ∧
        (after.completed presences payloads).poll = (gate.completed presences payloads).poll := by
  obtain ⟨presenceStream, payloadStream, ⟨waiting, isOpen⟩, payload, pending⟩ := gate
  cases pending with
  | some due => exact ⟨may, rfl, rfl⟩
  | none =>
      cases waiting with
      | nil =>
          cases isOpen with
          | true => exact ⟨may, .inl ⟨rfl, rfl⟩⟩
          | false =>
              refine ⟨may, .inr ?_⟩
              simp only [completed, may.presences rfl]
              rfl
      | cons packet rest =>
          obtain ⟨timestamp, content⟩ := packet
          have still : MayGet ⟨presenceStream, payloadStream, ⟨rest, isOpen⟩, payload, none⟩
              presences payloads := ⟨may.presences, may.payloads⟩
          cases content with
          | presence isPresent =>
              cases isPresent with
              | true =>
                  let taken : Gate := ⟨presenceStream, payloadStream, ⟨rest, isOpen⟩, payload, none⟩
                  exact ⟨⟨may.presences, may.payloads⟩, rfl,
                    takePayload_pending (taken.completed presences payloads) timestamp⟩
              | false => exact ⟨still, .inr rfl⟩
          | _ => exact ⟨still, .inr rfl⟩

theorem readPayload_completed (may : gate.MayGet presences payloads)
    (due : gate.pending.isSome = true) :
    gate.readPayload.2.MayGet presences payloads ∧
      (gate.readPayload = (.ok .empty, gate) ∨
        (gate.completed presences payloads).poll =
          (gate.readPayload.1, gate.readPayload.2.completed presences payloads)) := by
  obtain ⟨presenceStream, payloadStream, presence, ⟨waiting, isOpen⟩, pending⟩ := gate
  obtain ⟨timestamp, rfl⟩ := Option.isSome_iff_exists.mp due
  cases waiting with
  | nil =>
      cases isOpen with
      | true => exact ⟨may, .inl rfl⟩
      | false =>
          refine ⟨⟨may.presences, may.payloads⟩, .inr ?_⟩
          simp only [completed, may.payloads rfl]
          rfl
  | cons packet rest =>
      simp only [completed, poll, readPresence, readPayload, takePayload, Inbox.take,
        List.cons_append]
      split <;> exact ⟨⟨may.presences, may.payloads⟩, .inr rfl⟩

/-- A poll that hears nothing may have read a presence; any other one hears what it would
hear later as well. -/
theorem poll_completed (may : gate.MayGet presences payloads) :
    gate.poll.2.MayGet presences payloads ∧
      (gate.poll.1 = .ok .empty ∧
          (gate.poll.2.completed presences payloads).poll =
            (gate.completed presences payloads).poll ∨
        (gate.completed presences payloads).poll =
          (gate.poll.1, gate.poll.2.completed presences payloads)) := by
  have first := readPresence_completed may
  have halves : gate.poll = match gate.readPresence with
    | (some answer, after) => (answer, after)
    | (none, after) => after.readPayload := rfl
  rw [halves]
  split at first
  · rename_i answer after read
    obtain ⟨still, ⟨rfl, rfl⟩ | found⟩ := first
    · exact ⟨still, .inl ⟨rfl, rfl⟩⟩
    · exact ⟨still, .inr found⟩
  · rename_i after read
    obtain ⟨between, due, same⟩ := first
    obtain ⟨still, nothing | found⟩ := readPayload_completed between due
    · rw [nothing]
      exact ⟨between, .inl ⟨rfl, same⟩⟩
    · exact ⟨still, .inr (same.symm.trans found)⟩

end Gate

end FrameFlow
