import FrameFlow.Proofs.Session.Traffic

/-!
Polls of gates, and the moves that a poll is made of: a presence is taken, or the payload that
is due. A closed gate always answers, and packets still to come make no difference to an answer.
-/

namespace FrameFlow

theorem Inbox.isOpen_take (inbox : Inbox) : inbox.take.2.isOpen = inbox.isOpen := by
  unfold take
  split <;> rfl

namespace Gate

variable {gate : Gate} {presences payloads : List Packet}

theorem streams_takePayload (gate : Gate) (due : Timestamp) :
    (gate.takePayload due).2.presenceStream = gate.presenceStream ∧
      (gate.takePayload due).2.payloadStream = gate.payloadStream := by
  unfold takePayload
  repeat' split
  all_goals exact ⟨rfl, rfl⟩

theorem frame_takePayload (gate : Gate) (due : Timestamp) :
    (gate.takePayload due).2.presence = gate.presence ∧
      (gate.takePayload due).2.payload.isOpen = gate.payload.isOpen := by
  have still := gate.payload.isOpen_take
  unfold takePayload
  split
  · rename_i taken
    rw [taken] at still
    split <;> exact ⟨rfl, still⟩
  · exact ⟨rfl, rfl⟩
  · exact ⟨rfl, rfl⟩

theorem frame_readPresence (gate : Gate) :
    gate.readPresence.2.presence.isOpen = gate.presence.isOpen ∧
      gate.readPresence.2.payload = gate.payload := by
  have still := gate.presence.isOpen_take
  unfold readPresence
  split
  · exact ⟨rfl, rfl⟩
  · split
    · exact ⟨rfl, rfl⟩
    · exact ⟨rfl, rfl⟩
    · rename_i taken
      rw [taken] at still
      dsimp only
      split <;> exact ⟨still, rfl⟩

/-- A presence that does not answer is a true one, or was taken before. -/
theorem readPresence_pending {after : Gate} (read : gate.readPresence = (none, after)) :
    after.pending.isSome = true := by
  unfold readPresence at read
  split at read
  · rename_i due
    cases read
    rw [due]
    rfl
  · split at read
    · cases read
    · cases read
    · dsimp only at read
      split at read <;> cases read
      rfl

theorem frame_readPayload (gate : Gate) :
    gate.readPayload.2.presence = gate.presence ∧
      gate.readPayload.2.payload.isOpen = gate.payload.isOpen := by
  unfold readPayload
  split
  · exact gate.frame_takePayload _
  · exact ⟨rfl, rfl⟩

/-- A poll neither opens nor closes a queue. -/
theorem isOpen_poll (gate : Gate) :
    gate.poll.2.presence.isOpen = gate.presence.isOpen ∧
      gate.poll.2.payload.isOpen = gate.payload.isOpen := by
  obtain ⟨still, unread⟩ := gate.frame_readPresence
  unfold poll
  split
  · rename_i answer after found
    rw [found] at still unread
    exact ⟨still, congrArg Inbox.isOpen unread⟩
  · rename_i after found
    rw [found] at still unread
    obtain ⟨same, opened⟩ := after.frame_readPayload
    exact ⟨(congrArg Inbox.isOpen same).trans still,
      opened.trans (congrArg Inbox.isOpen unread)⟩

theorem isOpen_read (gate : Gate) :
    gate.read.2.presence.isOpen = gate.presence.isOpen ∧
      gate.read.2.payload.isOpen = gate.payload.isOpen := by
  unfold read
  split
  · exact ⟨gate.frame_readPresence.1, congrArg Inbox.isOpen gate.frame_readPresence.2⟩
  · exact ⟨congrArg Inbox.isOpen gate.frame_readPayload.1, gate.frame_readPayload.2⟩

theorem streams_poll (gate : Gate) :
    gate.poll.2.presenceStream = gate.presenceStream ∧
      gate.poll.2.payloadStream = gate.payloadStream := by
  rw [poll_eq]
  repeat' split
  all_goals first | exact ⟨rfl, rfl⟩ | exact streams_takePayload ..

theorem saysNothing_takePayload (closed : gate.payload.isOpen = false) (due : Timestamp) :
    saysNothing (gate.takePayload due).1 = false := by
  rw [takePayload_abandoned closed]
  exact saysNothing_paired ..

/-- A gate with closed queues always says something. -/
theorem saysNothing_poll (presenceClosed : gate.presence.isOpen = false)
    (payloadClosed : gate.payload.isOpen = false) : saysNothing gate.poll.1 = false := by
  obtain ⟨presenceStream, payloadStream, ⟨presences, isOpen⟩, payload, pending⟩ := gate
  obtain rfl : isOpen = false := presenceClosed
  cases pending with
  | some due => exact saysNothing_takePayload payloadClosed due
  | none =>
      cases presences with
      | nil => rfl
      | cons presence rest =>
          obtain ⟨timestamp, content⟩ := presence
          cases content with
          | presence isPresent =>
              cases isPresent with
              | true =>
                  let taken : Gate :=
                    { presenceStream, payloadStream, presence := ⟨rest, false⟩, payload }
                  exact @saysNothing_takePayload taken payloadClosed timestamp
              | false => rfl
          | _ => rfl

theorem polls_abandoned (presenceClosed : gate.presence.isOpen = false)
    (payloadClosed : gate.payload.isOpen = false) (number : Nat) :
    gate.polls number = andThen (.ok .closed) gate.leftovers number := by
  induction number generalizing gate with
  | zero => cases gate.leftovers <;> rfl
  | succ number ih =>
      obtain ⟨abandons, polled⟩ := poll_abandoned presenceClosed payloadClosed
      rw [polls, ih abandons.presenceOpen abandons.payloadOpen]
      cases waiting : gate.leftovers with
      | nil =>
          rw [waiting] at polled
          rw [polled.1, polled.2]
          rfl
      | cons answer rest =>
          rw [waiting] at polled
          rw [polled.1, polled.2]
          rfl

/-- A poll is such moves with nothing in between: one that answers, or one that does not and
the next one. -/
theorem poll_eq_read (gate : Gate) :
    gate.read = (some gate.poll.1, gate.poll.2) ∨
      gate.read.1 = none ∧ gate.read.2.read = (some gate.poll.1, gate.poll.2) := by
  cases due : gate.pending with
  | some timestamp =>
      refine .inl ?_
      simp only [read, due, poll, readPresence]
  | none =>
      have first : gate.read = gate.readPresence := by rw [read, due]
      rw [first, poll]
      cases found : gate.readPresence with
      | mk answer after =>
          cases answer with
          | some answer => exact .inl rfl
          | none =>
              obtain ⟨timestamp, paid⟩ := Option.isSome_iff_exists.mp (readPresence_pending found)
              exact .inr ⟨rfl, by rw [read, paid]⟩

theorem streams_read (gate : Gate) :
    gate.read.2.presenceStream = gate.presenceStream ∧
      gate.read.2.payloadStream = gate.payloadStream := by
  unfold read readPresence readPayload
  repeat' split
  all_goals first | exact ⟨rfl, rfl⟩ | exact streams_takePayload ..

/-- A consumer waits just while the queue to be read next is empty. -/
theorem read_eq_empty_iff : gate.read.1 = some (.ok .empty) ↔ gate.IsBare := by
  obtain ⟨presenceStream, payloadStream, ⟨presences, presenceOpen⟩, ⟨payloads, payloadOpen⟩,
    pending⟩ := gate
  cases pending with
  | none =>
      cases presences with
      | nil => cases presenceOpen <;> simp [read, readPresence, Inbox.take, IsBare]
      | cons packet rest =>
          obtain ⟨timestamp, content⟩ := packet
          cases content with
          | presence isPresent =>
              cases isPresent <;> simp [read, readPresence, Inbox.take, IsBare]
          | _ => simp [read, readPresence, Inbox.take, IsBare]
  | some due =>
      cases payloads with
      | nil => cases payloadOpen <;> simp [read, readPayload, takePayload, Inbox.take, IsBare]
      | cons packet rest =>
          by_cases same : packet.timestamp = due <;>
            simp [read, readPayload, takePayload, Inbox.take, IsBare, same]

theorem poll_of_isBare (bare : gate.IsBare) : gate.poll = (.ok .empty, gate) := by
  obtain ⟨presenceStream, payloadStream, presence, payload, pending⟩ := gate
  cases pending with
  | none =>
      obtain rfl : presence = ⟨[], true⟩ := bare
      rfl
  | some due =>
      obtain rfl : payload = ⟨[], true⟩ := bare
      rfl

/-- A move that finds the queue empty leaves it so. -/
theorem read_of_isBare (bare : gate.IsBare) : gate.read = (some (.ok .empty), gate) := by
  have empty := read_eq_empty_iff.mpr bare
  rcases gate.poll_eq_read with answered | ⟨unanswered, _⟩
  · rw [answered, poll_of_isBare bare]
  · rw [unanswered] at empty
    contradiction

/-- What a move answers is what a poll of the gate would answer that has everything. -/
theorem read_completed (may : gate.MayGet presences payloads) (bare : ¬ gate.IsBare) :
    match gate.read with
    | (some answer, after) =>
        (gate.completed presences payloads).poll = (answer, after.completed presences payloads)
    | (none, after) =>
        (after.completed presences payloads).poll = (gate.completed presences payloads).poll := by
  rw [← read_eq_empty_iff] at bare
  cases due : gate.pending with
  | none =>
      have first := readPresence_completed may
      have reads : gate.read = gate.readPresence := by rw [read, due]
      rw [reads] at bare ⊢
      cases moved : gate.readPresence with
      | mk answer after =>
          rw [moved] at first bare
          cases answer with
          | none => exact first.2.2
          | some answer =>
              rcases first.2 with ⟨nothing, _⟩ | found
              · exact absurd (congrArg some nothing) bare
              · exact found
  | some timestamp =>
      have second := readPayload_completed may (by rw [due]; rfl)
      have reads : gate.read = (some gate.readPayload.1, gate.readPayload.2) := by rw [read, due]
      rw [reads] at bare ⊢
      rcases second.2 with nothing | found
      · rw [nothing] at bare
        exact absurd rfl bare
      · exact found

/-- True presences and payloads that wait, with a presence that was taken counted among the
former, get fewer together. Only the end of a stream takes nothing. -/
theorem read_balance (bare : ¬ gate.IsBare)
    (paid : gate.pending.isSome = true → gate.payload.packets ≠ []) :
    let after := gate.read.2
    after.pending.toList.length + after.presence.packets.countP Packet.signals +
          gate.payload.packets.length =
        gate.pending.toList.length + gate.presence.packets.countP Packet.signals +
          after.payload.packets.length ∧
      after.presence.packets.length ≤ gate.presence.packets.length ∧
      after.payload.packets.length ≤ gate.payload.packets.length ∧
      (after.presence.packets.length + after.payload.packets.length <
          gate.presence.packets.length + gate.payload.packets.length ∨
        gate.read.1 = some (.ok .closed)) := by
  obtain ⟨presenceStream, payloadStream, ⟨presences, presenceOpen⟩, ⟨payloads, payloadOpen⟩,
    pending⟩ := gate
  cases pending with
  | none =>
      cases presences with
      | nil =>
          cases presenceOpen with
          | true => exact absurd rfl bare
          | false => exact ⟨rfl, Nat.le_refl _, Nat.le_refl _, .inr rfl⟩
      | cons packet rest =>
          obtain ⟨timestamp, content⟩ := packet
          cases content with
          | presence isPresent =>
              cases isPresent with
              | true =>
                  simp [read, readPresence, Inbox.take, Packet.signals]
                  omega
              | false => simp [read, readPresence, Inbox.take, Packet.signals]
          | _ => simp [read, readPresence, Inbox.take, Packet.signals]
  | some due =>
      cases payloads with
      | nil => exact absurd rfl (paid rfl)
      | cons packet rest =>
          by_cases same : packet.timestamp = due <;>
            simp [read, readPayload, takePayload, Inbox.take, same] <;> omega

end Gate

end FrameFlow
