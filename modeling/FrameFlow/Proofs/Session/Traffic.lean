import FrameFlow.Proofs.Session.Draining

/-!
A gate in use. Packets are sent and queues are closed while a caller polls, in any order and
also between the halves of a poll.
-/

namespace FrameFlow

namespace Gate

theorem saysNothing_paired (payloadStream : String) (due : Timestamp) (packets : List Packet) :
    saysNothing (paired payloadStream due packets) = false := by
  cases packets with
  | nil => rfl
  | cons packet rest =>
      rw [paired]
      split <;> rfl

theorem paired_ne_closed {payloadStream : String} {due : Timestamp} {packet : Packet}
    {rest : List Packet} : paired payloadStream due (packet :: rest) ≠ .ok .closed := by
  rw [paired]
  split <;> simp

end Gate

/-- How long a poll waits for a packet. -/
inductive Patience where
  | never
  | untilDeadline
  | forever

/-- Whether a poll goes on waiting where nothing is there yet. -/
def Patience.waits (late : Bool) : Patience → Bool
  | .never => false
  | .untilDeadline => !late
  | .forever => true

/-- Which queue a poll has come to. -/
inductive PollStage where
  | idle
  | atPresence (patience : Patience)
  | atPayload (patience : Patience)

inductive Move where
  | sendPresence
  | sendPayload
  | closePresence
  | closePayload
  | ask (patience : Patience)
  | look (late : Bool)

/-- What was taken out of an inbox that became another one. -/
def Inbox.taken (before after : Inbox) : List Packet :=
  before.packets.take (before.packets.length - after.packets.length)

@[simp] theorem Inbox.taken_self (inbox : Inbox) : inbox.taken inbox = [] := by
  simp [taken]

@[simp] theorem Inbox.taken_cons (packet : Packet) (rest : List Packet) (isOpen : Bool) :
    Inbox.taken ⟨packet :: rest, isOpen⟩ ⟨rest, isOpen⟩ = [packet] := by
  simp [taken]

structure Traffic where
  gate : Gate
  presencesAhead : List Packet
  payloadsAhead : List Packet
  stage : PollStage := .idle
  answers : List (Except SessionError (PollResult Gated)) := []
  presencesTaken : List Packet := []
  payloadsTaken : List Packet := []

/-- Whether a presence is true, so that a payload comes with it. -/
def Packet.signals (packet : Packet) : Bool := packet.payload = .presence true

namespace Traffic

def sending (gate : Gate) (presences payloads : List Packet) : Traffic where
  gate := gate
  presencesAhead := presences
  payloadsAhead := payloads

/-- The packets of both streams before the first one is sent. -/
def opened (presenceStream payloadStream : String) : List Packet → List Packet → Traffic :=
  sending { presenceStream, payloadStream, presence := ⟨[], true⟩, payload := ⟨[], true⟩ }

def answer (answer : Except SessionError (PollResult Gated)) (traffic : Traffic) : Traffic :=
  { traffic with stage := .idle, answers := traffic.answers ++ [answer] }

/-- Notes what a poll took out of the queues. -/
def read (gate : Gate) (traffic : Traffic) : Traffic :=
  { traffic with
    gate
    presencesTaken := traffic.presencesTaken ++ traffic.gate.presence.taken gate.presence
    payloadsTaken := traffic.payloadsTaken ++ traffic.gate.payload.taken gate.payload }

/-- What a poll found. It goes on waiting if that is nothing, or answers. -/
def find (waits : Bool) (found : Except SessionError (PollResult Gated)) (traffic : Traffic) :
    Traffic :=
  if saysNothing found && waits then traffic else traffic.answer found

/-- A poll looks into the queue it has come to. -/
def look (late : Bool) (traffic : Traffic) : Traffic :=
  match traffic.stage with
  | .idle => traffic
  | .atPresence patience =>
      match traffic.gate.readPresence with
      | (none, gate) => { traffic.read gate with stage := .atPayload patience }
      | (some found, gate) => (traffic.read gate).find (patience.waits late) found
  | .atPayload patience =>
      let (found, gate) := traffic.gate.readPayload
      (traffic.read gate).find (patience.waits late) found

/-- Packets are sent in order, and a queue is closed after its last one. Where a move is not
possible, nothing happens. -/
def move (traffic : Traffic) : Move → Traffic
  | .sendPresence =>
      match traffic.presencesAhead with
      | [] => traffic
      | packet :: rest =>
          { traffic with
            gate.presence.packets := traffic.gate.presence.packets ++ [packet]
            presencesAhead := rest }
  | .sendPayload =>
      match traffic.payloadsAhead with
      | [] => traffic
      | packet :: rest =>
          { traffic with
            gate.payload.packets := traffic.gate.payload.packets ++ [packet]
            payloadsAhead := rest }
  | .closePresence =>
      if traffic.presencesAhead.isEmpty then { traffic with gate.presence.isOpen := false }
      else traffic
  | .closePayload =>
      if traffic.payloadsAhead.isEmpty then { traffic with gate.payload.isOpen := false }
      else traffic
  | .ask patience =>
      match traffic.stage with
      | .idle => { traffic with stage := .atPresence patience }
      | _ => traffic
  | .look late => traffic.look late

def after (traffic : Traffic) (moves : List Move) : Traffic := moves.foldl move traffic

/-- Answers that say something. -/
def heard (traffic : Traffic) : List (Except SessionError (PollResult Gated)) :=
  traffic.answers.filter (!saysNothing ·)

/-- What becomes of traffic by a move. -/
inductive Step (traffic : Traffic) : Traffic → Prop
  | idled : Step traffic traffic
  | presenceSent {packet rest} : traffic.presencesAhead = packet :: rest →
      Step traffic { traffic with
        gate.presence.packets := traffic.gate.presence.packets ++ [packet]
        presencesAhead := rest }
  | payloadSent {packet rest} : traffic.payloadsAhead = packet :: rest →
      Step traffic { traffic with
        gate.payload.packets := traffic.gate.payload.packets ++ [packet]
        payloadsAhead := rest }
  | presenceClosed : traffic.presencesAhead = [] →
      Step traffic { traffic with gate.presence.isOpen := false }
  | payloadClosed : traffic.payloadsAhead = [] →
      Step traffic { traffic with gate.payload.isOpen := false }
  | asked (patience) : Step traffic { traffic with stage := .atPresence patience }
  | gaveUp : traffic.gate.IsBare → Step traffic (traffic.answer (.ok .empty))
  | wentOn (patience) : traffic.gate.pending.isSome = true →
      Step traffic { traffic with stage := .atPayload patience }
  | ended : traffic.gate.pending = none → traffic.gate.presence = ⟨[], false⟩ →
      Step traffic (traffic.answer (.ok .closed))
  | signalled {timestamp rest} (patience) : traffic.gate.pending = none →
      traffic.gate.presence.packets = ⟨timestamp, .presence true⟩ :: rest →
      Step traffic { traffic with
        gate.presence.packets := rest
        gate.pending := some timestamp
        stage := .atPayload patience
        presencesTaken := traffic.presencesTaken ++ [⟨timestamp, .presence true⟩] }
  | absent {timestamp rest} : traffic.gate.pending = none →
      traffic.gate.presence.packets = ⟨timestamp, .presence false⟩ :: rest →
      Step traffic { traffic with
        gate.presence.packets := rest
        stage := .idle
        answers := traffic.answers ++ [.ok (.ready (.absent timestamp))]
        presencesTaken := traffic.presencesTaken ++ [⟨timestamp, .presence false⟩] }
  | mistaken {rest} (packet) : traffic.gate.pending = none →
      traffic.gate.presence.packets = packet :: rest → packet.payload.kind ≠ .presence →
      Step traffic { traffic with
        gate.presence.packets := rest
        stage := .idle
        answers := traffic.answers ++ [.error (.unexpectedPayload traffic.gate.presenceStream
          .presence packet.payload.kind)]
        presencesTaken := traffic.presencesTaken ++ [packet] }
  | paid {due packet rest} : traffic.gate.pending = some due →
      traffic.gate.payload.packets = packet :: rest →
      Step traffic { traffic with
        gate.payload.packets := rest
        gate.pending := none
        stage := .idle
        answers := traffic.answers ++
          [Gate.paired traffic.gate.payloadStream due (packet :: rest)]
        payloadsTaken := traffic.payloadsTaken ++ [packet] }
  | unpaid {due} : traffic.gate.pending = some due → traffic.gate.payload = ⟨[], false⟩ →
      Step traffic { traffic with
        gate.pending := none
        stage := .idle
        answers := traffic.answers ++ [.ok .closed] }

/-- A poll comes to the payloads only when one is due. -/
def IsStaged (traffic : Traffic) : Prop :=
  ∀ patience, traffic.stage = .atPayload patience → traffic.gate.pending.isSome = true

variable {traffic next : Traffic}

theorem find_nothing (bare : traffic.gate.IsBare) (waits : Bool) :
    traffic.Step (traffic.find waits (.ok .empty)) := by
  cases waits with
  | true => exact .idled
  | false => exact .gaveUp bare

theorem find_something {found : Except SessionError (PollResult Gated)}
    (something : saysNothing found = false) (waits : Bool) :
    traffic.find waits found = traffic.answer found := by
  simp [find, something]

theorem look_step (staged : traffic.IsStaged) (late : Bool) :
    traffic.Step (traffic.look late) := by
  obtain ⟨⟨presenceStream, payloadStream, ⟨presences, presenceOpen⟩, ⟨payloads, payloadOpen⟩,
    pending⟩, presencesAhead, payloadsAhead, stage, answers, presencesTaken, payloadsTaken⟩ :=
    traffic
  cases stage with
  | idle => exact .idled
  | atPresence patience =>
      cases pending with
      | some due =>
          simp only [look, Gate.readPresence, read, Inbox.taken_self, List.append_nil]
          exact .wentOn patience rfl
      | none =>
          cases presences with
          | nil =>
              cases presenceOpen with
              | true =>
                  simp only [look, Gate.readPresence, Inbox.take, if_true, read,
                    Inbox.taken_self, List.append_nil]
                  exact find_nothing (by exact rfl) _
              | false =>
                  simp only [look, Gate.readPresence, Inbox.take, Bool.false_eq_true, if_false,
                    read, Inbox.taken_self, List.append_nil]
                  rw [find_something rfl]
                  exact .ended rfl rfl
          | cons packet rest =>
              obtain ⟨timestamp, content⟩ := packet
              cases content with
              | presence isPresent =>
                  cases isPresent with
                  | true =>
                      simp only [look, Gate.readPresence, Inbox.take, read, Inbox.taken_self,
                        Inbox.taken_cons, List.append_nil]
                      exact .signalled patience rfl rfl
                  | false =>
                      simp only [look, Gate.readPresence, Inbox.take, read, Inbox.taken_self,
                        Inbox.taken_cons, List.append_nil]
                      exact .absent rfl rfl
              | _ =>
                  simp only [look, Gate.readPresence, Inbox.take, read, Inbox.taken_self,
                    Inbox.taken_cons, List.append_nil]
                  exact .mistaken ⟨timestamp, _⟩ rfl rfl (by simp [Payload.kind])
  | atPayload patience =>
      obtain ⟨due, isDue⟩ := Option.isSome_iff_exists.mp (staged patience rfl)
      obtain rfl : pending = some due := isDue
      cases payloads with
      | nil =>
          cases payloadOpen with
          | true =>
              simp only [look, Gate.readPayload, Gate.takePayload, Inbox.take, if_true, read,
                Inbox.taken_self, List.append_nil]
              exact find_nothing (by exact rfl) _
          | false =>
              simp only [look, Gate.readPayload, Gate.takePayload, Inbox.take, Bool.false_eq_true,
                if_false, read, Inbox.taken_self, List.append_nil]
              exact .unpaid rfl rfl
      | cons packet rest =>
          let traffic : Traffic := ⟨⟨presenceStream, payloadStream, ⟨presences, presenceOpen⟩,
            ⟨packet :: rest, payloadOpen⟩, some due⟩, presencesAhead, payloadsAhead,
            .atPayload patience, answers, presencesTaken, payloadsTaken⟩
          have step : traffic.Step _ := .paid rfl rfl
          simp only [look, Gate.readPayload, Gate.takePayload, Inbox.take, read]
          by_cases same : packet.timestamp = due
          · simp only [Gate.paired, same, if_true] at step ⊢
            simp only [Inbox.taken_self, Inbox.taken_cons, List.append_nil]
            exact step
          · simp only [Gate.paired, same, if_false] at step ⊢
            simp only [Inbox.taken_self, Inbox.taken_cons, List.append_nil]
            exact step

theorem move_step (staged : traffic.IsStaged) (move : Move) :
    traffic.Step (traffic.move move) := by
  cases move with
  | sendPresence =>
      cases ahead : traffic.presencesAhead with
      | nil => simpa only [Traffic.move, ahead] using .idled
      | cons packet rest => simpa only [Traffic.move, ahead] using .presenceSent ahead
  | sendPayload =>
      cases ahead : traffic.payloadsAhead with
      | nil => simpa only [Traffic.move, ahead] using .idled
      | cons packet rest => simpa only [Traffic.move, ahead] using .payloadSent ahead
  | closePresence =>
      cases ahead : traffic.presencesAhead with
      | nil =>
          have empty : traffic.presencesAhead.isEmpty = true := by rw [ahead]; rfl
          simp only [Traffic.move, empty, if_true]
          exact .presenceClosed ahead
      | cons packet rest => simpa only [Traffic.move, ahead] using .idled
  | closePayload =>
      cases ahead : traffic.payloadsAhead with
      | nil =>
          have empty : traffic.payloadsAhead.isEmpty = true := by rw [ahead]; rfl
          simp only [Traffic.move, empty, if_true]
          exact .payloadClosed ahead
      | cons packet rest => simpa only [Traffic.move, ahead] using .idled
  | ask patience =>
      cases stage : traffic.stage with
      | idle => simpa only [Traffic.move, stage] using .asked patience
      | _ => simpa only [Traffic.move, stage] using .idled
  | look late => exact look_step staged late

/-- Nothing is lost on the way, and a presence that was read as true is remembered until its
payload has come. -/
structure Sound (presences payloads : List Packet) (traffic : Traffic) : Prop where
  staged : traffic.IsStaged
  may : traffic.gate.MayGet traffic.presencesAhead traffic.payloadsAhead
  presences : traffic.presencesTaken ++ traffic.gate.presence.packets ++
    traffic.presencesAhead = presences
  payloads : traffic.payloadsTaken ++ traffic.gate.payload.packets ++
    traffic.payloadsAhead = payloads
  pending : ∀ due, traffic.gate.pending = some due →
    ∃ earlier, traffic.presencesTaken = earlier ++ [⟨due, .presence true⟩]
  paid : traffic.payloadsTaken.length + traffic.gate.pending.toList.length ≤
    traffic.presencesTaken.countP Packet.signals

theorem sound_opened (presenceStream payloadStream : String) (presences payloads : List Packet) :
    (opened presenceStream payloadStream presences payloads).Sound presences payloads where
  staged := nofun
  may := ⟨nofun, nofun⟩
  presences := rfl
  payloads := rfl
  pending := by simp [opened, sending]
  paid := Nat.le_refl _

variable {presences payloads : List Packet}

theorem Sound.step (sound : traffic.Sound presences payloads) (step : traffic.Step next) :
    next.Sound presences payloads := by
  obtain ⟨staged, may, allPresences, allPayloads, pending, paid⟩ := sound
  cases step with
  | idled => exact ⟨staged, may, allPresences, allPayloads, pending, paid⟩
  | presenceSent ahead =>
      rw [ahead] at may allPresences
      exact ⟨staged, ⟨fun closed => (List.cons_ne_nil _ _ (may.presences closed)).elim,
        may.payloads⟩, by simpa using allPresences, allPayloads, pending, paid⟩
  | payloadSent ahead =>
      rw [ahead] at may allPayloads
      exact ⟨staged, ⟨may.presences, fun closed =>
        (List.cons_ne_nil _ _ (may.payloads closed)).elim⟩, allPresences,
        by simpa using allPayloads, pending, paid⟩
  | presenceClosed ahead =>
      exact ⟨staged, ⟨fun _ => ahead, may.payloads⟩, allPresences, allPayloads, pending, paid⟩
  | payloadClosed ahead =>
      exact ⟨staged, ⟨may.presences, fun _ => ahead⟩, allPresences, allPayloads, pending, paid⟩
  | asked patience => exact ⟨nofun, may, allPresences, allPayloads, pending, paid⟩
  | gaveUp bare => exact ⟨nofun, may, allPresences, allPayloads, pending, paid⟩
  | wentOn patience due =>
      exact ⟨fun _ _ => due, may, allPresences, allPayloads, pending, paid⟩
  | ended free closed => exact ⟨nofun, may, allPresences, allPayloads, pending, paid⟩
  | signalled patience free waiting =>
      rw [waiting] at allPresences
      rw [free] at paid
      refine ⟨fun _ _ => rfl, ⟨may.presences, may.payloads⟩, by simpa using allPresences,
        allPayloads, ?_, ?_⟩
      · rintro _ ⟨⟩
        exact ⟨_, rfl⟩
      · simpa [List.countP_append, Packet.signals] using paid
  | absent free waiting =>
      rw [waiting] at allPresences
      refine ⟨nofun, ⟨may.presences, may.payloads⟩, by simpa using allPresences, allPayloads,
        (fun due other => nomatch free.symm.trans other), ?_⟩
      simpa [List.countP_append, Packet.signals] using paid
  | mistaken packet free waiting other =>
      rw [waiting] at allPresences
      refine ⟨nofun, ⟨may.presences, may.payloads⟩, by simpa using allPresences, allPayloads,
        (fun due other => nomatch free.symm.trans other), ?_⟩
      rw [List.countP_append]
      exact Nat.le_add_right_of_le paid
  | paid due waiting =>
      rw [waiting] at allPayloads
      rw [due] at paid
      exact ⟨nofun, ⟨may.presences, may.payloads⟩, allPresences, by simpa using allPayloads,
        by simp, by simpa using paid⟩
  | unpaid due closed =>
      rw [due] at paid
      exact ⟨nofun, ⟨may.presences, may.payloads⟩, allPresences, allPayloads, by simp,
        Nat.le_of_succ_le paid⟩

/-- The gate at the end of all traffic, if nobody polled any more. -/
def last (traffic : Traffic) : Gate :=
  traffic.gate.completed traffic.presencesAhead traffic.payloadsAhead

theorem heard_answer {answer : Except SessionError (PollResult Gated)}
    (something : saysNothing answer = false) :
    (traffic.answers ++ [answer]).filter (!saysNothing ·) = traffic.heard ++ [answer] := by
  simp [heard, something]

/-- Whatever happens, polls hear next what they would have heard at the end. -/
theorem Step.last (step : traffic.Step next)
    (may : traffic.gate.MayGet traffic.presencesAhead traffic.payloadsAhead) :
    next.heard = traffic.heard ∧ next.last.poll = traffic.last.poll ∨
      ∃ answer, next.heard = traffic.heard ++ [answer] ∧
        traffic.last.poll = (answer, next.last) := by
  cases step with
  | idled => exact .inl ⟨rfl, rfl⟩
  | presenceSent ahead => exact .inl ⟨rfl, by simp [Traffic.last, Gate.completed, ahead]⟩
  | payloadSent ahead => exact .inl ⟨rfl, by simp [Traffic.last, Gate.completed, ahead]⟩
  | presenceClosed ahead => exact .inl ⟨rfl, rfl⟩
  | payloadClosed ahead => exact .inl ⟨rfl, rfl⟩
  | asked patience => exact .inl ⟨rfl, rfl⟩
  | gaveUp bare => exact .inl ⟨by simp [heard, answer, saysNothing], rfl⟩
  | wentOn patience due => exact .inl ⟨rfl, rfl⟩
  | ended free closed =>
      refine .inr ⟨.ok .closed, heard_answer rfl, ?_⟩
      have nothing := may.presences (by rw [closed])
      simp [Traffic.last, Gate.completed, Gate.poll_eq, Inbox.take, answer, free, closed, nothing]
  | @signalled timestamp rest patience free waiting =>
      refine .inl ⟨rfl, ?_⟩
      let taken := { traffic.last with presence := ⟨rest ++ traffic.presencesAhead, false⟩ }
      have due := Gate.takePayload_pending taken timestamp
      simp only [Traffic.last, Gate.completed, Gate.poll_eq, Inbox.take, free, waiting,
        List.cons_append]
      simpa only [taken, Traffic.last, Gate.completed, free] using due
  | absent free waiting =>
      refine .inr ⟨_, heard_answer rfl, ?_⟩
      simp [Traffic.last, Gate.completed, Gate.poll_eq, Inbox.take, free, waiting]
  | @mistaken rest packet free waiting other =>
      refine .inr ⟨_, heard_answer rfl, ?_⟩
      obtain ⟨timestamp, content⟩ := packet
      cases content with
      | presence isPresent => contradiction
      | _ => simp [Traffic.last, Gate.completed, Gate.poll_eq, Inbox.take, free, waiting]
  | @paid due packet rest isDue waiting =>
      refine .inr ⟨_, heard_answer (Gate.saysNothing_paired ..), ?_⟩
      simp only [Traffic.last, Gate.completed, Gate.poll_eq, Gate.takePayload, Gate.paired,
        Inbox.take, isDue, waiting, List.cons_append]
      split <;> rfl
  | unpaid due closed =>
      refine .inr ⟨.ok .closed, heard_answer rfl, ?_⟩
      have nothing := may.payloads (by rw [closed])
      simp [Traffic.last, Gate.completed, Gate.poll_eq, Gate.takePayload, Inbox.take, due, closed,
        nothing]

/-- What was heard, and what is to be heard at the end, are together all that is heard by who
polls only at the end. -/
def Accounts (full : Gate) (traffic : Traffic) : Prop := full.Yields traffic.heard traffic.last

theorem Accounts.step {full : Gate} (accounts : traffic.Accounts full)
    (may : traffic.gate.MayGet traffic.presencesAhead traffic.payloadsAhead)
    (step : traffic.Step next) : next.Accounts full := by
  rw [Accounts]
  rcases step.last may with ⟨heard, same⟩ | ⟨answer, heard, polled⟩
  · rw [heard]
    exact accounts.same same
  · rw [heard]
    exact accounts.more polled

theorem Sound.after (sound : traffic.Sound presences payloads) (moves : List Move) :
    (traffic.after moves).Sound presences payloads := by
  induction moves generalizing traffic with
  | nil => exact sound
  | cons move rest ih => exact ih (sound.step (move_step sound.staged move))

theorem Accounts.after {full : Gate} (sound : traffic.Sound presences payloads)
    (accounts : traffic.Accounts full) (moves : List Move) :
    (traffic.after moves).Accounts full := by
  induction moves generalizing traffic with
  | nil => exact accounts
  | cons move rest ih =>
      have step := move_step sound.staged move
      exact ih (sound.step step) (accounts.step sound.may step)

end Traffic

end FrameFlow
