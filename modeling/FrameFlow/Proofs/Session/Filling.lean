import FrameFlow.Proofs.Session.Release
import FrameFlow.Proofs.Session.Typing
import Mathlib.Data.List.Forall2

/-!
Buffers filled from a poller, among polls that wait and polls that do not. Every reading is the
last of one or two plain polls: what it brings is copied into a buffer or handed out, and the next
reading goes on behind it.
-/

namespace FrameFlow

/-- A reading of a poller: a look, a wait for the next output, or a wait that fills a buffer. -/
inductive Reading where
  | look
  | await
  | fill (buffer : List Element)

def Reading.waits : Reading → Bool
  | .look => false
  | .await | .fill _ => true

/-- What a caller has after a reading. -/
inductive Response where
  | observed (result : Except SessionError (PollResult Observation))
  | filled (answer : Except SessionError Bool) (buffer : List Element)
deriving DecidableEq

/-- What there is to fill a buffer from: all landmarks of one subject, those of the first of
several, or all scores. Detections fill no buffer. -/
inductive Offers : Observation → List Element → Prop
  | absent {timestamp} : Offers ⟨timestamp, none⟩ []
  | detections {timestamp records} : Offers ⟨timestamp, some (.detections records)⟩ []
  | landmarks {timestamp records} :
      Offers ⟨timestamp, some (.landmarks records)⟩ (records.map .landmark)
  | nobody {timestamp} : Offers ⟨timestamp, some (.landmarkSet [])⟩ []
  | first {timestamp first others} :
      Offers ⟨timestamp, some (.landmarkSet (first :: others))⟩ (first.map .landmark)
  | scores {timestamp values} : Offers ⟨timestamp, some (.scores values)⟩ (values.map .score)

theorem offers_iff {observation : Observation} {elements : List Element} :
    Offers observation elements ↔ OutputPoller.elements observation = elements := by
  constructor
  · intro offers
    cases offers <;> simp [OutputPoller.elements]
  · rintro rfl
    obtain ⟨timestamp, value⟩ := observation
    rcases value with _ | (_ | _ | subjects | _)
    · exact .absent
    · exact .detections
    · exact .landmarks
    · cases subjects with
      | nil => exact .nobody
      | cons first others => exact .first
    · exact .scores

/-- What becomes of a buffer that is filled from the result of a poll. Only as many elements as
it has places get into it, and they are all that is offered. -/
structure Fills (result : Except SessionError (PollResult Observation)) (buffer : List Element)
    (answer : Except SessionError Bool) (after : List Element) : Prop where
  copied : answer = .ok true ↔ ∃ observation elements, result = .ok (.ready observation) ∧
    Offers observation elements ∧ elements ≠ [] ∧ elements.length = buffer.length
  copy : answer = .ok true →
    ∃ observation, result = .ok (.ready observation) ∧ Offers observation after
  kept : answer ≠ .ok true → after = buffer
  mismatched : ∀ mismatch, answer = .error (.outputSize mismatch) ↔
    ∃ observation elements, result = .ok (.ready observation) ∧
      Offers observation elements ∧ elements ≠ [] ∧ elements.length ≠ buffer.length ∧
      mismatch = ⟨buffer.length, elements.length⟩
  failed : ∀ error, result = .error error → answer = .error error
  nothing : answer = .ok false ↔ result = .ok .empty ∨ result = .ok .closed ∨
    ∃ observation, result = .ok (.ready observation) ∧ Offers observation []

/-- What a reading makes of the result of a poll. -/
inductive Tells (result : Except SessionError (PollResult Observation)) :
    Reading → Response → Prop
  | look : Tells result .look (.observed result)
  | await : Tells result .await (.observed result)
  | fill {buffer answer after} : Fills result buffer answer after →
      Tells result (.fill buffer) (.filled answer after)

theorem Outlets.setPackets_inbox (outlets : Outlets) (isOpen : ChannelId → Bool)
    (channel : ChannelId) :
    outlets.setPackets channel (outlets.inbox isOpen channel).packets = outlets := by
  rw [packets_inbox, setPackets_queue]

theorem Outlets.inbox_setPackets_nil {outlets : Outlets} {isOpen : ChannelId → Bool}
    {channel : ChannelId} (bare : outlets.inbox isOpen channel = ⟨[], true⟩)
    (other : ChannelId) (packets : List Packet) :
    ((outlets.setPackets other packets).setPackets channel []).inbox isOpen channel =
      ⟨[], true⟩ := by
  cases found : outlets.channels[channel]? with
  | none => simp [inbox, found] at bare
  | some queue =>
      simp only [inbox, found, Channel.inbox, Inbox.mk.injEq] at bare
      by_cases same : other = channel <;>
        simp [inbox, setPackets, found, Channel.inbox, bare.2, same]

namespace Gate

variable {gate : Gate} {due : Timestamp}

theorem takePayload_ne_outputSize (gate : Gate) (due : Timestamp) (mismatch : CountMismatch) :
    (gate.takePayload due).1 ≠ .error (.outputSize mismatch) := by
  unfold takePayload
  repeat' split
  all_goals simp

theorem poll_ne_outputSize (gate : Gate) (mismatch : CountMismatch) :
    gate.poll.1 ≠ .error (.outputSize mismatch) := by
  rw [poll_eq]
  repeat' split
  all_goals first | exact takePayload_ne_outputSize _ _ mismatch | simp

theorem takePayload_of_empty (nothing : (gate.takePayload due).1 = .ok .empty) :
    gate.payload = ⟨[], true⟩ ∧ (gate.takePayload due).2 = { gate with pending := some due } := by
  obtain ⟨presenceStream, payloadStream, presence, ⟨payloads, isOpen⟩, pending⟩ := gate
  cases payloads with
  | nil =>
      cases isOpen with
      | true => exact ⟨rfl, rfl⟩
      | false => cases nothing
  | cons packet rest =>
      by_cases same : packet.timestamp = due <;>
        simp [takePayload, Inbox.take, same] at nothing

/-- A poll that found nothing left a gate as it was, or took a true presence. -/
theorem poll_of_empty (nothing : gate.poll.1 = .ok .empty) :
    gate.IsBare ∨ gate.payload = ⟨[], true⟩ ∧ gate.poll.2.payload = gate.payload ∧
      gate.poll.2.pending.isSome = true := by
  obtain ⟨presenceStream, payloadStream, ⟨presences, isOpen⟩, payload, pending⟩ := gate
  cases pending with
  | some due => exact .inl (takePayload_of_empty nothing).1
  | none =>
      cases presences with
      | nil =>
          cases isOpen with
          | true => exact .inl rfl
          | false => cases nothing
      | cons packet rest =>
          obtain ⟨timestamp, content⟩ := packet
          cases content with
          | presence isPresent =>
              cases isPresent with
              | true =>
                  let taken : Gate :=
                    ⟨presenceStream, payloadStream, ⟨rest, isOpen⟩, payload, none⟩
                  obtain ⟨bare, left⟩ := @takePayload_of_empty taken timestamp nothing
                  exact .inr ⟨bare, (congrArg Gate.payload left :),
                    (congrArg (·.pending.isSome) left :)⟩
              | false => cases nothing
          | _ => cases nothing

end Gate

/-- A poll that found nothing leaves it to the next one to find nothing again. -/
theorem Poller.poll_of_empty {poller : Poller} {isOpen : ChannelId → Bool} {outlets : Outlets}
    (nothing : (poller.poll isOpen outlets).1 = .empty) :
    poller.poll isOpen outlets = (.empty, outlets) := by
  have left : (outlets.inbox isOpen poller.channel).take =
      (.empty, outlets.inbox isOpen poller.channel) := by
    rw [Poller.poll] at nothing
    cases waiting : (outlets.inbox isOpen poller.channel).packets <;>
      simp_all [Inbox.take]
  rw [Poller.poll, left]
  exact congrArg (Prod.mk _) (outlets.setPackets_inbox isOpen poller.channel)

namespace GatedPoller

variable {poller : GatedPoller} {isOpen : ChannelId → Bool} {outlets : Outlets}

theorem poll_of_isBare (bare : (poller.gate isOpen outlets).IsBare) :
    poller.poll isOpen outlets = (.ok .empty, poller, outlets) := by
  rw [poll, Gate.poll_of_isBare bare]
  simp only [put, gate, Outlets.setPackets_inbox]

theorem poll_again (nothing : (poller.poll isOpen outlets).1 = .ok .empty) :
    let polled := poller.poll isOpen outlets
    polled.2.1.poll isOpen polled.2.2 = polled := by
  intro polled
  rcases Gate.poll_of_empty nothing with bare | ⟨bare, kept, due⟩
  · have same : polled = (.ok .empty, poller, outlets) := poll_of_isBare bare
    rw [same]
    exact poll_of_isBare bare
  · have payload : (polled.2.1.gate isOpen polled.2.2).payload = ⟨[], true⟩ := by
      have left : (poller.gate isOpen outlets).poll.2.payload.packets = [] := by rw [kept, bare]
      simp only [polled, poll, put, gate] at *
      rw [left]
      exact Outlets.inbox_setPackets_nil bare _ _
    have again : (polled.2.1.gate isOpen polled.2.2).IsBare := by
      obtain ⟨timestamp, pending⟩ := Option.isSome_iff_exists.mp due
      have pending : (polled.2.1.gate isOpen polled.2.2).pending = some timestamp := pending
      rw [Gate.IsBare, pending]
      exact payload
    rw [poll_of_isBare again, ← nothing]

end GatedPoller

namespace OutputPoller

theorem poll_again {poller : OutputPoller} {isOpen : ChannelId → Bool} {outlets : Outlets}
    (nothing : (poller.poll isOpen outlets).1 = .ok .empty) :
    let polled := poller.poll isOpen outlets
    polled.2.1.poll isOpen polled.2.2 = polled := by
  have sourced := nothing
  rw [poll_eq_answerOf] at sourced
  replace sourced := answerOf_eq_empty sourced
  obtain ⟨task, source⟩ := poller
  cases source with
  | plain source =>
      have found : (source.poll isOpen outlets).1 = .empty := by
        rw [pollSource] at sourced
        cases found : (source.poll isOpen outlets).1 <;> simp_all [PollResult.map]
      simp only [poll, pollSource, Poller.poll_of_empty found, PollResult.map]
  | gated source =>
      have again := GatedPoller.poll_again sourced
      dsimp only at again
      simp only [poll, pollSource, again]

theorem poll_ne_outputSize (isOpen : ChannelId → Bool) (poller : OutputPoller)
    (outlets : Outlets) (mismatch : CountMismatch) :
    (poller.poll isOpen outlets).1 ≠ .error (.outputSize mismatch) := by
  have sourced : (poller.pollSource isOpen outlets).1 ≠ .error (.outputSize mismatch) := by
    obtain ⟨task, source⟩ := poller
    cases source with
    | plain source => simp [pollSource]
    | gated source => exact (source.gate isOpen outlets).poll_ne_outputSize mismatch
  rw [poll_eq_answerOf]
  generalize (poller.pollSource isOpen outlets).1 = answer at sourced ⊢
  rcases answer with error | ((packet | timestamp) | _ | _)
  · exact fun same => sourced (by cases same; rfl)
  · simp only [answerOf, observe, Task.decode]
    cases poller.task.marshal? packet.payload <;> simp [Except.map]
  all_goals simp [answerOf, observe, Except.map]

section Copying

variable {observation : Observation} {buffer : List Element}

theorem copy_of_nil (nothing : elements observation = []) :
    copy (.ok (.ready observation)) buffer = (.ok false, buffer) := by
  simp only [copy, nothing]

theorem copy_of_fits (found : elements observation ≠ [])
    (fits : (elements observation).length = buffer.length) :
    copy (.ok (.ready observation)) buffer = (.ok true, elements observation) := by
  simp only [copy, copyInto, fits, if_true]

theorem copy_of_misfit (found : elements observation ≠ [])
    (misfit : (elements observation).length ≠ buffer.length) :
    copy (.ok (.ready observation)) buffer =
      (.error (.outputSize ⟨buffer.length, (elements observation).length⟩), buffer) := by
  simp only [copy, copyInto, misfit, if_false]

/-- A result that is not about the size of a buffer is copied as it should be. -/
theorem fills_copy {result : Except SessionError (PollResult Observation)}
    (polled : ∀ mismatch, result ≠ .error (.outputSize mismatch)) (buffer : List Element) :
    Fills result buffer (copy result buffer).1 (copy result buffer).2 := by
  rcases result with error | (observation | _ | _)
  · have other : ∀ mismatch, error ≠ .outputSize mismatch :=
      fun mismatch same => polled mismatch (congrArg _ same)
    constructor <;> simp [copy, other]
  · by_cases found : elements observation = []
    · rw [copy_of_nil found]
      constructor <;> simp [offers_iff, found]
    · by_cases fits : (elements observation).length = buffer.length
      · rw [copy_of_fits found fits]
        constructor <;> simp [offers_iff, found, fits]
      · rw [copy_of_misfit found fits]
        constructor <;> simp [offers_iff, found, fits]
        grind
  · constructor <;> simp [copy]
  · constructor <;> simp [copy]

end Copying

end OutputPoller

namespace Session

variable {ε : Type}

/-- A reading, and whatever becomes of the session before it. -/
structure Visit (ε : Type) where
  meanwhile : Session ε → Session ε := id
  reading : Reading

/-- Plain polls in the place of visits: one for each, and one more behind it if it waits and
nothing was there yet. The last one brings the result. -/
inductive Spread : List (Visit ε) → List (Except SessionError (PollResult Observation)) →
    List (Session ε → Session ε) → List (Except SessionError (PollResult Observation)) → Prop
  | nil : Spread [] [] [] []
  | once {visit visits result results changes polls} :
      (visit.reading.waits = true → saysNothing result = false) →
      Spread visits results changes polls →
      Spread (visit :: visits) (result :: results) (visit.meanwhile :: changes) (result :: polls)
  | again {visit : Visit ε} {visits result results changes polls} :
      visit.reading.waits = true → Spread visits results changes polls →
      Spread (visit :: visits) (result :: results) (visit.meanwhile :: id :: changes)
        (.ok .empty :: result :: polls)

/-- Whatever is heard in visits is heard in plain polls, in the same order. -/
theorem Spread.filter_eq {visits : List (Visit ε)} {changes : List (Session ε → Session ε)}
    {results polls : List (Except SessionError (PollResult Observation))}
    (spread : Spread visits results changes polls) :
    polls.filter (!saysNothing ·) = results.filter (!saysNothing ·) := by
  induction spread with
  | nil => rfl
  | once _ _ ih => simp only [List.filter_cons, ih]
  | again _ _ ih =>
      simp only [List.filter_cons, ih]
      rfl

variable [GraphEngine ε]

def read (poller : OutputPoller) (session : Session ε) :
    Reading → Response × OutputPoller × Session ε
  | .look =>
      let (result, poller, session) := session.poll poller
      (.observed result, poller, session)
  | .await =>
      let (result, poller, session) := session.awaitOutput poller
      (.observed result, poller, session)
  | .fill buffer =>
      let (answer, buffer, poller, session) := session.getOutput poller buffer
      (.filled answer buffer, poller, session)

def readAll : OutputPoller → Session ε → List (Visit ε) →
    List Response × OutputPoller × Session ε
  | poller, session, [] => ([], poller, session)
  | poller, session, visit :: rest =>
      let (response, poller, session) := (visit.meanwhile session).read poller visit.reading
      let (responses, poller, session) := readAll poller session rest
      (response :: responses, poller, session)

/-- Plain polls, and whatever becomes of the session before each. -/
def pollAll : OutputPoller → Session ε → List (Session ε → Session ε) →
    List (Except SessionError (PollResult Observation)) × OutputPoller × Session ε
  | poller, session, [] => ([], poller, session)
  | poller, session, change :: rest =>
      let (result, poller, session) := (change session).poll poller
      let (results, poller, session) := pollAll poller session rest
      (result :: results, poller, session)

/-- The engine has nothing to do, whatever is in the queues. -/
def IsStill (session : Session ε) : Prop :=
  ∀ outlets, GraphEngine.advance session.engine outlets = (session.engine, outlets)

/-- How visits go, with the results of the polls that their readings end with. -/
structure ReadsAsPolled (poller : OutputPoller) (session : Session ε) (visits : List (Visit ε))
    (results : List (Except SessionError (PollResult Observation))) : Prop where
  answered : (session.readAll poller visits).1.length = visits.length
  tells : List.Forall₂ (fun read result => Tells result read.1.reading read.2)
    (visits.zip (session.readAll poller visits).1) results
  spread : ∃ changes polls, Spread visits results changes polls ∧
    session.pollAll poller changes = (polls, (session.readAll poller visits).2) ∧
    polls.filter (!saysNothing ·) = results.filter (!saysNothing ·)
  still : session.IsStill →
    (∀ visit ∈ visits, ∀ now : Session ε, now.IsStill → (visit.meanwhile now).IsStill) →
    session.pollAll poller (visits.map (·.meanwhile)) =
      (results, (session.readAll poller visits).2)
  supplied : (∀ result ∈ (session.pollAll poller (visits.map (·.meanwhile))).1,
      saysNothing result = false) →
    session.pollAll poller (visits.map (·.meanwhile)) =
      (results, (session.readAll poller visits).2)
  drained : session.IsStill → session.isOpen = nobody → poller.HasOwnQueues →
    (∀ visit ∈ visits, visit.meanwhile = id) →
    results = andThen (.ok .closed) ((poller.leftovers session.outlets).map poller.answerOf)
      visits.length

/-- The poll that a reading ends with. -/
def receive (poller : OutputPoller) (session : Session ε) (reading : Reading) :
    Except SessionError (PollResult Observation) × OutputPoller × Session ε :=
  if reading.waits then session.awaitOutput poller else session.poll poller

variable {poller : OutputPoller} {session : Session ε} {reading : Reading}
  {visits : List (Visit ε)}

theorem awaitOutput_cases (poller : OutputPoller) (session : Session ε) :
    let polled := session.poll poller
    session.awaitOutput poller = polled ∧ saysNothing polled.1 = false ∨
      polled.1 = .ok .empty ∧ session.awaitOutput poller = polled.2.2.poll polled.2.1 := by
  intro polled
  rw [awaitOutput]
  cases found : session.poll poller with
  | mk result after =>
      have same : polled = (result, after) := found
      rw [same]
      rcases result with error | (observation | _ | _)
      · exact .inl ⟨rfl, rfl⟩
      · exact .inl ⟨rfl, rfl⟩
      · exact .inr ⟨rfl, rfl⟩
      · exact .inl ⟨rfl, rfl⟩

theorem receive_cases (poller : OutputPoller) (session : Session ε) (reading : Reading) :
    let polled := session.poll poller
    session.receive poller reading = polled ∧
        (reading.waits = true → saysNothing polled.1 = false) ∨
      reading.waits = true ∧ polled.1 = .ok .empty ∧
        session.receive poller reading = polled.2.2.poll polled.2.1 := by
  intro polled
  rw [receive]
  cases waits : reading.waits with
  | false => exact .inl ⟨if_neg Bool.false_ne_true, nofun⟩
  | true =>
      rw [if_pos rfl]
      rcases session.awaitOutput_cases poller with ⟨once, spoken⟩ | ⟨nothing, again⟩
      · exact .inl ⟨once, fun _ => spoken⟩
      · exact .inr ⟨rfl, nothing, again⟩

/-- No reading fails for the size of a buffer but at the buffer itself. -/
theorem receive_ne_outputSize (poller : OutputPoller) (session : Session ε) (reading : Reading)
    (mismatch : CountMismatch) :
    (session.receive poller reading).1 ≠ .error (.outputSize mismatch) := by
  rcases session.receive_cases poller reading with ⟨once, _⟩ | ⟨_, _, again⟩
  · rw [once]
    exact OutputPoller.poll_ne_outputSize _ _ _ mismatch
  · rw [again]
    exact OutputPoller.poll_ne_outputSize _ _ _ mismatch

theorem read_receives (poller : OutputPoller) (session : Session ε) (reading : Reading) :
    Tells (session.receive poller reading).1 reading (session.read poller reading).1 ∧
      (session.read poller reading).2 = (session.receive poller reading).2 := by
  cases reading with
  | look => exact ⟨.look, rfl⟩
  | await => exact ⟨.await, rfl⟩
  | fill buffer =>
      exact ⟨.fill (OutputPoller.fills_copy
        (session.receive_ne_outputSize poller (.fill buffer)) buffer), rfl⟩

def receiveAll : OutputPoller → Session ε → List (Visit ε) →
    List (Except SessionError (PollResult Observation)) × OutputPoller × Session ε
  | poller, session, [] => ([], poller, session)
  | poller, session, visit :: rest =>
      let (result, poller, session) := (visit.meanwhile session).receive poller visit.reading
      let (results, poller, session) := receiveAll poller session rest
      (result :: results, poller, session)

section Steps

variable {visit : Visit ε} {change : Session ε → Session ε} {handle : OutputPoller}
  {next : Session ε} {response : Response}
  {result : Except SessionError (PollResult Observation)}

theorem readAll_cons
    (read : (visit.meanwhile session).read poller visit.reading = (response, handle, next))
    (rest : List (Visit ε)) :
    session.readAll poller (visit :: rest) =
      (response :: (next.readAll handle rest).1, (next.readAll handle rest).2) := by
  rw [readAll, read]

theorem receiveAll_cons
    (received : (visit.meanwhile session).receive poller visit.reading = (result, handle, next))
    (rest : List (Visit ε)) :
    session.receiveAll poller (visit :: rest) =
      (result :: (next.receiveAll handle rest).1, (next.receiveAll handle rest).2) := by
  rw [receiveAll, received]

theorem pollAll_cons (polled : (change session).poll poller = (result, handle, next))
    (rest : List (Session ε → Session ε)) :
    session.pollAll poller (change :: rest) =
      (result :: (next.pollAll handle rest).1, (next.pollAll handle rest).2) := by
  rw [pollAll, polled]

end Steps

theorem readAll_receives (poller : OutputPoller) (session : Session ε) (visits : List (Visit ε)) :
    let received := session.receiveAll poller visits
    (session.readAll poller visits).2 = received.2 ∧
      (session.readAll poller visits).1.length = visits.length ∧
      List.Forall₂ (fun read result => Tells result read.1.reading read.2)
        (visits.zip (session.readAll poller visits).1) received.1 := by
  induction visits generalizing poller session with
  | nil => exact ⟨rfl, rfl, .nil⟩
  | cons visit rest ih =>
      have first := (visit.meanwhile session).read_receives poller visit.reading
      rcases received : (visit.meanwhile session).receive poller visit.reading with
        ⟨result, handle, next⟩
      rcases read : (visit.meanwhile session).read poller visit.reading with ⟨response, after⟩
      rw [received, read] at first
      obtain ⟨tells, rfl⟩ := first
      obtain ⟨same, length, others⟩ := ih handle next
      rw [readAll_cons read, receiveAll_cons received]
      exact ⟨same, congrArg (· + 1) length, .cons tells others⟩

/-- A reading takes the place of one plain poll, or of two of which the first finds nothing. -/
theorem exists_spread (poller : OutputPoller) (session : Session ε) (visits : List (Visit ε)) :
    let received := session.receiveAll poller visits
    ∃ changes polls, Spread visits received.1 changes polls ∧
      session.pollAll poller changes = (polls, received.2) := by
  induction visits generalizing poller session with
  | nil => exact ⟨[], [], .nil, rfl⟩
  | cons visit rest ih =>
      have first := (visit.meanwhile session).receive_cases poller visit.reading
      rcases received : (visit.meanwhile session).receive poller visit.reading with
        ⟨result, handle, next⟩
      rcases asked : (visit.meanwhile session).poll poller with ⟨found, between, waiting⟩
      rw [received, asked] at first
      rw [receiveAll_cons received]
      obtain ⟨changes, polls, spread, polled⟩ := ih handle next
      rcases first with ⟨once, spoken⟩ | ⟨waits, rfl, again⟩
      · obtain ⟨rfl, rfl, rfl⟩ := once
        refine ⟨visit.meanwhile :: changes, result :: polls, .once spoken spread, ?_⟩
        rw [pollAll_cons asked, polled]
      · have second : (id waiting).poll between = (result, handle, next) := again.symm
        refine ⟨visit.meanwhile :: id :: changes, .ok .empty :: result :: polls,
          .again waits spread, ?_⟩
        rw [pollAll_cons asked, pollAll_cons second, polled]

/-- Where a reading is one poll, readings are as many polls. -/
theorem pollAll_eq_of_supplied (poller : OutputPoller) (session : Session ε)
    (visits : List (Visit ε))
    (supplied : ∀ result ∈ (session.pollAll poller (visits.map (·.meanwhile))).1,
      saysNothing result = false) :
    session.pollAll poller (visits.map (·.meanwhile)) = session.receiveAll poller visits := by
  induction visits generalizing poller session with
  | nil => rfl
  | cons visit rest ih =>
      have first := (visit.meanwhile session).receive_cases poller visit.reading
      rcases asked : (visit.meanwhile session).poll poller with ⟨found, handle, next⟩
      rw [asked] at first
      rw [List.map_cons, pollAll_cons asked] at supplied ⊢
      obtain ⟨spoken, others⟩ := List.forall_mem_cons.mp supplied
      rcases first with ⟨once, _⟩ | ⟨_, rfl, _⟩
      · rw [receiveAll_cons once, ih handle next others]
      · contradiction

theorem IsStill.poll (still : session.IsStill) (poller : OutputPoller) :
    let polled := poller.poll session.isOpen session.outlets
    session.poll poller = (polled.1, polled.2.1, { session with outlets := polled.2.2 }) := by
  have same : ∀ outlets, settle { session with outlets } = { session with outlets } := by
    intro outlets
    simp only [settle, still outlets]
  simp only [Session.poll, same]

theorem IsStill.after_poll (still : session.IsStill) (poller : OutputPoller) :
    (session.poll poller).2.2.IsStill := by
  rw [still.poll]
  exact still

/-- Nothing comes into the queues while a reading waits. -/
theorem IsStill.receive (still : session.IsStill) (poller : OutputPoller) (reading : Reading) :
    session.receive poller reading = session.poll poller := by
  rcases session.receive_cases poller reading with ⟨once, _⟩ | ⟨_, nothing, again⟩
  · exact once
  · let polled := poller.poll session.isOpen session.outlets
    let after : Session ε := { session with outlets := polled.2.2 }
    have first : session.poll poller = (polled.1, polled.2.1, after) := still.poll poller
    have stillAfter : after.IsStill := still
    have same : polled.2.1.poll after.isOpen after.outlets = polled :=
      OutputPoller.poll_again nothing
    have second := stillAfter.poll polled.2.1
    rw [same] at second
    rw [again, first, second]

theorem IsStill.pollAll_eq (still : session.IsStill) (poller : OutputPoller)
    (visits : List (Visit ε))
    (kept : ∀ visit ∈ visits, ∀ now : Session ε, now.IsStill → (visit.meanwhile now).IsStill) :
    session.pollAll poller (visits.map (·.meanwhile)) = session.receiveAll poller visits := by
  induction visits generalizing poller session with
  | nil => rfl
  | cons visit rest ih =>
      obtain ⟨keeps, others⟩ := List.forall_mem_cons.mp kept
      have stillNow := keeps session still
      have stillNext := stillNow.after_poll poller
      have received := stillNow.receive poller visit.reading
      rcases asked : (visit.meanwhile session).poll poller with ⟨result, handle, next⟩
      rw [asked] at stillNext received
      rw [List.map_cons, pollAll_cons asked, receiveAll_cons received,
        ih stillNext handle others]

theorem IsStill.drained (still : session.IsStill) (abandoned : session.isOpen = nobody)
    (own : poller.HasOwnQueues) (visits : List (Visit ε))
    (undisturbed : ∀ visit ∈ visits, visit.meanwhile = id) :
    (session.receiveAll poller visits).1 =
      andThen (.ok .closed) ((poller.leftovers session.outlets).map poller.answerOf)
        visits.length := by
  induction visits generalizing poller session with
  | nil => cases poller.leftovers session.outlets <;> rfl
  | cons visit rest ih =>
      obtain ⟨first, others⟩ := List.forall_mem_cons.mp undisturbed
      obtain ⟨ownAfter, same, polled⟩ := OutputPoller.poll_nobody own session.outlets
      let after : Session ε :=
        { session with outlets := (poller.poll nobody session.outlets).2.2 }
      have received : (visit.meanwhile session).receive poller visit.reading =
          ((poller.poll nobody session.outlets).1, (poller.poll nobody session.outlets).2.1,
            after) := by
        rw [first, id, still.receive, still.poll, abandoned]
      rw [receiveAll_cons received, @ih _ after still abandoned ownAfter others, same]
      cases waiting : poller.leftovers session.outlets with
      | nil =>
          simp only [waiting] at polled
          rw [polled.1, polled.2]
          rfl
      | cons found others =>
          simp only [waiting] at polled
          rw [polled.1, polled.2]
          rfl

/-- A reading brings what a plain poll in its place brings, and a buffer is filled from nothing
else. What comes meanwhile, and when, makes no difference to that. -/
theorem readings_are_polls (poller : OutputPoller) (session : Session ε)
    (visits : List (Visit ε)) : ∃ results, session.ReadsAsPolled poller visits results := by
  obtain ⟨after, length, tells⟩ := session.readAll_receives poller visits
  refine ⟨(session.receiveAll poller visits).1, length, tells, ?_, ?_, ?_, ?_⟩
  · obtain ⟨changes, polls, spread, polled⟩ := session.exists_spread poller visits
    rw [after]
    exact ⟨changes, polls, spread, polled, spread.filter_eq⟩
  · intro still kept
    rw [after]
    exact still.pollAll_eq poller visits kept
  · intro supplied
    rw [after]
    exact session.pollAll_eq_of_supplied poller visits supplied
  · intro still abandoned own undisturbed
    exact still.drained abandoned own visits undisturbed

/-- What a run has left behind a presence stream is read: two faces that differ, the first of
them into a buffer that is too small, and then into one that fits. -/
theorem readings_are_polls_of_faces :
    let seen (micros : Int) (isPresent : Bool) : Packet := ⟨.clamp micros, .presence isPresent⟩
    let faces (micros : Int) : Packet :=
      ⟨.clamp micros, .landmarkLists [⟨[{ x := ⟨1⟩ }, { y := ⟨2⟩ }]⟩, ⟨[{ z := ⟨3⟩ }]⟩]⟩
    let session : Session SessionEngine := { opened .multiLandmarks [] {} with
      outlets := { channels := [⟨none, [faces 2, faces 4], true⟩,
        ⟨none, [seen 1 false, seen 2 true, seen 3 false, seen 4 true], true⟩] } }
    let poller : OutputPoller := ⟨.multiLandmarks, .gated ⟨⟨"found", 0⟩, ⟨"seen", 1⟩, none⟩⟩
    let old : Element := .landmark { x := ⟨9⟩ }
    let fill (buffer : List Element) : Visit SessionEngine := { reading := .fill buffer }
    let visits := [fill [old], fill [old], { reading := .look }, fill [old, old], fill [old]]
    let both : Output := .landmarkSet [[{ x := ⟨1⟩ }, { y := ⟨2⟩ }], [{ z := ⟨3⟩ }]]
    (session.readAll poller visits).1 = [.filled (.ok false) [old],
        .filled (.error (.outputSize ⟨1, 2⟩)) [old],
        .observed (.ok (.ready ⟨.clamp 3, none⟩)),
        .filled (.ok true) [.landmark { x := ⟨1⟩ }, .landmark { y := ⟨2⟩ }],
        .filled (.ok false) [old]] ∧
      session.ReadsAsPolled poller visits [
        .ok (.ready ⟨.clamp 1, none⟩), .ok (.ready ⟨.clamp 2, some both⟩),
        .ok (.ready ⟨.clamp 3, none⟩), .ok (.ready ⟨.clamp 4, some both⟩), .ok .closed] := by
  intro seen faces session poller old fill visits both
  refine ⟨by decide +kernel, ?_⟩
  obtain ⟨results, reads⟩ := readings_are_polls poller session visits
  have still : session.IsStill := fun _ => rfl
  have drained := reads.drained still (funext fun _ => rfl) (by decide : (1 : Nat) ≠ 0)
    (by simp [visits, fill])
  have left : andThen (.ok .closed) ((poller.leftovers session.outlets).map poller.answerOf)
      visits.length = [
        .ok (.ready ⟨.clamp 1, none⟩), .ok (.ready ⟨.clamp 2, some both⟩),
        .ok (.ready ⟨.clamp 3, none⟩), .ok (.ready ⟨.clamp 4, some both⟩), .ok .closed] := by
    decide +kernel
  rwa [drained.trans left] at reads

end Session

end FrameFlow
