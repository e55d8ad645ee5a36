import FrameFlow.Proofs.Session.Observing

/-!
A poller without a presence stream while its session runs. It hears the packets of its stream
in order, one by one, and then the end.
-/

namespace FrameFlow

namespace OutputPoller

/-- What a poll without a presence stream makes of a packet. -/
def answerTo (poller : OutputPoller) (packet : Packet) :
    Except SessionError (PollResult Observation) :=
  poller.answerOf (.ok (.ready (.present packet)))

theorem saysNothing_answerTo (poller : OutputPoller) (packet : Packet) :
    saysNothing (poller.answerTo packet) = false :=
  poller.saysNothing_answerOf _

theorem poll_plain (task : Task) (source : Poller) (isOpen : ChannelId → Bool)
    (outlets : Outlets) :
    let polled := source.poll isOpen outlets
    OutputPoller.poll isOpen ⟨task, .plain source⟩ outlets =
      (OutputPoller.answerOf ⟨task, .plain source⟩ (.ok (polled.1.map .present)),
        ⟨task, .plain source⟩, polled.2) := by
  intro polled
  simp only [OutputPoller.poll, pollSource]
  rcases (source.poll isOpen outlets).1 with packet | _ | _ <;> rfl

end OutputPoller

namespace Poller

/-- A queue is supplied, and whatever frames follow, what was heard so far comes first of all
that there is to hear. -/
structure IsHeard (poller : Poller) (reader : OutputPoller) (graph : Graph)
    (heard : List (Except SessionError (PollResult Observation))) (frames : List StampedFrame)
    (engine : SessionEngine) (outlets : Outlets) : Prop where
  supplied : poller.IsSupplied graph frames.length engine outlets
  yields : ∀ later, (engine.worker = none → later = []) → ∀ number,
    heard ++ andThen (.ok .closed)
        ((poller.ahead graph frames.length later engine outlets).map reader.answerTo) number =
      andThen (.ok .closed)
        ((graph.packetsOn poller.stream 0 (frames ++ later)).map reader.answerTo)
        (heard.length + number)

variable {poller : Poller} {reader : OutputPoller} {graph : Graph} {frames : List StampedFrame}
  {engine : SessionEngine} {outlets : Outlets}
  {heard : List (Except SessionError (PollResult Observation))}

theorem IsHeard.congr {after : Outlets}
    (hears : poller.IsHeard reader graph heard frames engine outlets)
    (same : after.channels[poller.channel]? = outlets.channels[poller.channel]?) :
    poller.IsHeard reader graph heard frames engine after where
  supplied := hears.supplied.congr same
  yields later still number := by
    rw [ahead_congr same]
    exact hears.yields later still number

theorem lasting_isHeard (poller : Poller) (reader : OutputPoller) (graph : Graph)
    (heard : List (Except SessionError (PollResult Observation))) :
    Service.Lasting (poller.IsHeard reader graph heard) where
  counted hears _ := hears.congr rfl
  withRun hears _ := ⟨⟨hears.supplied.stands, hears.supplied.worker⟩, hears.yields⟩
  accept := by
    intro frames engine outlets hears works run input
    obtain ⟨worker, found⟩ := Option.isSome_iff_exists.mp works
    obtain ⟨supplied, same⟩ := hears.supplied.accept found run input
    have longer : (frames ++ [input]).length = frames.length + 1 := List.length_append
    refine ⟨longer ▸ supplied, ?_⟩
    intro later _ number
    rw [longer, same, List.append_assoc, List.singleton_append]
    apply hears.yields (input :: later)
    intro idle
    rw [idle] at found
    contradiction
  advance := by
    intro frames engine outlets hears
    obtain ⟨supplied, same⟩ := hears.supplied.advance
    refine ⟨supplied, ?_⟩
    intro later still number
    rw [same]
    apply hears.yields later
    intro idle
    exact still (by simp only [ScriptedEngine.advance, idle])

/-- More answers are heard if they are the first ones of what was ahead. -/
theorem IsHeard.hear (hears : poller.IsHeard reader graph heard frames engine outlets)
    {after : Outlets} (stands : after.Stands poller.channel)
    {told : List (Except SessionError (PollResult Observation))}
    (next : ∀ later, (engine.worker = none → later = []) → ∀ number,
      andThen (.ok .closed)
          ((poller.ahead graph frames.length later engine outlets).map reader.answerTo)
          (told.length + number) =
        told ++ andThen (.ok .closed)
          ((poller.ahead graph frames.length later engine after).map reader.answerTo) number) :
    poller.IsHeard reader graph (heard ++ told) frames engine after := by
  refine ⟨⟨stands, hears.supplied.worker⟩, ?_⟩
  intro later still number
  rw [List.append_assoc, ← next later still, hears.yields later still, List.length_append,
    Nat.add_assoc]

theorem ahead_setPackets (stands : outlets.Stands poller.channel) (packets : List Packet)
    (count : Nat) (later : List StampedFrame) :
    poller.ahead graph count later engine (outlets.setPackets poller.channel packets) =
      packets ++ poller.unsent graph count later engine := by
  have left := (stands.setPackets poller.channel packets).2
  rw [if_pos rfl] at left
  rw [ahead, left]

/-- A poll hears nothing, or what comes next. -/
theorem IsHeard.poll (hears : poller.IsHeard reader graph heard frames engine outlets)
    {isOpen : ChannelId → Bool}
    (opened : engine.worker.isSome = true → isOpen poller.channel = true) :
    let polled := poller.poll isOpen outlets
    poller.IsHeard reader graph
      (heard ++ [reader.answerOf (.ok (polled.1.map .present))].filter (!saysNothing ·))
      frames engine polled.2 := by
  have stands := hears.supplied.stands
  simp only [Poller.poll, stands.inbox_eq, Inbox.take]
  cases waiting : outlets.queue poller.channel with
  | nil =>
      have standing := (stands.setPackets poller.channel []).1
      cases still : isOpen poller.channel with
      | true =>
          apply hears.hear standing
          intro later _ number
          rw [ahead_setPackets stands, ahead, waiting]
          exact congrArg _ (Nat.zero_add number)
      | false =>
          -- Nobody can send any more, so there is nothing ahead and the end is heard.
          have idle : engine.worker = none := by
            rw [← Option.not_isSome_iff_eq_none]
            intro works
            rw [opened works] at still
            contradiction
          apply hears.hear standing
          intro later none number
          rw [ahead_setPackets stands, ahead, waiting, none idle, unsent_of_idle idle]
          exact congrArg _ (Nat.add_comm 1 number)
  | cons packet rest =>
      have told : [reader.answerTo packet].filter (!saysNothing ·) = [reader.answerTo packet] := by
        simp [reader.saysNothing_answerTo]
      change poller.IsHeard reader graph (heard ++ [reader.answerTo packet].filter _) _ _ _
      rw [told]
      apply hears.hear (stands.setPackets poller.channel rest).1
      intro later _ number
      rw [ahead_setPackets stands, ahead, waiting]
      exact congrArg _ (Nat.add_comm 1 number)

end Poller

namespace Service

/-- What holds of a poller without a presence stream and its session, however they are used. -/
structure Hears (graph : Graph) (task : Task) (source : Poller) (service : Service) : Prop where
  works : service.Works
  poller : service.poller = ⟨task, .plain source⟩
  hears : service.Upholds (source.IsHeard ⟨task, .plain source⟩ graph service.heard)

variable {graph : Graph} {task : Task} {source : Poller} {service : Service}

theorem Hears.poll (hears : service.Hears graph task source)
    (coupled : service.session.Coupled) (next : (service.use .poll).session.Coupled) :
    (service.use .poll).Hears graph task source := by
  obtain ⟨works, poller, hears⟩ := hears
  let polled := source.poll service.session.isOpen service.session.outlets
  let answer := OutputPoller.answerOf ⟨task, .plain source⟩ (.ok (polled.1.map .present))
  have same : service.use .poll = { service with
      session := Session.settle { service.session with outlets := polled.2 }
      poller := ⟨task, .plain source⟩
      answers := service.answers ++ [answer] } := by
    simp only [use, Session.poll, poller, OutputPoller.poll_plain]
    rfl
  have heard : (service.use .poll).heard =
      service.heard ++ [answer].filter (!saysNothing ·) := by
    rw [same]
    exact List.filter_append ..
  refine ⟨works.use coupled next, by rw [same], ?_⟩
  rw [heard, same]
  exact (Poller.lasting_isHeard ..).advance (hears.poll hears.supplied.isOpen)

theorem Hears.use (hears : service.Hears graph task source)
    (coupled : service.session.Coupled) {use : Use} (next : (service.use use).session.Coupled) :
    (service.use use).Hears graph task source := by
  have works := hears.works.use coupled next
  cases use with
  | feed input =>
      have same : (service.use (.feed input)).poller = service.poller ∧
          (service.use (.feed input)).heard = service.heard := by
        simp only [Service.use]
        split <;> exact ⟨rfl, rfl⟩
      refine ⟨works, same.1.trans hears.poller, ?_⟩
      rw [same.2]
      exact (Poller.lasting_isHeard ..).feed coupled hears.works hears.hears input
  | poll => exact hears.poll coupled next
  | stop => exact ⟨works, hears.poller, (Poller.lasting_isHeard ..).stop coupled hears.hears⟩

/-- When the engine is done, more polls go on with what was not heard yet. -/
theorem Hears.polls_eq (hears : service.Hears graph task source)
    (coupled : service.session.Coupled) (resting : service.session.state ≠ .configured)
    (idle : service.session.engine.worker = none) (number : Nat) :
    service.heard ++ Session.outputPolls number service.poller service.session =
      andThen (.ok .closed) ((graph.packetsOn source.stream 0 service.frames).map
        (OutputPoller.answerTo ⟨task, .plain source⟩)) (service.heard.length + number) := by
  have released : service.session.Released :=
    ⟨coupled.agrees.cleared resting, coupled.agrees.observers, idle⟩
  have own : OutputPoller.HasOwnQueues ⟨task, .plain source⟩ := trivial
  have yields := hears.hears.yields [] (fun _ => rfl) number
  rw [List.append_nil, Poller.ahead, Poller.unsent_of_idle idle, List.append_nil] at yields
  rw [← yields, hears.poller, released.outputPolls_eq own, OutputPoller.leftovers, List.map_map]
  rfl

end Service

end FrameFlow
