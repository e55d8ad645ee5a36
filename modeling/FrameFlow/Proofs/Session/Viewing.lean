import FrameFlow.Proofs.Session.Hearing
import FrameFlow.Proofs.Session.Seating

/-!
What the holder of a ticket can see of a session, whichever queues he was given: the packets that
wait for him, and whether more may come, or the newest preview. Polls, packets that arrive and the
end of a run are functions of that.
-/

namespace FrameFlow

/-- What a poll brings. -/
inductive Sight where
  | output (result : Except SessionError (PollResult Observation))
  | packet (result : PollResult Packet)
  | frame (held : Option StampedFrame)

inductive View where
  | nothing
  | packets (stream : String) (inbox : Inbox)
  | plain (task : Task) (stream : String) (inbox : Inbox)
  | gated (task : Task) (gate : Gate)
  | latest (held : LatestFrame)

namespace LatestFrame

/-- Only images are kept. -/
def keep (latest : LatestFrame) (packet : Packet) : LatestFrame :=
  match packet.payload with
  | .image frame => latest.store ⟨packet.timestamp, frame⟩
  | _ => latest

/-- The newest preview after one more emission. -/
def renew (previewStream : String) (latest : LatestFrame) : Emission → LatestFrame
  | .packet stream packet => if stream = previewStream then latest.keep packet else latest
  | .fault _ => latest

end LatestFrame

namespace View

/-- How outputs are read from the packets of a stream; the queue has no part in it. -/
def answer (task : Task) (stream : String) :
    Except SessionError (PollResult Gated) → Except SessionError (PollResult Observation) :=
  OutputPoller.answerOf ⟨task, .plain ⟨stream, 0⟩⟩

def poll : View → Option Sight × View
  | .nothing => (none, .nothing)
  | .packets stream inbox => (some (.packet inbox.take.1), .packets stream inbox.take.2)
  | .plain task stream inbox =>
      (some (.output (answer task stream (.ok (inbox.take.1.map .present)))),
        .plain task stream inbox.take.2)
  | .gated task gate =>
      (some (.output (answer task gate.payloadStream gate.poll.1)), .gated task gate.poll.2)
  | .latest held => (some (.frame held.take.1), .latest held.take.2)

/-- A look at the newest preview, which stays where it is. -/
def look : View → Option Sight
  | .latest held => some (.frame held.snapshot)
  | .nothing | .packets .. | .plain .. | .gated .. => none

/-- The same change to the packets of every stream, or to the preview. -/
def map (change : String → Inbox → Inbox) (renew : LatestFrame → LatestFrame) : View → View
  | .nothing => .nothing
  | .packets stream inbox => .packets stream (change stream inbox)
  | .plain task stream inbox => .plain task stream (change stream inbox)
  | .gated task gate => .gated task { gate with
      presence := change gate.presenceStream gate.presence
      payload := change gate.payloadStream gate.payload }
  | .latest held => .latest (renew held)

theorem map_id (view : View) : view.map (fun _ inbox => inbox) id = view := by
  cases view <;> rfl

def receive (previewStream : String) (emissions : List Emission) : View → View :=
  map (fun stream inbox =>
    { inbox with packets := inbox.packets ++ emissions.flatMap (Emission.on stream) })
    fun latest => emissions.foldl (LatestFrame.renew previewStream) latest

/-- Nothing more comes. -/
def close : View → View := map (fun _ inbox => { inbox with isOpen := false }) id

end View

section Polling

variable {outlets : Outlets} {isOpen : ChannelId → Bool}

/-- The queue of a poller is what a poll left of it. -/
theorem Poller.inbox_poll {poller : Poller} (stands : outlets.Stands poller.channel)
    (isOpen : ChannelId → Bool) :
    (poller.poll isOpen outlets).2.inbox isOpen poller.channel =
      (outlets.inbox isOpen poller.channel).take.2 := by
  obtain ⟨still, left⟩ := stands.setPackets poller.channel
    (outlets.inbox isOpen poller.channel).take.2.packets
  rw [if_pos rfl] at left
  have opened := (outlets.inbox isOpen poller.channel).isOpen_take
  refine (still.inbox_eq isOpen).trans ?_
  rw [left, stands.inbox_eq] at *
  exact congrArg (Inbox.mk _) opened.symm

/-- So are the queues of a gated poller, put together again. -/
theorem GatedPoller.gate_poll {poller : GatedPoller}
    (apart : poller.presence.channel ≠ poller.payload.channel)
    (presence : outlets.Stands poller.presence.channel)
    (payload : outlets.Stands poller.payload.channel) (isOpen : ChannelId → Bool) :
    let polled := poller.poll isOpen outlets
    polled.2.1.gate isOpen polled.2.2 = (poller.gate isOpen outlets).poll.2 :=
  gate_put apart presence payload (poller.gate isOpen outlets).streams_poll
    (poller.gate isOpen outlets).isOpen_poll

end Polling

namespace Outlets

variable {outlets after : Outlets} {place : PlaceId}

theorem place_setPlace (inside : place < outlets.places.length) (other : PlaceId)
    (latest : LatestFrame) : (outlets.setPlace other latest).place place =
      if other = place then latest else outlets.place place := by
  rw [Outlets.place, setPlace, List.getElem?_set]
  by_cases same : other = place
  · subst same
    rw [if_pos rfl, if_pos rfl, if_pos inside]
    rfl
  · rw [if_neg same, if_neg same]
    rfl

theorem places_reportTo (sink : Option Unit) (fault : Fault) (outlets : Outlets) :
    (SessionEngine.reaction.reportTo sink fault outlets).places = outlets.places := by
  cases sink with
  | none => rfl
  | some sink =>
      simp only [Reaction.reportTo, SessionEngine.reaction, Outlets.report]
      split <;> rfl

theorem place_of_deliver {stream : String} {binding : Binding} {packet : Packet}
    {answer : Except Status Unit} (inside : place < outlets.places.length)
    (delivered : deliver stream binding packet outlets = some (answer, after)) :
    place < after.places.length ∧ after.place place =
      if binding = .latest place then (outlets.place place).keep packet
      else outlets.place place := by
  simp only [deliver] at delivered
  cases binding with
  | output task slot listener =>
      rw [handle] at delivered
      cases decoded : task.decode stream packet.payload <;> rw [decoded] at delivered <;>
        cases delivered <;> exact ⟨inside, rfl⟩
  | packets listener =>
      cases delivered
      exact ⟨inside, rfl⟩
  | preview listener =>
      rw [handle] at delivered
      cases content : packet.payload <;> rw [content] at delivered <;> cases delivered <;>
        exact ⟨inside, rfl⟩
  | latest other =>
      rw [handle] at delivered
      unfold LatestFrame.keep
      cases content : packet.payload with
      | image frame =>
          rw [content] at delivered
          cases delivered
          refine ⟨by rw [setPlace, List.length_set]; exact inside, ?_⟩
          by_cases same : other = place
          · subst same
            rw [if_pos rfl]
            exact (place_setPlace inside ..).trans (if_pos rfl)
          · rw [if_neg fun equal => same (Binding.latest.inj equal)]
            exact (place_setPlace inside ..).trans (if_neg same)
      | _ =>
          rw [content] at delivered
          cases delivered
          exact ⟨inside, (ite_self _).symm⟩
  | poller channel =>
      obtain ⟨sent, accepted, same⟩ := Option.map_eq_some_iff.mp delivered
      cases same
      rw [send] at accepted
      split at accepted
      · cases accepted
        exact ⟨inside, rfl⟩
      · obtain ⟨queue, _, rfl⟩ := Option.map_eq_some_iff.mp accepted
        exact ⟨inside, rfl⟩

/-- A place that the preview stream has to itself holds the newest preview. -/
theorem place_of_emit {observers : StreamMap Binding} {previewStream : String}
    {sink : Option Unit} {emission : Emission} (inside : place < outlets.places.length)
    (own : ∀ stream, observers.find? stream = some (.latest place) ↔ stream = previewStream)
    (emitted : SessionEngine.reaction.emit observers sink emission outlets = some after) :
    place < after.places.length ∧
      after.place place = (outlets.place place).renew previewStream emission := by
  have reported (fault : Fault) (outlets : Outlets) :
      (SessionEngine.reaction.reportTo sink fault outlets).places = outlets.places :=
    places_reportTo sink fault outlets
  cases emission with
  | fault fault =>
      cases emitted
      rw [Outlets.place, reported]
      exact ⟨inside, rfl⟩
  | packet stream packet =>
      rw [LatestFrame.renew]
      cases found : observers.find? stream with
      | none =>
          have unlike : stream ≠ previewStream := by
            intro same
            have bound := found.symm.trans ((own stream).mpr same)
            contradiction
          simp only [Reaction.emit, found, Option.some.injEq] at emitted
          rw [← emitted, if_neg unlike]
          exact ⟨inside, rfl⟩
      | some binding =>
          have same := own stream
          rw [found, Option.some.injEq] at same
          simp only [Reaction.emit, found, Option.map_eq_some_iff] at emitted
          obtain ⟨⟨answer, middle⟩, delivered, rfl⟩ := emitted
          have kept := place_of_deliver inside delivered
          simp only [same] at kept
          cases answer with
          | ok done => exact kept
          | error status =>
              have unmoved := reported ⟨some stream, some packet.timestamp, status⟩ middle
              simp only [Outlets.place, unmoved]
              exact kept

end Outlets

namespace Ticket

/-- What the holder of a ticket sees, where some queues are open. -/
def view (isOpen : ChannelId → Bool) (outlets : Outlets) : Ticket → View
  | .nothing => .nothing
  | .packets source => .packets source.stream (outlets.inbox isOpen source.channel)
  | .outputs ⟨task, .plain source⟩ =>
      .plain task source.stream (outlets.inbox isOpen source.channel)
  | .outputs ⟨task, .gated source⟩ => .gated task (source.gate isOpen outlets)
  | .viewer place => .latest (outlets.place place)

/-- One poll with a ticket: what it brings, the ticket that is in hand then, and what is left. -/
def poll (isOpen : ChannelId → Bool) (outlets : Outlets) :
    Ticket → Option Sight × Ticket × Outlets
  | .nothing => (none, .nothing, outlets)
  | .packets source =>
      let (result, left) := source.poll isOpen outlets
      (some (.packet result), .packets source, left)
  | .outputs handle =>
      let (result, handle, left) := handle.poll isOpen outlets
      (some (.output result), .outputs handle, left)
  | .viewer place =>
      let (held, left) := (outlets.place place).take
      (some (.frame held), .viewer place, outlets.setPlace place left)

/-- The queues and the place of a ticket are there, and the queues are different ones. -/
structure IsSound (ticket : Ticket) (outlets : Outlets) : Prop where
  stands : ∀ poller ∈ ticket.pollers, outlets.Stands poller.channel
  apart : (ticket.pollers.map (·.channel)).Nodup
  inside : ∀ place ∈ ticket.places, place < outlets.places.length

/-- Nothing else comes into the queues and the place of a ticket. -/
structure Owns (ticket : Ticket) (previewStream : String) (bindings : StreamMap Binding) :
    Prop where
  queues : ∀ poller ∈ ticket.pollers, poller.Owns bindings
  places : ∀ place ∈ ticket.places, ∀ stream,
    bindings.find? stream = some (.latest place) ↔ stream = previewStream

variable {ticket : Ticket} {outlets after : Outlets} {isOpen : ChannelId → Bool}

/-- A view is made of the queues and the place of a ticket alone. -/
theorem view_of_parts {others : ChannelId → Bool} {change : String → Inbox → Inbox}
    {renew : LatestFrame → LatestFrame}
    (moved : ∀ poller ∈ ticket.pollers, after.inbox others poller.channel =
      change poller.stream (outlets.inbox isOpen poller.channel))
    (renewed : ∀ place ∈ ticket.places, after.place place = renew (outlets.place place)) :
    ticket.view others after = (ticket.view isOpen outlets).map change renew := by
  match ticket, moved, renewed with
  | .nothing, _, _ => rfl
  | .packets source, moved, _ => exact congrArg (View.packets _) (moved source List.mem_cons_self)
  | .outputs ⟨task, .plain source⟩, moved, _ =>
      exact congrArg (View.plain _ _) (moved source List.mem_cons_self)
  | .outputs ⟨task, .gated source⟩, moved, _ =>
      have payload := moved source.payload List.mem_cons_self
      have presence := moved source.presence (List.mem_cons_of_mem _ List.mem_cons_self)
      simp only [view, View.map, GatedPoller.gate, payload, presence]
  | .viewer place, _, renewed => exact congrArg View.latest (renewed place List.mem_cons_self)

theorem view_congr {others : ChannelId → Bool} (sound : ticket.IsSound outlets)
    (kept : ∀ poller ∈ ticket.pollers, after.Stands poller.channel ∧
      after.queue poller.channel = outlets.queue poller.channel ∧
        others poller.channel = isOpen poller.channel)
    (held : ∀ place ∈ ticket.places, after.place place = outlets.place place) :
    ticket.view others after = ticket.view isOpen outlets := by
  rw [← View.map_id (ticket.view isOpen outlets)]
  refine view_of_parts (fun poller member => ?_) held
  obtain ⟨still, queue, opened⟩ := kept poller member
  rw [still.inbox_eq, (sound.stands poller member).inbox_eq, queue, opened]

/-- When nothing comes any more, the queues are as they were, and closed. -/
theorem view_nobody (sound : ticket.IsSound outlets) :
    ticket.view nobody outlets = (ticket.view isOpen outlets).close := by
  refine view_of_parts (fun poller member => ?_) fun _ _ => rfl
  rw [(sound.stands poller member).inbox_eq, (sound.stands poller member).inbox_eq]
  rfl

/-- What is emitted for the streams of a ticket arrives where its holder looks for it, and
nothing else does. -/
theorem IsSound.view_of_emits {observers : StreamMap Binding} {previewStream : String}
    {emissions : List Emission} (sound : ticket.IsSound outlets)
    (owns : ticket.Owns previewStream observers)
    (emits : SessionEngine.reaction.Emits observers (some ()) emissions outlets after)
    (isOpen : ChannelId → Bool) :
    ticket.IsSound after ∧ ticket.view isOpen after =
      (ticket.view isOpen outlets).receive previewStream emissions := by
  have brought (poller : Poller) (member : poller ∈ ticket.pollers) :
      after.Stands poller.channel ∧ after.queue poller.channel =
        outlets.queue poller.channel ++ emissions.flatMap (Emission.on poller.stream) :=
    ((owns.queues poller member).brings (some ())).emits emits (sound.stands poller member)
  have renewed (place : PlaceId) (member : place ∈ ticket.places) :
      place < after.places.length ∧ after.place place =
        emissions.foldl (LatestFrame.renew previewStream) (outlets.place place) :=
    emits.foldl_eq (fun outlets => place < outlets.places.length) (Outlets.place · place)
      (LatestFrame.renew previewStream) (sound.inside place member)
      fun inside emitted => Outlets.place_of_emit inside (owns.places place member) emitted
  refine ⟨⟨fun poller member => (brought poller member).1, sound.apart,
    fun place member => (renewed place member).1⟩,
    view_of_parts (fun poller member => ?_) fun place member => (renewed place member).2⟩
  obtain ⟨still, queue⟩ := brought poller member
  rw [still.inbox_eq, (sound.stands poller member).inbox_eq, queue]

/-- What is not changed by a poll that reads some queues, and takes from some places. -/
structure Spares (pollers : List Poller) (places : List PlaceId) (outlets after : Outlets) :
    Prop where
  eases : outlets.Eases after
  rest : ∃ channels places, after = { outlets with channels, places }
  stands : ∀ channel, outlets.Stands channel → after.Stands channel
  queue : ∀ channel, outlets.Stands channel → (∀ poller ∈ pollers, poller.channel ≠ channel) →
    after.queue channel = outlets.queue channel
  inside : after.places.length = outlets.places.length
  place : ∀ place, place < outlets.places.length → place ∉ places →
    after.place place = outlets.place place

/-- A poll writes nothing but queues and places, and only those of its ticket. -/
theorem poll_spares (ticket : Ticket) (isOpen : ChannelId → Bool) (outlets : Outlets) :
    let polled := ticket.poll isOpen outlets
    polled.2.1.pollers = ticket.pollers ∧ polled.2.1.places = ticket.places ∧
      Spares ticket.pollers ticket.places outlets polled.2.2 := by
  match ticket with
  | .nothing =>
      exact ⟨rfl, rfl, ⟨rfl, rfl⟩, ⟨_, _, rfl⟩, fun _ stands => stands, fun _ _ _ => rfl, rfl,
        fun _ _ _ => rfl⟩
  | .packets source | .outputs ⟨task, .plain source⟩ =>
      let left := (outlets.inbox isOpen source.channel).take.2.packets
      refine ⟨rfl, rfl, source.eases_poll isOpen outlets, ⟨_, _, rfl⟩,
        fun channel stands => (stands.setPackets source.channel left).1,
        fun channel stands unlike => ?_, rfl, fun _ _ _ => rfl⟩
      exact (stands.setPackets source.channel left).2.trans
        (if_neg (unlike source List.mem_cons_self))
  | .outputs ⟨task, .gated source⟩ =>
      let left := (source.gate isOpen outlets).poll.2
      have written (channel : ChannelId) (stands : outlets.Stands channel) :=
        (stands.setPackets source.presence.channel left.presence.packets).1.setPackets
          source.payload.channel left.payload.packets
      refine ⟨rfl, rfl, source.eases_poll isOpen outlets, ⟨_, _, rfl⟩,
        fun channel stands => (written channel stands).1, fun channel stands unlike => ?_, rfl,
        fun _ _ _ => rfl⟩
      have signalled := unlike source.presence (List.mem_cons_of_mem _ List.mem_cons_self)
      have paid := unlike source.payload List.mem_cons_self
      refine (written channel stands).2.trans ?_
      rw [if_neg paid, (stands.setPackets ..).2, if_neg signalled]
  | .viewer place =>
      refine ⟨rfl, rfl, ⟨rfl, rfl⟩, ⟨_, _, rfl⟩, fun _ stands => stands, fun _ _ _ => rfl,
        List.length_set, fun other inside unlike => ?_⟩
      exact (Outlets.place_setPlace inside ..).trans
        (if_neg fun same => unlike (List.mem_singleton.mpr (Eq.symm same)))

theorem IsSound.poll (sound : ticket.IsSound outlets) (isOpen : ChannelId → Bool) :
    (ticket.poll isOpen outlets).2.1.IsSound (ticket.poll isOpen outlets).2.2 := by
  obtain ⟨pollers, places, spares⟩ := ticket.poll_spares isOpen outlets
  refine ⟨?_, pollers ▸ sound.apart, ?_⟩
  · rw [pollers]
    exact fun poller member => spares.stands poller.channel (sound.stands poller member)
  · rw [places, spares.inside]
    exact sound.inside

/-- What a poll brings can be told from the view alone. -/
theorem IsSound.view_poll (sound : ticket.IsSound outlets) (isOpen : ChannelId → Bool) :
    let polled := ticket.poll isOpen outlets
    (polled.1, polled.2.1.view isOpen polled.2.2) = (ticket.view isOpen outlets).poll := by
  match ticket, sound with
  | .nothing, _ => rfl
  | .packets source, sound =>
      exact congrArg (Prod.mk _ <| View.packets _ ·)
        (Poller.inbox_poll (sound.stands source List.mem_cons_self) isOpen)
  | .outputs ⟨task, .plain source⟩, sound =>
      have left := Poller.inbox_poll (sound.stands source List.mem_cons_self) isOpen
      simp only [Ticket.poll, OutputPoller.poll_plain, Ticket.view, left]
      rfl
  | .outputs ⟨task, .gated source⟩, sound =>
      have apart : source.presence.channel ≠ source.payload.channel := by
        have different := sound.apart
        exact fun same => (List.nodup_cons.mp different).1 (List.mem_singleton.mpr same.symm)
      have left := GatedPoller.gate_poll apart
        (sound.stands source.presence (List.mem_cons_of_mem _ List.mem_cons_self))
        (sound.stands source.payload List.mem_cons_self) isOpen
      simp only [Ticket.poll, OutputPoller.poll_gated, Ticket.view, left]
      rfl
  | .viewer place, sound =>
      have left := Outlets.place_setPlace (sound.inside place List.mem_cons_self) place
        (outlets.place place).take.2
      exact congrArg (Prod.mk _ <| View.latest ·) (left.trans (if_pos rfl))

end Ticket

/-- A poll leaves one with a ticket of the same kind. -/
theorem Wish.Gets.poll {wish : Wish} {task : Task} {ticket : Ticket} {outlets : Outlets}
    {isOpen : ChannelId → Bool} (gets : wish.Gets task ticket) :
    wish.Gets task (ticket.poll isOpen outlets).2.1 := by
  cases gets with
  | gated gates => exact .gated gates
  | plain gates => exact .plain gates
  | outputs => exact .outputs
  | packets => exact .packets
  | preview => exact .preview
  | polledPackets => exact .polledPackets
  | latestPreview => exact .latestPreview

end FrameFlow
