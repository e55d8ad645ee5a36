import FrameFlow.Proofs.Session.Overhearing
import FrameFlow.Proofs.Session.Turns
import FrameFlow.Proofs.Session.Viewing

/-!
What no binding can reach stays as it is. A queue or a place that nothing is bound to is not
filled, and a listener whom no binding names is told of no packet, whatever else is done to a
session: until he is bound again, since queues and places are never bound twice.
-/

namespace FrameFlow

namespace Outlets

variable {outlets before middle after : Outlets}

/-- Queues and places are never taken away. -/
structure Grows (before after : Outlets) : Prop where
  channelsLe : before.channels.length ≤ after.channels.length
  placesLe : before.places.length ≤ after.places.length

theorem Grows.refl (outlets : Outlets) : outlets.Grows outlets := ⟨Nat.le_refl _, Nat.le_refl _⟩

theorem Grows.trans (first : before.Grows middle) (second : middle.Grows after) :
    before.Grows after :=
  ⟨Nat.le_trans first.channelsLe second.channelsLe, Nat.le_trans first.placesLe second.placesLe⟩

/-- What callers do to outlets: they make queues and places, and take from those there are. -/
structure Tends (before after : Outlets) : Prop extends Grows before after where
  events : after.events = before.events
  queues : ∀ channel, before.queue channel = [] → after.queue channel = []
  places : ∀ place, before.place place = {} → after.place place = {}

theorem Tends.of_same (events : after.events = before.events)
    (channels : after.channels = before.channels) (places : after.places = before.places) :
    before.Tends after where
  events := events
  queues channel empty := (queue_of_channels channels).trans empty
  places place empty := by rwa [Outlets.place, places]
  channelsLe := Nat.le_of_eq (congrArg List.length channels.symm)
  placesLe := Nat.le_of_eq (congrArg List.length places.symm)

theorem Tends.refl (outlets : Outlets) : outlets.Tends outlets := .of_same rfl rfl rfl

theorem Tends.trans (first : before.Tends middle) (second : middle.Tends after) :
    before.Tends after where
  toGrows := first.toGrows.trans second.toGrows
  events := second.events.trans first.events
  queues channel empty := second.queues channel (first.queues channel empty)
  places place empty := second.places place (first.places place empty)

theorem Loses.tends (loses : before.Loses after) (places : after.places = before.places) :
    before.Tends after where
  events := loses.events
  queues channel empty := by
    refine List.eq_nil_iff_forall_not_mem.mpr fun packet member => ?_
    have known := loses.queues channel packet member
    rw [empty] at known
    contradiction
  places place empty := by rwa [Outlets.place, places]
  channelsLe := Nat.le_of_eq loses.length.symm
  placesLe := Nat.le_of_eq (congrArg List.length places.symm)

theorem queue_addChannel (outlets : Outlets) (capacity : Option Nat) (channel : ChannelId) :
    (outlets.addChannel capacity).2.queue channel = outlets.queue channel := by
  simp only [queue, inbox, addChannel, List.getElem?_append, List.getElem?_singleton]
  by_cases inside : channel < outlets.channels.length
  · rw [if_pos inside]
  · rw [if_neg inside, List.getElem?_eq_none (Nat.not_lt.mp inside)]
    split
    · rename_i made
      split at made <;> cases made
      rfl
    · rfl

theorem tends_addChannel (outlets : Outlets) (capacity : Option Nat) :
    outlets.Tends (outlets.addChannel capacity).2 where
  events := rfl
  queues channel empty := (outlets.queue_addChannel capacity channel).trans empty
  places _ empty := empty
  channelsLe := by
    rw [addChannel, List.length_append]
    exact Nat.le_add_right ..
  placesLe := Nat.le_refl _

theorem tends_addPlace (outlets : Outlets) : outlets.Tends outlets.addPlace.2 where
  events := rfl
  queues _ empty := empty
  places place empty := by
    simp only [Outlets.place, addPlace, List.getElem?_append, List.getElem?_singleton] at empty ⊢
    by_cases inside : place < outlets.places.length
    · rwa [if_pos inside]
    · rw [if_neg inside]
      split <;> rfl
  channelsLe := Nat.le_refl _
  placesLe := by
    rw [addPlace, List.length_append]
    exact Nat.le_add_right ..

theorem tends_take (outlets : Outlets) (taken : PlaceId) :
    outlets.Tends (outlets.setPlace taken (outlets.place taken).take.2) where
  events := rfl
  queues _ empty := empty
  places place empty := by
    rw [Outlets.place, setPlace, List.getElem?_set]
    split
    · split <;> rfl
    · exact empty
  channelsLe := Nat.le_refl _
  placesLe := Nat.le_of_eq (List.length_set ..).symm

end Outlets

section Polling

variable (isOpen : ChannelId → Bool) (outlets : Outlets)

theorem Poller.tends_poll (poller : Poller) : outlets.Tends (poller.poll isOpen outlets).2 :=
  Outlets.Loses.tends poller.loses_poll rfl

theorem OutputPoller.tends_poll (poller : OutputPoller) :
    outlets.Tends (poller.poll isOpen outlets).2.2 := by
  refine Outlets.Loses.tends poller.loses_poll ?_
  obtain ⟨task, source⟩ := poller
  cases source <;> rfl

theorem OutputPoller.tends_detach (poller : OutputPoller) :
    outlets.Tends (poller.detach outlets) := by
  refine (poller.loses_detach outlets).tends ?_
  obtain ⟨task, source⟩ := poller
  cases source <;> rfl

end Polling

/-- What holds of outlets is broken by bindings of a kind only. -/
structure BrokenOnlyBy (touches : Binding → Prop) (holds : Outlets → Prop) : Prop where
  tended : ∀ {before after : Outlets}, before.Tends after → holds before → holds after
  delivered : ∀ {stream binding packet outlets answer after}, ¬ touches binding →
    holds outlets → Outlets.deliver stream binding packet outlets = some (answer, after) →
    holds after
  reported : ∀ {outlets : Outlets} {fault : Fault}, holds outlets → holds (outlets.report fault)

/-- A packet gets into the place that its stream is bound to, and into no other one. -/
theorem Outlets.places_of_deliver {stream : String} {binding : Binding} {packet : Packet}
    {outlets after : Outlets} {answer : Except Status Unit}
    (delivered : deliver stream binding packet outlets = some (answer, after)) :
    after.places = outlets.places ∨
      ∃ place held, binding = .latest place ∧ after.places = outlets.places.set place held := by
  simp only [deliver] at delivered
  cases binding with
  | output task slot listener | preview listener =>
      simp only [handle] at delivered
      split at delivered <;> cases delivered <;> exact .inl rfl
  | packets listener =>
      cases delivered
      exact .inl rfl
  | latest place =>
      simp only [handle] at delivered
      split at delivered <;> cases delivered
      · exact .inr ⟨place, _, rfl, rfl⟩
      · exact .inl rfl
  | poller channel =>
      simp only [handle, send, Option.map_eq_some_iff, Prod.mk.injEq] at delivered
      obtain ⟨sent, put, _, rfl⟩ := delivered
      split at put
      · cases put
        exact .inl rfl
      · obtain ⟨queue, _, rfl⟩ := Option.map_eq_some_iff.mp put
        exact .inl rfl

theorem Outlets.length_places_of_deliver {stream : String} {binding : Binding}
    {packet : Packet} {outlets after : Outlets} {answer : Except Status Unit}
    (delivered : deliver stream binding packet outlets = some (answer, after)) :
    after.places.length = outlets.places.length := by
  rcases places_of_deliver delivered with same | ⟨place, held, _, set⟩
  · rw [same]
  · rw [set, List.length_set]

theorem Outlets.grows_of_deliver {stream : String} {binding : Binding} {packet : Packet}
    {outlets after : Outlets} {answer : Except Status Unit}
    (delivered : deliver stream binding packet outlets = some (answer, after)) :
    outlets.Grows after where
  channelsLe := Nat.le_of_eq
    (SessionEngine.length_channels_of_fittings (fittings_of_deliver delivered)).symm
  placesLe := Nat.le_of_eq (length_places_of_deliver delivered).symm

theorem Outlets.channels_report (outlets : Outlets) (fault : Fault) :
    (outlets.report fault).channels = outlets.channels := by
  unfold report
  split <;> rfl

theorem Outlets.places_report (outlets : Outlets) (fault : Fault) :
    (outlets.report fault).places = outlets.places := by
  unfold report
  split <;> rfl

theorem brokenOnlyBy_grows {touches : Binding → Prop} (outlets : Outlets) :
    BrokenOnlyBy touches outlets.Grows where
  tended tends grows := grows.trans tends.toGrows
  delivered _ grows delivered := grows.trans (Outlets.grows_of_deliver delivered)
  reported := by
    intro outlets fault grows
    refine grows.trans ⟨?_, ?_⟩
    · exact Nat.le_of_eq (congrArg List.length (outlets.channels_report fault)).symm
    · exact Nat.le_of_eq (congrArg List.length (outlets.places_report fault)).symm

/-- A queue that no binding fills stays empty. -/
theorem brokenOnlyBy_queue (channel : ChannelId) :
    BrokenOnlyBy (· = .poller channel) fun outlets =>
      channel < outlets.channels.length ∧ outlets.queue channel = [] where
  tended tends := fun ⟨inside, empty⟩ =>
    ⟨Nat.lt_of_lt_of_le inside tends.channelsLe, tends.queues channel empty⟩
  delivered := by
    rintro stream binding packet outlets answer after untouched ⟨inside, empty⟩ delivered
    refine ⟨?_, List.eq_nil_iff_forall_not_mem.mpr fun other member => ?_⟩
    · rwa [SessionEngine.length_channels_of_fittings (Outlets.fittings_of_deliver delivered)]
    · rcases Outlets.mem_queue_of_deliver delivered member with old | ⟨own, _⟩
      · rw [empty] at old
        contradiction
      · exact untouched own
  reported := by
    rintro outlets fault ⟨inside, empty⟩
    have channels := outlets.channels_report fault
    exact ⟨by rwa [channels], (Outlets.queue_of_channels channels).trans empty⟩

/-- A place that no binding stores into stays empty. -/
theorem brokenOnlyBy_place (place : PlaceId) :
    BrokenOnlyBy (· = .latest place) fun outlets =>
      place < outlets.places.length ∧ outlets.place place = {} where
  tended tends := fun ⟨inside, empty⟩ =>
    ⟨Nat.lt_of_lt_of_le inside tends.placesLe, tends.places place empty⟩
  delivered := by
    rintro stream binding packet outlets answer after untouched ⟨inside, empty⟩ delivered
    obtain ⟨still, kept⟩ := Outlets.place_of_deliver inside delivered
    rw [if_neg untouched] at kept
    exact ⟨still, kept.trans empty⟩
  reported := by
    rintro outlets fault ⟨inside, empty⟩
    have places := outlets.places_report fault
    exact ⟨by rwa [places], by rwa [Outlets.place, places]⟩

/-- The packets that a listener was told of. -/
def Outlets.heardBy (listener : Listener) (outlets : Outlets) : List Event :=
  outlets.events.filter (·.listener? == some listener)

/-- A listener whom no binding names is told of no packet. -/
theorem brokenOnlyBy_heardBy (listener : Listener) (told : List Event) :
    BrokenOnlyBy (·.listener? = some listener) (·.heardBy listener = told) where
  tended tends same := by rwa [Outlets.heardBy, tends.events]
  delivered := by
    intro stream binding packet outlets answer after untouched same delivered
    rw [Outlets.heardBy, (Outlets.events_of_deliver delivered).1, List.filter_append]
    refine Eq.trans ?_ same
    have unnamed : (Outlets.told stream packet binding).filter
        (·.listener? == some listener) = [] := by
      refine List.filter_eq_nil_iff.mpr fun event member named => untouched ?_
      rw [← (Outlets.heard_of_told member).1]
      exact beq_iff_eq.mp named
    rw [unnamed, List.append_nil, Outlets.heardBy]
  reported := by
    intro outlets fault same
    unfold Outlets.report
    split
    · simpa [Outlets.heardBy, Outlets.tell, List.filter_append, Event.listener?] using same
    · exact same

namespace SessionEngine

variable {touches : Binding → Prop} {holds : Outlets → Prop} {engine : SessionEngine}
  {outlets after : Outlets}

/-- No observer of a run is a binding of a kind. -/
def Shuns (touches : Binding → Prop) (engine : SessionEngine) : Prop :=
  ∀ worker, engine.worker = some worker → ∀ stream binding,
    worker.observers.find? stream = some binding → ¬ touches binding

theorem holds_of_emit (only : BrokenOnlyBy touches holds) {observers : StreamMap Binding}
    {sink : Option Unit} {emission : Emission}
    (shuns : ∀ stream binding, observers.find? stream = some binding → ¬ touches binding)
    (held : holds outlets)
    (emitted : reaction.emit observers sink emission outlets = some after) : holds after := by
  have reported {fault : Fault} {outlets : Outlets} (held : holds outlets) :
      holds (reaction.reportTo sink fault outlets) := by
    cases sink with
    | none => exact held
    | some sink => exact only.reported held
  cases emission with
  | fault fault =>
      cases emitted
      exact reported held
  | packet stream packet =>
      cases found : observers.find? stream with
      | none =>
          simp only [Reaction.emit, found, Option.some.injEq] at emitted
          exact emitted ▸ held
      | some binding =>
          simp only [Reaction.emit, found, Option.map_eq_some_iff] at emitted
          obtain ⟨⟨answer, middle⟩, delivered, rfl⟩ := emitted
          have kept := only.delivered (shuns stream binding found) held delivered
          cases answer with
          | ok done => exact kept
          | error status => exact reported kept

theorem Shuns.advance (only : BrokenOnlyBy touches holds) (shuns : engine.Shuns touches)
    (held : holds outlets) :
    let worked := engine.advance reaction outlets
    Shuns touches worked.1 ∧ holds worked.2 := by
  cases found : engine.worker with
  | none =>
      simp only [ScriptedEngine.advance, found]
      exact ⟨shuns, held⟩
  | some worker =>
      obtain ⟨done, _, emits, continues⟩ := ScriptedEngine.exists_emits reaction found outlets
      have observed := shuns worker found
      refine ⟨fun left known stream binding bound => ?_, ?_⟩
      · rw [(continues left known).observers] at bound
        exact observed stream binding bound
      · exact (emits.foldl_eq holds (fun _ => ()) (fun _ _ => ()) held
          fun standing emitted => ⟨holds_of_emit only observed standing emitted, rfl⟩).1

end SessionEngine

section Binding

variable {table after : BindingTable} {outlets last : Outlets} {stream : String}

theorem BindingTable.tends_of_bindPoller {poller : Poller}
    (bound : table.bindPoller stream outlets = .ok (poller, after, last)) :
    outlets.Tends last := by
  unfold BindingTable.bindPoller at bound
  split at bound
  · contradiction
  · cases bound
    exact outlets.tends_addChannel _

theorem BindingTable.tends_of_bindGated {presence : String} {poller : GatedPoller}
    (bound : table.bindGated stream presence outlets = .ok (poller, after, last)) :
    outlets.Tends last := by
  unfold BindingTable.bindGated at bound
  split at bound
  · contradiction
  · split at bound
    · contradiction
    · cases bound
      exact (outlets.tends_addChannel _).trans (Outlets.tends_addChannel _ _)

end Binding

namespace Session

variable {session next : Session SessionEngine} {touches : Binding → Prop}
  {holds : Outlets → Prop}

theorem tends_previewLatest : session.outlets.Tends session.previewLatest.2.outlets := by
  unfold previewLatest
  simp only
  split
  · exact .refl _
  · exact session.outlets.tends_addPlace

theorem tends_bindPoller (port : Port) :
    session.outlets.Tends (session.bindPoller port).2.outlets := by
  unfold bindPoller
  split
  · exact .refl _
  · split
    · split
      · exact .refl _
      · exact BindingTable.tends_of_bindPoller ‹_›
    · split
      · exact .refl _
      · exact BindingTable.tends_of_bindGated ‹_›

theorem tends_pollStream (stream : String) :
    session.outlets.Tends (session.pollStream stream).2.outlets := by
  unfold pollStream
  split
  · exact .refl _
  · split
    · exact .refl _
    · exact BindingTable.tends_of_bindPoller ‹_›

/-- Something holds of the outlets of a session, and no run of its engine can break it. -/
structure Shielded (touches : Binding → Prop) (holds : Outlets → Prop)
    (session : Session SessionEngine) : Prop where
  shuns : session.engine.Shuns touches
  held : holds session.outlets

theorem Shielded.tend (shielded : session.Shielded touches holds)
    (only : BrokenOnlyBy touches holds) (worker : next.engine.worker = session.engine.worker)
    (tends : session.outlets.Tends next.outlets) : next.Shielded touches holds where
  shuns found known := shielded.shuns found (worker ▸ known)
  held := only.tended tends shielded.held

theorem Shielded.settle (shielded : session.Shielded touches holds)
    (only : BrokenOnlyBy touches holds) : session.settle.Shielded touches holds := by
  obtain ⟨shuns, held⟩ := shielded.shuns.advance only shielded.held
  exact ⟨shuns, held⟩

theorem Shielded.lookedAt (shielded : session.Shielded touches holds)
    (only : BrokenOnlyBy touches holds) {outlets : Outlets}
    (tends : session.outlets.Tends outlets) :
    (Session.settle { session with outlets }).Shielded touches holds :=
  have tended : Shielded touches holds { session with outlets } := shielded.tend only rfl tends
  tended.settle only

theorem Shielded.poll (shielded : session.Shielded touches holds)
    (only : BrokenOnlyBy touches holds) (poller : OutputPoller) :
    (session.poll poller).2.2.Shielded touches holds :=
  shielded.lookedAt only (poller.tends_poll ..)

theorem Shielded.awaitOutput (shielded : session.Shielded touches holds)
    (only : BrokenOnlyBy touches holds) (poller : OutputPoller) :
    (session.awaitOutput poller).2.2.Shielded touches holds := by
  have first := shielded.poll only poller
  unfold Session.awaitOutput
  split
  · rename_i after middle polled
    rw [polled] at first
    exact first.poll only after
  · exact first

theorem Shielded.feedAt (shielded : session.Shielded touches holds)
    (only : BrokenOnlyBy touches holds) (coupled : session.Coupled) (input : StampedFrame) :
    (session.feedAt input).2.Shielded touches holds := by
  cases checked : session.lifecycle.checkStamp input.timestamp with
  | error error =>
      have rejected : session.feedAt input = session.reject error := by
        simp only [Session.feedAt, checked]
      rw [rejected]
      exact shielded.tend only rfl (.of_same rfl rfl rfl)
  | ok done =>
      obtain ⟨running, _⟩ := Lifecycle.checkStamp_eq_ok_iff.mp checked
      obtain ⟨run, fed⟩ := coupled.agrees.feedAt_of_checked running checked
      have counted : session.outlets.Tends session.outlets.countFed := .of_same rfl rfl rfl
      rw [fed]
      refine Shielded.settle ⟨fun worker found => ?_, only.tended counted shielded.held⟩ only
      obtain ⟨old, known, rfl⟩ := Option.map_eq_some_iff.mp found
      exact shielded.shuns old known

theorem Shielded.stop (shielded : session.Shielded touches holds)
    (only : BrokenOnlyBy touches holds) (coupled : session.Coupled) :
    session.stop.Shielded touches holds := by
  cases state : session.state with
  | running =>
      obtain ⟨run, ended⟩ := coupled.agrees.endRun_eq state
      have closed : SessionEngine.Shuns touches { session.engine with run := some run } :=
        shielded.shuns
      obtain ⟨shuns, held⟩ := closed.advance only shielded.held
      have waited : SessionEngine.Shuns touches { (ScriptedEngine.advance SessionEngine.reaction
          { session.engine with run := some run } session.outlets).1 with run := none } := shuns
      obtain ⟨last, left⟩ := waited.advance only held
      simp only [Session.stop, state, ended]
      exact ⟨last, left⟩
  | configured =>
      simp only [Session.stop, state]
      exact ⟨shielded.shuns, shielded.held⟩
  | _ =>
      simp only [Session.stop, state]
      exact shielded

/-- Only a start can change what a run may break, by the bindings that it puts into effect. -/
theorem Shielded.perform (shielded : session.Shielded touches holds)
    (only : BrokenOnlyBy touches holds) (coupled : session.Coupled) (action : Action)
    (avoids : action = .start → (session.perform .start).1 = .done →
      ∀ stream binding, session.bindings.bindings.find? stream = some binding →
        ¬ touches binding) :
    (session.perform action).2.Shielded touches holds := by
  have bound (operation : Operation) (stream : String) (binding : Binding) :
      (session.bindStream operation stream binding).2.Shielded touches holds := by
    obtain ⟨engine, outlets⟩ := session.still_bindStream operation stream binding
    exact shielded.tend only (congrArg _ engine) (outlets ▸ .refl _)
  cases action with
  | configure source =>
      obtain ⟨worker, outlets⟩ := session.still_configure source
      rw [Session.perform, answered_snd]
      exact shielded.tend only worker (outlets ▸ .refl _)
  | bindCallback port listener | observeStream stream listener | bindPreview listener =>
      rw [Session.perform, answered_snd]
      exact bound ..
  | previewLatest =>
      rw [Session.perform, answered_snd]
      exact shielded.tend only (congrArg _ session.still_previewLatest.1) tends_previewLatest
  | bindPoller port =>
      rw [Session.perform, answered_snd]
      exact shielded.tend only (congrArg _ (session.still_bindPoller port).1)
        (tends_bindPoller port)
  | pollStream stream =>
      rw [Session.perform, answered_snd]
      exact shielded.tend only (congrArg _ (session.still_pollStream stream).1)
        (tends_pollStream stream)
  | start =>
      rcases started : session.start with ⟨result, begun⟩
      rw [Session.perform, started] at avoids ⊢
      rw [answered_snd]
      cases result with
      | error error =>
          obtain ⟨worker, outlets⟩ := still_of_refused_start coupled started
          exact shielded.tend only worker (outlets ▸ .refl _)
      | ok done =>
          obtain ⟨_, engine, launched, rfl⟩ := exists_of_start started
          have unobserved : (GraphEngine.connectFaults session.engine).observers = .empty :=
            coupled.agrees.observers
          obtain ⟨_, observers, _, same, begins⟩ :=
            SessionEngine.worker_of_launch unobserved launched
          refine Shielded.settle ⟨fun worker found stream binding observed => ?_, ?_⟩ only
          · cases begins.symm.trans found
            exact avoids rfl rfl stream binding ((same stream).symm.trans observed)
          · exact shielded.held
  | feed frame now =>
      rw [Session.perform, answered_snd, feed_eq]
      exact shielded.feedAt only coupled _
  | feedAt input =>
      rw [Session.perform, answered_snd]
      exact shielded.feedAt only coupled input
  | stop => exact shielded.stop only coupled
  | listenForErrors listener => exact shielded.tend only rfl (.of_same rfl rfl rfl)
  | lookAt place => exact shielded
  | take place => exact shielded.tend only rfl (session.outlets.tends_take place)
  | poll poller => exact shielded.poll only poller
  | fill poller buffer => exact shielded.awaitOutput only poller
  | release poller => exact shielded.lookedAt only (poller.tends_detach _)
  | pollPackets poller => exact shielded.lookedAt only (poller.tends_poll ..)
  | releasePackets poller =>
      exact shielded.lookedAt only (OutputPoller.tends_detach _ ⟨session.task, .plain poller⟩)

/-- Where no run is begun, a session stays shielded whatever is bound. -/
theorem Shielded.through (shielded : session.Shielded touches holds)
    (only : BrokenOnlyBy touches holds) (coupled : session.Coupled) {actions : List Action}
    (unstarted : (.start, .done) ∉ session.history actions) :
    (session.after actions).Shielded touches holds := by
  induction actions generalizing session with
  | nil => exact shielded
  | cons action rest ih =>
      obtain ⟨first, others⟩ := not_or.mp (mt List.mem_cons.mpr unstarted)
      refine ih (shielded.perform only coupled action ?_)
        (coupled.step (session.perform_step action)) others
      intro starts done
      subst starts
      exact absurd (congrArg (Prod.mk Action.start) done.symm) first

end Session

end FrameFlow
