import FrameFlow.Proofs.Session.Audience
import FrameFlow.Proofs.Session.Overhearing
import Mathlib.Data.List.Nodup
import Mathlib.Data.List.Pairwise

/-!
Bindings do not disturb one another. Frames, polls and the stop of a run decide what there is to
see and to hear of it, for every binding that there could be; whoever has a binding sees and
hears just that, whatever else is bound.
-/

namespace FrameFlow

/-- What one sees at first who polls: open queues with nothing in them. -/
def Wish.view (task : Task) : Wish → View
  | .outputs .. | .packets .. | .preview _ => .nothing
  | .polledPackets stream => .packets stream ⟨[], true⟩
  | .polledOutputs port =>
      match port.presence with
      | none => .plain task port.output ⟨[], true⟩
      | some presence => .gated task ⟨presence, port.output, ⟨[], true⟩, ⟨[], true⟩, none⟩
  | .latestPreview => .latest {}

namespace Scenario

variable (scenario : Scenario)

def hears (wish : Wish) (event : Event) : Bool :=
  wish.hears scenario.task scenario.config.previewStream event

/-- All that is told of emissions, for given bindings. -/
def tells (bindings : StreamMap Binding) (emissions : List Emission) : List Event :=
  emissions.flatMap fun emission => (emission.entry bindings).events (some scenario.errors)

/-- The streams of wishes are bound for them, all wishes have streams of their own, and who wants
to be told is told of no other stream. -/
structure Suits (wishes : List Wish) (bindings : StreamMap Binding) : Prop where
  told : ∀ wish ∈ wishes, ∀ stream binding,
    wish.telling? scenario.task scenario.config.previewStream = some (stream, binding) →
      bindings.find? stream = some binding ∧ ∀ other telling,
        bindings.find? other = some telling → telling.listener? = binding.listener? →
          other = stream
  apart : ∀ wish ∈ wishes, ∀ other ∈ wishes, other ≠ wish →
    ∀ stream ∈ wish.streams scenario.config.previewStream,
      stream ∉ other.streams scenario.config.previewStream

variable {scenario : Scenario} {wishes : List Wish} {bindings : StreamMap Binding}

theorem Suits.filter_hears (suits : scenario.Suits wishes bindings) {wish : Wish}
    (member : wish ∈ wishes) (emissions : List Emission) :
    (scenario.tells bindings emissions).filter (scenario.hears wish) =
      (scenario.tells (wish.alone scenario.task scenario.config.previewStream)
        emissions).filter (scenario.hears wish) := by
  rw [tells, tells, List.filter_flatMap, List.filter_flatMap]
  congr 1
  funext emission
  exact Wish.filter_hears (suits.told wish member) emission scenario.errors

theorem filter_isScripted (scenario : Scenario) (bindings : StreamMap Binding)
    (emissions : List Emission) :
    (scenario.tells bindings emissions).filter Event.isScripted =
      (scenario.tells .empty emissions).filter Event.isScripted := by
  rw [tells, tells, List.filter_flatMap, List.filter_flatMap]
  congr 1
  funext emission
  exact emission.filter_isScripted bindings scenario.errors

end Scenario

/-- What there is to see and to hear of a run for each binding that there could be. -/
structure Stage where
  lifecycle : Lifecycle := { state := .running }
  fed : Nat := 0
  view : Wish → View
  sights : Wish → List Sight := fun _ => []
  heard : Wish → List Event := fun _ => []
  faults : List Event := []

namespace Stage

/-- A run that has just started. -/
def opening (scenario : Scenario) : Stage where
  view := Wish.view scenario.task

variable (scenario : Scenario)

def saw (stage : Stage) (wish : Wish) (sights : List Sight) : Stage :=
  { stage with sights := Function.update stage.sights wish (stage.sights wish ++ sights) }

def move (stage : Stage) : Audience.Move → Stage
  | .feed input =>
      match stage.lifecycle.checkStamp input.timestamp with
      | .error _ => stage
      | .ok () =>
          let emissions := scenario.graph.emissions stage.fed input
          { stage with
            lifecycle := stage.lifecycle.accepted input.timestamp
            fed := stage.fed + 1
            view := fun wish => (stage.view wish).receive scenario.config.previewStream emissions
            heard := fun wish => stage.heard wish ++
              (scenario.tells (wish.alone scenario.task scenario.config.previewStream)
                emissions).filter (scenario.hears wish)
            faults := stage.faults ++ (scenario.tells .empty emissions).filter Event.isScripted }
  | .poll wish =>
      let (sight, view) := (stage.view wish).poll
      saw { stage with view := Function.update stage.view wish view } wish sight.toList
  | .look wish => stage.saw wish (stage.view wish).look.toList
  | .stop =>
      match stage.lifecycle.state with
      | .running =>
          { stage with
            lifecycle := stage.lifecycle.stopped
            view := fun wish => (stage.view wish).close }
      | _ => stage

def after (stage : Stage) (moves : List Audience.Move) : Stage := moves.foldl (move scenario) stage

end Stage

namespace Audience

variable {scenario : Scenario} {wishes : List Wish} {bindings : StreamMap Binding} {stage : Stage}
  {audience : Audience} {wish : Wish}

/-- One of an audience has what a stage offers him. -/
structure Sees (scenario : Scenario) (bindings : StreamMap Binding) (stage : Stage)
    (audience : Audience) (wish : Wish) : Prop where
  holds : ∃ ticket, audience.tickets wish = some ticket ∧ wish.Gets scenario.task ticket ∧
    ticket.Owns scenario.config.previewStream bindings ∧
    ticket.IsSound audience.session.outlets ∧
    ticket.view audience.session.isOpen audience.session.outlets = stage.view wish
  sights : audience.sights wish = stage.sights wish
  heard : audience.session.outlets.events.filter (scenario.hears wish) = stage.heard wish

/-- A run is as far as a stage, and all of its audience have what the stage offers them. -/
structure Follows (scenario : Scenario) (wishes : List Wish) (bindings : StreamMap Binding)
    (stage : Stage) (audience : Audience) : Prop where
  lifecycle : audience.session.lifecycle = stage.lifecycle
  running : stage.lifecycle.state = .running →
    audience.session.Awaits scenario.graph bindings stage.fed
  ended : stage.lifecycle.state ≠ .running →
    stage.lifecycle.state = .stopped ∧ audience.session.Released
  listens : audience.session.outlets.errorListener = some scenario.errors
  faults : audience.session.outlets.events.filter Event.isScripted = stage.faults
  absent : ∀ wish, wish ∉ wishes → audience.tickets wish = none
  sees : ∀ wish ∈ wishes, audience.Sees scenario bindings stage wish

/-- A frame that is refused makes no difference. -/
theorem Follows.reject (follows : audience.Follows scenario wishes bindings stage)
    (error : SessionError) :
    Follows scenario wishes bindings stage
      { audience with session := (audience.session.reject error).2 } := by
  let left := audience.session.outlets.countRejected error
  refine ⟨follows.lifecycle, fun runs => ?_, fun rests => ?_, follows.listens, follows.faults,
    follows.absent, fun wish member => ?_⟩
  · have awaits := follows.running runs
    exact awaits.withOutlets left awaits.settled.sized
  · obtain ⟨stopped, released⟩ := follows.ended rests
    exact ⟨stopped, released.bindings, released.observers, released.worker⟩
  · obtain ⟨⟨ticket, found, gets, owns, sound, view⟩, sights, heard⟩ := follows.sees wish member
    refine ⟨⟨ticket, found, gets, owns, ⟨sound.stands, sound.apart, sound.inside⟩, ?_⟩, sights,
      heard⟩
    rw [← view]
    exact Ticket.view_congr sound (fun poller known => ⟨sound.stands poller known, rfl, rfl⟩)
      fun _ _ => rfl

theorem isOpen_eq {session next : Session SessionEngine} {graph : Graph} {count more : Nat}
    (awaits : session.Awaits graph bindings count) (again : next.Awaits graph bindings more) :
    next.isOpen = session.isOpen := by
  funext channel
  rw [Bool.eq_iff_iff, awaits.isOpen_iff, again.isOpen_iff]

theorem Follows.feed (suits : scenario.Suits wishes bindings)
    (follows : audience.Follows scenario wishes bindings stage) (input : StampedFrame) :
    (audience.move (.feed input)).Follows scenario wishes bindings
      (stage.move scenario (.feed input)) := by
  cases checked : stage.lifecycle.checkStamp input.timestamp with
  | error error =>
      have refused : audience.session.feedAt input = audience.session.reject error := by
        simp only [Session.feedAt, follows.lifecycle, checked]
      simp only [move, refused, Stage.move, checked]
      exact follows.reject error
  | ok accepted =>
      have running := (Lifecycle.checkStamp_eq_ok_iff.mp checked).1
      have awaits := follows.running running
      rw [← follows.lifecycle] at checked
      obtain ⟨next, fed, again, lifecycle, _, _, observers, alike, emits⟩ :=
        awaits.feed input checked
      rw [follows.lifecycle] at checked
      obtain ⟨listener, events⟩ := Outlets.events_of_emits emits
      have told : next.outlets.events = audience.session.outlets.events ++
          scenario.tells bindings (scenario.graph.emissions stage.fed input) := by
        rw [events, show audience.session.outlets.countFed.errorListener = _ from follows.listens]
        simp only [Emission.entry_congr alike]
        rfl
      simp only [move, fed, Stage.move, checked]
      refine ⟨?_, fun _ => again, fun rests => absurd running rests,
        listener.trans follows.listens, ?_, follows.absent, fun wish member => ?_⟩
      · rw [lifecycle, follows.lifecycle]
      · rw [told, List.filter_append, follows.faults, scenario.filter_isScripted]
      · obtain ⟨⟨ticket, found, gets, owns, sound, view⟩, sights, heard⟩ :=
          follows.sees wish member
        have bound : ticket.Owns scenario.config.previewStream observers :=
          ⟨fun poller known stream => by rw [alike]; exact owns.queues poller known stream,
            fun place known stream => by rw [alike]; exact owns.places place known stream⟩
        have counted : ticket.IsSound audience.session.outlets.countFed :=
          ⟨sound.stands, sound.apart, sound.inside⟩
        obtain ⟨still, received⟩ := counted.view_of_emits bound emits audience.session.isOpen
        have before : ticket.view audience.session.isOpen audience.session.outlets.countFed =
            stage.view wish :=
          (Ticket.view_congr sound (fun poller known => ⟨sound.stands poller known, rfl, rfl⟩)
            fun _ _ => rfl).trans view
        refine ⟨⟨ticket, found, gets, owns, still, ?_⟩, sights, ?_⟩
        · rw [isOpen_eq awaits again, received, before]
        · rw [told, List.filter_append, heard, suits.filter_hears member]

/-- Nobody misses what a stage would offer one who is not there. -/
theorem Follows.of_absent (follows : audience.Follows scenario wishes bindings stage)
    (absent : wish ∉ wishes) (view : View) (sights : List Sight) :
    audience.Follows scenario wishes bindings { stage with
      view := Function.update stage.view wish view
      sights := Function.update stage.sights wish sights } := by
  refine ⟨follows.lifecycle, follows.running, follows.ended, follows.listens, follows.faults,
    follows.absent, fun other member => ?_⟩
  have unlike : other ≠ wish := fun same => absent (same ▸ member)
  obtain ⟨⟨ticket, found, gets, owns, sound, shown⟩, seen, heard⟩ := follows.sees other member
  exact ⟨⟨ticket, found, gets, owns, sound, shown.trans (Function.update_of_ne unlike ..).symm⟩,
    seen.trans (Function.update_of_ne unlike ..).symm, heard⟩

theorem Follows.saw (follows : audience.Follows scenario wishes bindings stage) (wish : Wish)
    (sights : List Sight) :
    (audience.saw wish sights).Follows scenario wishes bindings (stage.saw wish sights) := by
  refine ⟨follows.lifecycle, follows.running, follows.ended, follows.listens, follows.faults,
    follows.absent, fun other member => ?_⟩
  obtain ⟨holds, seen, heard⟩ := follows.sees other member
  refine ⟨holds, ?_, heard⟩
  by_cases same : other = wish
  · subst same
    simp only [Audience.saw, Stage.saw, Function.update_self, seen]
  · simp only [Audience.saw, Stage.saw, Function.update_of_ne same, seen]

theorem Follows.look (follows : audience.Follows scenario wishes bindings stage) (wish : Wish) :
    (audience.move (.look wish)).Follows scenario wishes bindings
      (stage.move scenario (.look wish)) := by
  by_cases member : wish ∈ wishes
  · obtain ⟨⟨ticket, found, _, _, _, view⟩, _, _⟩ := follows.sees wish member
    have same : audience.look wish = audience.saw wish (stage.view wish).look.toList := by
      have blank : audience.saw wish [] = audience := by
        simp only [Audience.saw, List.append_nil, Function.update_eq_self]
      rw [← view, Audience.look, found]
      match ticket with
      | .viewer place => rfl
      | .nothing | .packets source | .outputs ⟨task, .plain source⟩ |
        .outputs ⟨task, .gated source⟩ => exact blank.symm
    simp only [move, same]
    exact follows.saw wish _
  · have same : audience.look wish = audience := by
      simp only [Audience.look, follows.absent wish member]
    have aside := follows.of_absent member (stage.view wish)
      (stage.sights wish ++ (stage.view wish).look.toList)
    rw [Function.update_eq_self] at aside
    simp only [move, same]
    exact aside

theorem Follows.settle_eq (follows : audience.Follows scenario wishes bindings stage)
    (outlets : Outlets) :
    Session.settle { audience.session with outlets } = { audience.session with outlets } := by
  by_cases runs : stage.lifecycle.state = .running
  · exact (follows.running runs).settle_eq outlets
  · have idle : audience.session.engine.worker = none := (follows.ended runs).2.worker
    have still : GraphEngine.advance audience.session.engine outlets =
        (audience.session.engine, outlets) := by
      change audience.session.engine.advance SessionEngine.reaction outlets = _
      simp only [ScriptedEngine.advance, idle]
    simp only [Session.settle, still]

/-- A poll of a session that has nothing to do is one of the outlets alone. -/
theorem poll_eq {ticket : Ticket} (found : audience.tickets wish = some ticket)
    (still : ∀ outlets,
      Session.settle { audience.session with outlets } = { audience.session with outlets }) :
    let polled := ticket.poll audience.session.isOpen audience.session.outlets
    audience.poll wish = Audience.saw {
      session := { audience.session with outlets := polled.2.2 }
      tickets := Function.update audience.tickets wish (some polled.2.1)
      sights := audience.sights } wish polled.1.toList := by
  have kept : Function.update audience.tickets wish (some ticket) = audience.tickets := by
    rw [← found, Function.update_eq_self]
  match ticket with
  | .nothing =>
      simp only [poll, found, Ticket.poll, kept, Audience.saw, Option.toList_none, List.append_nil,
        Function.update_eq_self]
  | .packets source =>
      simp only [poll, found, Ticket.poll, kept, Session.pollPackets, still]
      rfl
  | .outputs handle =>
      simp only [poll, found, Ticket.poll, Session.poll, still]
      rfl
  | .viewer place =>
      simp only [poll, found, Ticket.poll, kept]
      rfl

/-- Tickets for different wishes have no queue and no place in common. -/
theorem apart_of_owns {other : Wish} {mine yours : Ticket}
    (suits : scenario.Suits wishes bindings) (member : wish ∈ wishes) (known : other ∈ wishes)
    (unlike : other ≠ wish) (gets : wish.Gets scenario.task mine)
    (others : other.Gets scenario.task yours)
    (owns : mine.Owns scenario.config.previewStream bindings)
    (theirs : yours.Owns scenario.config.previewStream bindings) :
    (∀ poller ∈ yours.pollers, ∀ source ∈ mine.pollers, source.channel ≠ poller.channel) ∧
      ∀ place ∈ yours.places, place ∉ mine.places := by
  constructor
  · intro poller here source there same
    have bound := (owns.queues source there source.stream).mpr rfl
    rw [same] at bound
    have equal := (theirs.queues poller here source.stream).mp bound
    exact suits.apart wish member other known unlike source.stream (gets.stream_mem there)
      (equal ▸ others.stream_mem here)
  · intro place here there
    exact suits.apart wish member other known unlike _ (gets.previewStream_mem there _)
      (others.previewStream_mem here _)

theorem Follows.poll (suits : scenario.Suits wishes bindings)
    (follows : audience.Follows scenario wishes bindings stage) (wish : Wish) :
    (audience.move (.poll wish)).Follows scenario wishes bindings
      (stage.move scenario (.poll wish)) := by
  by_cases member : wish ∈ wishes
  · obtain ⟨⟨ticket, found, gets, owns, sound, view⟩, _, _⟩ := follows.sees wish member
    let polled := ticket.poll audience.session.isOpen audience.session.outlets
    obtain ⟨pollers, places, spares⟩ :=
      ticket.poll_spares audience.session.isOpen audience.session.outlets
    obtain ⟨channels, spots, rest⟩ := spares.rest
    have listens : polled.2.2.errorListener = audience.session.outlets.errorListener := by
      rw [show polled.2.2 = _ from rest]
    have seen := sound.view_poll audience.session.isOpen
    rw [view] at seen
    have first : polled.1 = (stage.view wish).poll.1 := congrArg Prod.fst seen
    have second : polled.2.1.view audience.session.isOpen polled.2.2 =
        (stage.view wish).poll.2 := congrArg Prod.snd seen
    have moved := poll_eq found follows.settle_eq
    suffices passed : Follows scenario wishes bindings
        { stage with view := Function.update stage.view wish (stage.view wish).poll.2 }
        { session := { audience.session with outlets := polled.2.2 }
          tickets := Function.update audience.tickets wish (some polled.2.1)
          sights := audience.sights } by
      simp only [move, moved, Stage.move]
      rw [← first]
      exact passed.saw wish _
    refine ⟨follows.lifecycle, fun runs => ?_, fun rests => ?_, listens.trans follows.listens, ?_,
      fun other absent => ?_, fun other known => ?_⟩
    · have awaits := follows.running runs
      exact awaits.withOutlets _ (awaits.settled.sized.eased spares.eases)
    · obtain ⟨stopped, released⟩ := follows.ended rests
      exact ⟨stopped, released.bindings, released.observers, released.worker⟩
    · exact (congrArg _ spares.eases.events).trans follows.faults
    · have unlike : other ≠ wish := fun same => absent (same ▸ member)
      exact (Function.update_of_ne unlike ..).trans (follows.absent other absent)
    · obtain ⟨⟨held, had, others, theirs, solid, shown⟩, sights, heard⟩ :=
        follows.sees other known
      refine ⟨?_, sights, (congrArg _ spares.eases.events).trans heard⟩
      by_cases same : other = wish
      · subst same
        cases found.symm.trans had
        refine ⟨polled.2.1, Function.update_self .., gets.poll, ⟨?_, ?_⟩, sound.poll _, ?_⟩
        · rw [pollers]
          exact owns.queues
        · rw [places]
          exact owns.places
        · exact second.trans (Function.update_self other _ stage.view).symm
      · obtain ⟨queues, spots⟩ := apart_of_owns suits member known same gets others owns theirs
        refine ⟨held, (Function.update_of_ne same ..).trans had, others, theirs,
          ⟨?_, solid.apart, ?_⟩, ?_⟩
        · exact fun poller here => spares.stands _ (solid.stands poller here)
        · rw [spares.inside]
          exact solid.inside
        · refine Eq.trans ?_ (shown.trans (Function.update_of_ne same ..).symm)
          refine Ticket.view_congr solid (fun poller here => ?_) fun place here => ?_
          · exact ⟨spares.stands _ (solid.stands poller here),
              spares.queue _ (solid.stands poller here) (queues poller here), rfl⟩
          · exact spares.place place (solid.inside place here) (spots place here)
  · have same : audience.poll wish = audience := by
      simp only [Audience.poll, follows.absent wish member]
    simp only [move, same]
    exact follows.of_absent member ..

theorem Follows.stop (follows : audience.Follows scenario wishes bindings stage) :
    (audience.move .stop).Follows scenario wishes bindings (stage.move scenario .stop) := by
  by_cases runs : stage.lifecycle.state = .running
  · have awaits := follows.running runs
    obtain ⟨released, outlets, lifecycle⟩ := awaits.stop
    simp only [move, Stage.move, runs]
    refine ⟨by rw [lifecycle, follows.lifecycle], fun again => ?_, fun _ => ⟨rfl, released⟩,
      by rw [outlets]; exact follows.listens, by rw [outlets]; exact follows.faults,
      follows.absent, fun wish member => ?_⟩
    · contradiction
    obtain ⟨⟨ticket, found, gets, owns, sound, view⟩, sights, heard⟩ := follows.sees wish member
    refine ⟨⟨ticket, found, gets, owns, by rw [outlets]; exact sound, ?_⟩, sights,
      by rw [outlets]; exact heard⟩
    rw [outlets, released.isOpen, Ticket.view_nobody sound, view]
  · obtain ⟨stopped, _⟩ := follows.ended runs
    have same : audience.session.stop = audience.session := by
      have state : audience.session.state = .stopped :=
        (congrArg Lifecycle.state follows.lifecycle).trans stopped
      simp only [Session.stop, state]
    simp only [move, same, Stage.move, stopped]
    exact follows

theorem Follows.move (suits : scenario.Suits wishes bindings)
    (follows : audience.Follows scenario wishes bindings stage) (move : Move) :
    (audience.move move).Follows scenario wishes bindings (stage.move scenario move) := by
  cases move with
  | feed input => exact follows.feed suits input
  | poll wish => exact follows.poll suits wish
  | look wish => exact follows.look wish
  | stop => exact follows.stop

/-- A whole run is on the stage from beginning to end. -/
theorem Follows.after (suits : scenario.Suits wishes bindings)
    (follows : audience.Follows scenario wishes bindings stage) (moves : List Move) :
    (audience.after moves).Follows scenario wishes bindings (stage.after scenario moves) := by
  induction moves generalizing audience stage with
  | nil => exact follows
  | cons move rest ih => exact ih (follows.move suits move)

/-- Who polls sees open and empty queues before the first frame. -/
theorem view_of_met {session : Session SessionEngine} {outlets : Outlets} {ticket : Ticket}
    {graph : Graph} (awaits : session.Awaits graph bindings 0)
    (met : wish.IsMet scenario.task scenario.config.previewStream ticket bindings outlets) :
    ticket.view session.isOpen outlets = wish.view scenario.task := by
  have unread (poller : Poller) (member : poller ∈ ticket.pollers) :
      outlets.inbox session.isOpen poller.channel = ⟨[], true⟩ := by
    have bound := met.polled poller member
    rw [bound.stands.inbox_eq, bound.empty,
      (awaits.isOpen_iff poller.channel).mpr ⟨poller.stream, (bound.owns poller.stream).mpr rfl⟩]
  obtain ⟨gets, fresh, _, _, viewed⟩ := met
  cases gets with
  | outputs | packets | preview => rfl
  | polledPackets => exact congrArg (View.packets _) (unread _ List.mem_cons_self)
  | plain gates =>
      rw [Wish.view, gates]
      exact congrArg (View.plain _ _) (unread _ List.mem_cons_self)
  | @gated port presence payloads presences pending gates =>
      have paid := unread ⟨port.output, payloads⟩ List.mem_cons_self
      have signalled := unread ⟨presence, presences⟩
        (List.mem_cons_of_mem _ List.mem_cons_self)
      cases fresh
      simp only [Wish.view, gates, Ticket.view, GatedPoller.gate, paid, signalled]
  | latestPreview => exact congrArg View.latest (viewed _ List.mem_cons_self).2.1

end Audience

namespace Scenario

variable {scenario : Scenario}

theorem Cast.apart_of_ne (cast : scenario.Cast) {wish other : Wish} (member : wish ∈ cast.wishes)
    (known : other ∈ cast.wishes) (unlike : other ≠ wish) (stream : String)
    (mine : stream ∈ wish.streams scenario.config.previewStream) :
    stream ∉ other.streams scenario.config.previewStream := by
  let streams (wish : Wish) := wish.streams scenario.config.previewStream
  have symmetric : Std.Symm (Function.onFun List.Disjoint streams) :=
    ⟨fun _ _ disjoint _ first second => disjoint second first⟩
  have disjoint := (List.nodup_flatMap.mp cast.apart).2.forall member known unlike.symm
  exact fun yours => disjoint mine yours

/-- A run begins on the opening stage, whoever is there. -/
theorem begin_follows (cast : scenario.Cast) :
    ∃ bindings, scenario.Suits cast.wishes bindings ∧
      (scenario.begin cast).Follows scenario cast.wishes bindings (.opening scenario) := by
  let seated := cast.wishes.foldl Audience.seat { session := scenario.prepared }
  have sits : seated.Seated scenario cast.wishes :=
    (Audience.seated_prepared scenario).all cast.apart cast.listeners
  have configured : seated.session.state = .configured := congrArg Lifecycle.state sits.lifecycle
  obtain ⟨begun, starts⟩ := Session.exists_start sits.coupled configured sits.loaded
    fun stream binding found => by
      obtain ⟨⟨wish, member, own, _⟩, _⟩ := sits.bound stream binding found
      exact cast.observable wish member stream own
  have launched := Session.launched_of_start sits.coupled starts sits.loaded
  have step : seated.session.Step .start _ begun :=
    Session.step_of_perform (by rw [Session.perform, Session.answered_snd, starts])
  have unbounded : begun.config.pollerCapacity = none := by
    rw [step.config, sits.config, scenario.unbounded]
  have awaits := launched.awaits (sits.coupled.step step) (sits.settled.step sits.coupled step)
    (.inl unbounded)
  have begins : scenario.begin cast = { seated with session := begun } := by
    simp only [Scenario.begin, Session.perform, Session.answered_snd]
    rw [show Session.start _ = _ from starts]
  have lifecycle : begun.lifecycle = { state := .running } := by
    have running := launched.running
    have unstamped := launched.unstamped
    rcases same : begun.lifecycle with ⟨state, stamp⟩
    rw [Session.state, same] at running
    rw [same] at unstamped
    cases running
    cases unstamped
    rfl
  have silent : begun.outlets.events = [] := by rw [launched.outlets, sits.silent]
  refine ⟨seated.session.bindings.bindings, ⟨fun wish member stream binding telling => ?_,
    fun wish member other known unlike => cast.apart_of_ne member known unlike⟩, ?_⟩
  · obtain ⟨_, _, met⟩ := sits.met wish member
    exact met.told stream binding telling
  · rw [begins]
    refine ⟨lifecycle, fun _ => awaits, fun rests => absurd rfl rests,
      by rw [launched.outlets]; exact sits.listens, by rw [silent]; rfl, sits.absent,
      fun wish member => ?_⟩
    obtain ⟨ticket, found, met⟩ := sits.met wish member
    refine ⟨⟨ticket, found, met.gets, ⟨fun poller here => (met.polled poller here).owns,
      fun place here => (met.viewed place here).2.2⟩, ⟨?_, ?_, ?_⟩, ?_⟩, sits.unseen wish, ?_⟩
    · rw [launched.outlets]
      exact fun poller here => (met.polled poller here).stands
    · exact met.channels_nodup ((List.nodup_flatMap.mp cast.apart).1 wish member)
    · rw [launched.outlets]
      exact fun place here => (met.viewed place here).1
    · rw [launched.outlets]
      exact Audience.view_of_met awaits met
    · rw [silent]
      rfl

/-- Bindings on streams of their own do not disturb one another: however many more there are, a
binding gets the same out of its polls and hears the same packets and faults of its own, frame by
frame, and the faults of the script are told alike. -/
theorem separate (scenario : Scenario) (fewer more : scenario.Cast)
    (among : fewer.wishes ⊆ more.wishes) (moves : List Audience.Move) :
    let few := (scenario.begin fewer).after moves
    let many := (scenario.begin more).after moves
    (scenario.begin fewer).session.state = .running ∧
      (scenario.begin more).session.state = .running ∧
      few.session.lifecycle = many.session.lifecycle ∧
      (∀ wish ∈ fewer.wishes, few.sights wish = many.sights wish ∧
        few.session.outlets.events.filter (scenario.hears wish) =
          many.session.outlets.events.filter (scenario.hears wish)) ∧
      few.session.outlets.events.filter Event.isScripted =
        many.session.outlets.events.filter Event.isScripted := by
  obtain ⟨_, suits, begins⟩ := begin_follows fewer
  obtain ⟨_, fits, opens⟩ := begin_follows more
  have first := begins.after suits moves
  have second := opens.after fits moves
  refine ⟨congrArg Lifecycle.state begins.lifecycle, congrArg Lifecycle.state opens.lifecycle,
    first.lifecycle.trans second.lifecycle.symm, fun wish member => ?_,
    first.faults.trans second.faults.symm⟩
  have mine := first.sees wish member
  have yours := second.sees wish (among member)
  exact ⟨mine.sights.trans yours.sights.symm, mine.heard.trans yours.heard.symm⟩

/-- A viewer of the preview, and beside him in the second run a callback that can use none of its
packets. -/
theorem separate_from_useless_callback :
    let text := "\x7b\"preview_stream\":\"p\",\"output_streams\":\x7b\"a\":\"presence\"\x7d," ++
      "\"frames\":[\x7b\"emit\":[\x7b\"stream\":\"a\"," ++
      "\"value\":\x7b\"presence\":true\x7d\x7d]\x7d]\x7d"
    let scenario : Scenario :=
      { task := .holistic, layout := .holistic, config := { previewStream := "p" }
        errors := 9, text
        graph :=
          { previewStream := some "p", outputStreams := .insert .empty "a" .presence
            frames := [[⟨"a", .payload (.presence true)⟩]] }
        parsed := Graph.parse_of_toOption (by decide +kernel)
        input := rfl
        unbounded := rfl }
    let viewer : Wish := .preview 1
    let useless : Wish := .outputs { slot := .face, output := "a" } 2
    let fewer : scenario.Cast :=
      { wishes := [viewer], observable := by decide +kernel, apart := by decide +kernel
        listeners := by decide +kernel }
    let more : scenario.Cast :=
      { wishes := [useless, viewer], observable := by decide +kernel, apart := by decide +kernel
        listeners := by decide +kernel }
    let moves : List Audience.Move := [.feed ⟨.clamp 3, .black⟩, .feed ⟨.clamp 8, .black⟩, .stop]
    fewer.wishes ⊆ more.wishes ∧
      ((scenario.begin fewer).after moves).session.outlets.events.length = 2 ∧
      ((scenario.begin more).after moves).session.outlets.events.length = 4 ∧
      ((scenario.begin fewer).after moves).session.outlets.events.filter (scenario.hears viewer) =
        ((scenario.begin more).after moves).session.outlets.events.filter
          (scenario.hears viewer) := by
  intro text scenario viewer useless fewer more moves
  have among : fewer.wishes ⊆ more.wishes := List.subset_cons_self ..
  have same := (scenario.separate fewer more among moves).2.2.2.1 viewer List.mem_cons_self
  refine ⟨among, ?_, ?_, same.2⟩
  · decide +kernel
  · decide +kernel

end Scenario

end FrameFlow
