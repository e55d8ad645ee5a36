import FrameFlow.Proofs.Session.Viewing
import Mathlib.Logic.Function.Basic

/-!
All who have bindings of one run. They are seated before the run starts, on streams that are all
different, and then frames are fed and outputs are polled in any order until the run is stopped.
-/

namespace FrameFlow

/-- A session, what is in the hands of those who have its bindings, and what they got out of
their polls so far. -/
structure Audience where
  session : Session SessionEngine
  tickets : Wish → Option Ticket := fun _ => none
  sights : Wish → List Sight := fun _ => []

namespace Audience

inductive Move where
  | feed (input : StampedFrame)
  | poll (wish : Wish)
  | look (wish : Wish)
  | stop

def seat (audience : Audience) (wish : Wish) : Audience :=
  let (answer, session) := audience.session.perform wish.action
  match answer.ticket? with
  | some ticket =>
      { audience with session, tickets := Function.update audience.tickets wish (some ticket) }
  | none => { audience with session }

def saw (audience : Audience) (wish : Wish) (sights : List Sight) : Audience :=
  { audience with sights := Function.update audience.sights wish (audience.sights wish ++ sights) }

/-- One who has something to poll with polls once, or takes the newest preview; what he holds may
be different then. -/
def poll (audience : Audience) (wish : Wish) : Audience :=
  match audience.tickets wish with
  | some (.outputs handle) =>
      let (result, handle, session) := audience.session.poll handle
      saw { audience with
        session
        tickets := Function.update audience.tickets wish (some (.outputs handle)) } wish
          [.output result]
  | some (.packets handle) =>
      let (result, session) := audience.session.pollPackets handle
      saw { audience with session } wish [.packet result]
  | some (.viewer place) =>
      let (held, left) := (audience.session.outlets.place place).take
      let outlets := audience.session.outlets.setPlace place left
      saw { audience with session := { audience.session with outlets } } wish [.frame held]
  | some .nothing | none => audience

/-- One who has the newest preview at hand looks at it. -/
def look (audience : Audience) (wish : Wish) : Audience :=
  match audience.tickets wish with
  | some (.viewer place) =>
      audience.saw wish [.frame (audience.session.outlets.place place).snapshot]
  | _ => audience

def move (audience : Audience) : Move → Audience
  | .feed input => { audience with session := (audience.session.feedAt input).2 }
  | .poll wish => audience.poll wish
  | .look wish => audience.look wish
  | .stop => { audience with session := audience.session.stop }

def after (audience : Audience) (moves : List Move) : Audience := moves.foldl move audience

end Audience

/-- What is settled about a run before anybody wants anything of it: the graph, who hears of
faults, and that queues have no bound. -/
structure Scenario where
  task : Task
  layout : Layout
  config : SessionConfig
  errors : Listener
  text : String
  graph : Graph
  parsed : Graph.parse text = .ok graph
  input : graph.inputStream = config.inputStream
  unbounded : config.pollerCapacity = none

namespace Scenario

variable (scenario : Scenario)

/-- Wishes that can all come true: for streams that the graph has, all of them different, with a
listener each. -/
structure Cast where
  wishes : List Wish
  observable : ∀ wish ∈ wishes, ∀ stream ∈ wish.streams scenario.config.previewStream,
    scenario.graph.isObservable stream = true
  apart : (wishes.flatMap (·.streams scenario.config.previewStream)).Nodup
  listeners : (wishes.filterMap Wish.listener?).Nodup

/-- A session with the graph of the scenario, before anything is bound. -/
def prepared : Session SessionEngine :=
  (Session.opened scenario.task scenario.layout scenario.config).after
    [.listenForErrors scenario.errors, .configure (.text scenario.text)]

/-- A run that has started, with all wishes of a cast bound. -/
def begin (cast : scenario.Cast) : Audience :=
  let seated := cast.wishes.foldl Audience.seat { session := scenario.prepared }
  { seated with session := (seated.session.perform .start).2 }

theorem prepared_eq : scenario.prepared =
    { Session.opened scenario.task scenario.layout scenario.config with
      engine := { graph := some scenario.graph }
      graph := some scenario.text
      lifecycle := { state := .configured }
      outlets := { errorListener := some scenario.errors } } := by
  let listening : Session SessionEngine :=
    (Session.opened scenario.task scenario.layout scenario.config).setErrorListener scenario.errors
  have read : (GraphSource.text scenario.text).load = .ok scenario.text := rfl
  have configured := listening.configure_of_fresh rfl rfl read scenario.parsed scenario.input
  change (Session.answered (fun () => .done) (listening.configure (.text scenario.text))).2 = _
  rw [Session.answered_snd, configured]
  rfl

end Scenario

namespace Audience

variable {scenario : Scenario} {audience : Audience} {wishes : List Wish} {wish : Wish}

/-- Some wishes, and no others, were granted by a session that is about to start. -/
structure Seated (scenario : Scenario) (wishes : List Wish) (audience : Audience) : Prop where
  coupled : audience.session.Coupled
  settled : audience.session.Settled
  made : audience.session.HasMade
  lifecycle : audience.session.lifecycle = { state := .configured }
  task : audience.session.task = scenario.task
  config : audience.session.config = scenario.config
  loaded : audience.session.engine.graph = some scenario.graph
  listens : audience.session.outlets.errorListener = some scenario.errors
  silent : audience.session.outlets.events = []
  met : ∀ wish ∈ wishes, ∃ ticket, audience.tickets wish = some ticket ∧
    wish.IsMet scenario.task scenario.config.previewStream ticket
      audience.session.bindings.bindings audience.session.outlets
  absent : ∀ wish, wish ∉ wishes → audience.tickets wish = none
  bound : ∀ stream binding, audience.session.bindings.bindings.find? stream = some binding →
    (∃ wish ∈ wishes, stream ∈ wish.streams scenario.config.previewStream ∧
      binding.listener? = wish.listener?) ∧
    ∀ place, binding = .latest place → stream = scenario.config.previewStream
  unseen : ∀ wish, audience.sights wish = []

theorem seated_prepared (scenario : Scenario) :
    Seated scenario [] { session := scenario.prepared } := by
  let actions : List Action := [.listenForErrors scenario.errors, .configure (.text scenario.text)]
  have coupled : scenario.prepared.Coupled := @Session.coupled_opened _ _ _ actions
  have settled : scenario.prepared.Settled := @Session.settled_opened _ _ _ actions
  have made : scenario.prepared.HasMade := @Session.hasMade_opened _ _ _ actions
  rw [scenario.prepared_eq] at coupled settled made ⊢
  exact ⟨coupled, settled, made, rfl, rfl, rfl, rfl, rfl, rfl, nofun, fun _ _ => rfl, nofun,
    fun _ => rfl⟩

/-- One more wish is granted if its streams and its listener are new. -/
theorem Seated.seat (seated : audience.Seated scenario wishes)
    (fresh : ∀ other ∈ wishes, ∀ stream ∈ other.streams scenario.config.previewStream,
      stream ∉ wish.streams scenario.config.previewStream)
    (apart : (wish.streams scenario.config.previewStream).Nodup)
    (unlike : ∀ listener, wish.listener? = some listener →
      ∀ other ∈ wishes, other.listener? ≠ some listener) :
    (audience.seat wish).Seated scenario (wishes ++ [wish]) := by
  have configured : audience.session.state = .configured :=
    congrArg Lifecycle.state seated.lifecycle
  obtain ⟨answer, ticket, next, performed, handed, grants, met⟩ :=
    Session.meets_of_unbound wish configured seated.made
      (by
        rw [seated.config]
        intro stream member
        refine Option.eq_none_iff_forall_ne_some.mpr fun binding found => ?_
        obtain ⟨⟨other, known, own, _⟩, _⟩ := seated.bound stream binding found
        exact fresh other known stream own member)
      (by rw [seated.config]; exact apart)
      (by
        intro listener heard stream binding found same
        obtain ⟨⟨other, known, _, told⟩, _⟩ := seated.bound stream binding found
        exact unlike listener heard other known (told.symm.trans same))
      (by
        rw [seated.config]
        exact fun stream place found => (seated.bound stream _ found).2 place rfl)
  have same : audience.seat wish = { audience with
      session := next
      tickets := Function.update audience.tickets wish (some ticket) } := by
    simp only [Audience.seat, performed, handed]
  have step := audience.session.perform_step wish.action
  have made := seated.made.perform wish.action
  rw [performed] at step made
  rw [seated.task, seated.config] at met
  have absentee : wish ∉ wishes := by
    intro member
    obtain ⟨stream, own⟩ := wish.exists_stream scenario.config.previewStream
    exact fresh wish member stream own own
  rw [same]
  obtain ⟨_, extended⟩ := grants.extended
  refine ⟨seated.coupled.step step, seated.settled.step seated.coupled step, made,
    grants.lifecycle.trans seated.lifecycle, grants.task.trans seated.task,
    grants.config.trans seated.config, ?_, grants.listens.trans seated.listens,
    extended.events.trans seated.silent, ?_, ?_, ?_, seated.unseen⟩
  · exact (congrArg ScriptedEngine.graph grants.engine).trans seated.loaded
  · intro other member
    rcases List.mem_append.mp member with old | new
    · obtain ⟨held, known, before⟩ := seated.met other old
      have unequal : other ≠ wish := fun equal => absentee (equal ▸ old)
      refine ⟨held, (Function.update_of_ne unequal ..).trans known, ?_⟩
      rw [← seated.config] at before ⊢
      refine before.kept grants ?_ fun listener heard told => ?_
      · rw [seated.config]
        exact fresh other old
      · exact unlike listener told other old heard
    · rw [List.mem_singleton] at new
      subst new
      exact ⟨ticket, Function.update_self .., met⟩
  · intro other outside
    rw [List.mem_append, List.mem_singleton, not_or] at outside
    exact (Function.update_of_ne outside.2 ..).trans (seated.absent other outside.1)
  · intro stream binding found
    by_cases own : stream ∈ wish.streams scenario.config.previewStream
    · obtain ⟨known, here, told, _, viewed⟩ :=
        grants.bound stream (by rw [seated.config]; exact own)
      cases here.symm.trans found
      rw [seated.config] at viewed
      exact ⟨⟨wish, List.mem_append_right _ (List.mem_singleton_self _), own, told⟩, viewed⟩
    · rw [grants.others stream (by rw [seated.config]; exact own)] at found
      obtain ⟨⟨other, known, rest⟩, viewed⟩ := seated.bound stream binding found
      exact ⟨⟨other, List.mem_append_left _ known, rest⟩, viewed⟩

/-- All wishes of a cast are granted, whatever their order. -/
theorem Seated.all (seated : audience.Seated scenario wishes) {more : List Wish}
    (apart : ((wishes ++ more).flatMap (·.streams scenario.config.previewStream)).Nodup)
    (listeners : ((wishes ++ more).filterMap Wish.listener?).Nodup) :
    (more.foldl Audience.seat audience).Seated scenario (wishes ++ more) := by
  induction more generalizing audience wishes with
  | nil =>
      rw [List.append_nil]
      exact seated
  | cons wish rest ih =>
      have next : wishes ++ wish :: rest = (wishes ++ [wish]) ++ rest := by
        rw [List.append_assoc, List.singleton_append]
      have granted : (audience.seat wish).Seated scenario (wishes ++ [wish]) := by
        rw [List.flatMap_append, List.flatMap_cons] at apart
        obtain ⟨_, later, different⟩ := List.nodup_append.mp apart
        rw [List.filterMap_append] at listeners
        obtain ⟨_, _, unlike⟩ := List.nodup_append.mp listeners
        refine seated.seat ?_ (List.nodup_append.mp later).1 ?_
        · intro other member stream here there
          exact different stream (List.mem_flatMap.mpr ⟨other, member, here⟩) stream
            (List.mem_append_left _ there) rfl
        · intro listener heard other member told
          exact unlike listener (List.mem_filterMap.mpr ⟨other, member, told⟩) listener
            (List.mem_filterMap.mpr ⟨wish, List.mem_cons_self, heard⟩) rfl
      rw [next] at apart listeners ⊢
      exact ih granted apart listeners

end Audience

end FrameFlow
