import FrameFlow.Proofs.Session.Awaiting

/-!
Bindings that are wanted of a session, and what is handed out for them. On streams that nothing
else is bound to, all of them are granted, and none of them disturbs another one.
-/

namespace FrameFlow

/-- A binding that somebody wants of a session: to be told of outputs, packets or the preview,
to poll them, or to have the newest preview at hand. -/
inductive Wish where
  | outputs (port : Port) (listener : Listener)
  | polledOutputs (port : Port)
  | packets (stream : String) (listener : Listener)
  | polledPackets (stream : String)
  | preview (listener : Listener)
  | latestPreview
deriving DecidableEq

/-- What is handed out for a wish: nothing to one who is told of everything. -/
inductive Ticket where
  | nothing
  | outputs (poller : OutputPoller)
  | packets (poller : Poller)
  | viewer (place : PlaceId)

def Ticket.pollers : Ticket → List Poller
  | .nothing | .viewer _ => []
  | .outputs ⟨_, .plain source⟩ => [source]
  | .outputs ⟨_, .gated source⟩ => [source.payload, source.presence]
  | .packets source => [source]

def Ticket.places : Ticket → List PlaceId
  | .viewer place => [place]
  | .nothing | .outputs _ | .packets _ => []

/-- A true presence that was taken, and its payload not yet. -/
def Ticket.pending : Ticket → Option Timestamp
  | .outputs ⟨_, .gated source⟩ => source.pending
  | .outputs ⟨_, .plain _⟩ | .packets _ | .viewer _ | .nothing => none

def Answer.ticket? : Answer → Option Ticket
  | .done => some .nothing
  | .outputs handle => some (.outputs handle)
  | .packets handle => some (.packets handle)
  | .placed place => some (.viewer place)
  | _ => none

def Binding.listener? : Binding → Option Listener
  | .output _ _ listener | .packets listener | .preview listener => some listener
  | .latest _ | .poller _ => none

namespace Wish

def action : Wish → Action
  | .outputs port listener => .bindCallback port listener
  | .polledOutputs port => .bindPoller port
  | .packets stream listener => .observeStream stream listener
  | .polledPackets stream => .pollStream stream
  | .preview listener => .bindPreview listener
  | .latestPreview => .previewLatest

/-- The streams that a wish is for, in a session with a given preview stream. -/
def streams (previewStream : String) : Wish → List String
  | .outputs port _ => [port.output]
  | .polledOutputs port => port.output :: port.presence.toList
  | .packets stream _ | .polledPackets stream => [stream]
  | .preview _ | .latestPreview => [previewStream]

def listener? : Wish → Option Listener
  | .outputs _ listener | .packets _ listener | .preview listener => some listener
  | .polledOutputs _ | .polledPackets _ | .latestPreview => none

/-- The binding of one who wants to be told, and its stream. -/
def telling? (task : Task) (previewStream : String) : Wish → Option (String × Binding)
  | .outputs port listener => some (port.output, .output task port.slot listener)
  | .packets stream listener => some (stream, .packets listener)
  | .preview listener => some (previewStream, .preview listener)
  | .polledOutputs _ | .polledPackets _ | .latestPreview => none

/-- What is in hand for a wish. -/
inductive Gets (task : Task) : Wish → Ticket → Prop
  | outputs {port listener} : Gets task (.outputs port listener) .nothing
  | packets {stream listener} : Gets task (.packets stream listener) .nothing
  | preview {listener} : Gets task (.preview listener) .nothing
  | latestPreview {place} : Gets task .latestPreview (.viewer place)
  | polledPackets {stream channel} :
      Gets task (.polledPackets stream) (.packets ⟨stream, channel⟩)
  | plain {port channel} : port.presence = none →
      Gets task (.polledOutputs port) (.outputs ⟨task, .plain ⟨port.output, channel⟩⟩)
  | gated {port presence payloads presences pending} : port.presence = some presence →
      Gets task (.polledOutputs port)
        (.outputs ⟨task, .gated ⟨⟨port.output, payloads⟩, ⟨presence, presences⟩, pending⟩⟩)

/-- The streams of a wish are bound for it, and its listener is told of no other stream. -/
structure IsMet (wish : Wish) (task : Task) (previewStream : String) (ticket : Ticket)
    (bindings : StreamMap Binding) (outlets : Outlets) : Prop where
  gets : wish.Gets task ticket
  fresh : ticket.pending = none
  told : ∀ stream binding, wish.telling? task previewStream = some (stream, binding) →
    bindings.find? stream = some binding ∧ ∀ other telling,
      bindings.find? other = some telling → telling.listener? = binding.listener? →
        other = stream
  polled : ∀ poller ∈ ticket.pollers, poller.IsBound bindings outlets
  viewed : ∀ place ∈ ticket.places, place < outlets.places.length ∧ outlets.place place = {} ∧
    ∀ stream, bindings.find? stream = some (.latest place) ↔ stream = previewStream

/-- One who only polls is told of nothing, and has no place to look at. -/
theorem isMet_of_polled {wish : Wish} {task : Task} {previewStream : String}
    {ticket : Ticket} {bindings : StreamMap Binding} {outlets : Outlets}
    (gets : wish.Gets task ticket) (fresh : ticket.pending = none)
    (untold : wish.telling? task previewStream = none) (unseeing : ticket.places = [])
    (polled : ∀ poller ∈ ticket.pollers, poller.IsBound bindings outlets) :
    wish.IsMet task previewStream ticket bindings outlets := by
  refine ⟨gets, fresh, fun stream binding telling => ?_, polled, fun place member => ?_⟩
  · rw [untold] at telling
    contradiction
  · rw [unseeing] at member
    contradiction

end Wish

namespace Session

variable {session next : Session SessionEngine}

/-- Streams that nothing was bound to are bound for a wish, and nothing else is different. -/
structure Grants (session next : Session SessionEngine) (wish : Wish) : Prop where
  engine : next.engine = session.engine
  task : next.task = session.task
  config : next.config = session.config
  lifecycle : next.lifecycle = session.lifecycle
  extended : ∃ capacity, session.outlets.Extends capacity next.outlets
  places : ∃ fresh, next.outlets.places = session.outlets.places ++ fresh
  listens : next.outlets.errorListener = session.outlets.errorListener
  others : ∀ stream, stream ∉ wish.streams session.config.previewStream →
    next.bindings.bindings.find? stream = session.bindings.bindings.find? stream
  bound : ∀ stream ∈ wish.streams session.config.previewStream,
    ∃ binding, next.bindings.bindings.find? stream = some binding ∧
      binding.listener? = wish.listener? ∧
      (∀ channel, binding = .poller channel → session.outlets.channels.length ≤ channel) ∧
      ∀ place, binding = .latest place → stream = session.config.previewStream

theorem check_of_unbound {table : BindingTable} {stream : String}
    (unbound : table.bindings.find? stream = none) (mode : BindingMode) :
    table.check stream mode = .ok () := by
  simp only [BindingTable.check, BindingTable.mode?, unbound, Option.map_none]

theorem bindStream_of_unbound {operation : Operation} {stream : String}
    (allowed : session.lifecycle.require operation = .ok ())
    (unbound : session.bindings.bindings.find? stream = none) (binding : Binding) :
    session.bindStream operation stream binding = (.ok (), { session with
      bindings := { session.bindings with
        bindings := session.bindings.bindings.insert stream binding } }) := by
  simp only [bindStream, allowed, BindingTable.bindCallback, check_of_unbound unbound]

theorem allows_of_configured {operation : Operation} (configured : session.state = .configured)
    (possible : .configured ∈ operation.states) :
    session.lifecycle.require operation = .ok () := by
  refine if_pos ?_
  change session.state ∈ _
  rwa [configured]

/-- A session that had no graph yet takes one whose input stream is its own. -/
theorem configure_of_fresh {source : GraphSource} {text : String} {graph : Graph}
    (fresh : session.engine = {}) (allowed : session.lifecycle.require .configure = .ok ())
    (read : source.load = .ok text) (parsed : Graph.parse text = .ok graph)
    (input : graph.inputStream = session.config.inputStream) :
    session.configure source = (.ok (), { session with
      engine := { graph := some graph }
      graph := some text
      bindings := session.bindings.clear
      lifecycle := session.lifecycle.configured }) := by
  have loaded : GraphEngine.load text session.engine = (.ok (), { graph := some graph }) := by
    rw [fresh]
    exact congrArg (SessionEngine.answer {}) (ScriptedEngine.load_eq_ok_iff.mpr
      ⟨rfl, graph, parsed, rfl⟩)
  have has : GraphEngine.hasInput session.config.inputStream
      ({ graph := some graph } : SessionEngine) = true := beq_iff_eq.mpr input
  simp only [configure, allowed, read, loaded, has, if_true]

/-- A wish for one stream that nobody had. -/
theorem grants_of_bound {wish : Wish} {stream : String} {binding : Binding} {table : BindingTable}
    {outlets : Outlets}
    (named : wish.streams session.config.previewStream = [stream])
    (found : ∀ other, table.bindings.find? other =
      if other = stream then some binding else session.bindings.bindings.find? other)
    (listener : binding.listener? = wish.listener?)
    (queued : ∀ channel, binding = .poller channel → session.outlets.channels.length ≤ channel)
    (viewed : ∀ place, binding = .latest place → stream = session.config.previewStream)
    (extended : ∃ capacity, session.outlets.Extends capacity outlets)
    (places : ∃ fresh, outlets.places = session.outlets.places ++ fresh)
    (listens : outlets.errorListener = session.outlets.errorListener) :
    session.Grants { session with bindings := table, outlets } wish := by
  refine ⟨rfl, rfl, rfl, rfl, extended, places, listens, fun other apart => ?_,
    fun other member => ?_⟩
  · rw [named, List.mem_singleton] at apart
    exact (found other).trans (if_neg apart)
  · rw [named, List.mem_singleton] at member
    subst member
    exact ⟨binding, (found other).trans (if_pos rfl), listener, queued, viewed⟩

/-- A listener is told of a stream that nobody had, and of nothing else. -/
theorem grants_of_telling {wish : Wish} {stream : String} {binding : Binding}
    (telling : wish.telling? session.task session.config.previewStream = some (stream, binding))
    (unheard : ∀ other known, session.bindings.bindings.find? other = some known →
      known.listener? ≠ binding.listener?) :
    let next := { session with bindings := { session.bindings with
      bindings := session.bindings.bindings.insert stream binding } }
    session.Grants next wish ∧ wish.IsMet session.task session.config.previewStream .nothing
      next.bindings.bindings next.outlets := by
  intro next
  have found (other : String) : next.bindings.bindings.find? other =
      if other = stream then some binding else session.bindings.bindings.find? other :=
    StreamMap.find?_insert ..
  have shape : wish.streams session.config.previewStream = [stream] ∧
      binding.listener? = wish.listener? ∧ (∀ channel, binding ≠ .poller channel) ∧
      (∀ place, binding ≠ .latest place) ∧ wish.Gets session.task .nothing := by
    cases wish <;> cases telling
    · exact ⟨rfl, rfl, nofun, nofun, .outputs⟩
    · exact ⟨rfl, rfl, nofun, nofun, .packets⟩
    · exact ⟨rfl, rfl, nofun, nofun, .preview⟩
  obtain ⟨named, listener, unqueued, unviewed, gets⟩ := shape
  refine ⟨grants_of_bound named found listener (fun channel queued => absurd queued (unqueued _))
    (fun place viewed => absurd viewed (unviewed _)) ⟨none, .of_channels rfl rfl⟩
    ⟨[], (List.append_nil _).symm⟩ rfl, gets, rfl, fun other known same => ?_, nofun, nofun⟩
  cases telling.symm.trans same
  refine ⟨(found stream).trans (if_pos rfl), fun another told known heard => ?_⟩
  rw [found] at known
  split at known
  · assumption
  · exact absurd heard (unheard another told known)

/-- The newest preview gets a place of its own, if nobody had the preview. -/
theorem grants_of_place
    (unviewed : ∀ stream place, session.bindings.bindings.find? stream = some (.latest place) →
      stream = session.config.previewStream) :
    let placed := session.outlets.addPlace
    let next := { session with
      outlets := placed.2
      bindings := { session.bindings with
        bindings := session.bindings.bindings.insert session.config.previewStream
          (.latest placed.1) } }
    session.Grants next .latestPreview ∧ Wish.latestPreview.IsMet session.task
      session.config.previewStream (.viewer placed.1) next.bindings.bindings next.outlets := by
  intro placed next
  have found (other : String) : next.bindings.bindings.find? other =
      if other = session.config.previewStream then some (.latest placed.1)
      else session.bindings.bindings.find? other := StreamMap.find?_insert ..
  refine ⟨grants_of_bound rfl found rfl nofun (fun _ _ => rfl)
    ⟨none, .of_channels rfl rfl⟩ ⟨[default], rfl⟩ rfl,
    .latestPreview, rfl, nofun, nofun, fun place member => ?_⟩
  obtain rfl : place = session.outlets.places.length := List.mem_singleton.mp member
  have made : next.outlets.places = session.outlets.places ++ [default] := rfl
  have empty : next.outlets.place session.outlets.places.length = {} := by
    rw [Outlets.place, made, List.getElem?_append_right (Nat.le_refl _), Nat.sub_self]
    rfl
  refine ⟨by simp [made], empty, fun stream => ?_⟩
  rw [found]
  constructor
  · intro known
    split at known
    · assumption
    · exact unviewed stream _ known
  · intro same
    exact if_pos same

theorem find?_insertPoller (table : BindingTable) (stream other : String) (outlets : Outlets) :
    (table.insertPoller stream outlets).2.1.bindings.find? other =
      if other = stream then some (.poller outlets.channels.length)
      else table.bindings.find? other :=
  StreamMap.find?_insert ..

/-- A poller of a stream that nobody had gets a queue of its own. -/
theorem grants_of_poller (wish : Wish) {stream : String} (made : session.HasMade)
    (named : wish.streams session.config.previewStream = [stream])
    (silent : wish.listener? = none) :
    let inserted := session.bindings.insertPoller stream session.outlets
    session.Grants { session with bindings := inserted.2.1, outlets := inserted.2.2 } wish ∧
      inserted.1.IsBound inserted.2.1.bindings inserted.2.2 := by
  intro inserted
  refine ⟨grants_of_bound named (fun other => find?_insertPoller ..) silent.symm ?_ nofun
    ⟨_, session.outlets.extends_addChannel⟩ ⟨[], (List.append_nil _).symm⟩ rfl, made.isBound stream⟩
  intro channel queued
  cases queued
  exact Nat.le_refl _

/-- A gated poller gets two queues of its own. -/
theorem grants_of_gated (wish : Wish) {payload presence : String} (made : session.HasMade)
    (named : wish.streams session.config.previewStream = [payload, presence])
    (apart : presence ≠ payload) (silent : wish.listener? = none) :
    let first := session.bindings.insertPoller payload session.outlets
    let second := first.2.1.insertPoller presence first.2.2
    session.Grants { session with bindings := second.2.1, outlets := second.2.2 } wish ∧
      first.1.IsBound second.2.1.bindings second.2.2 ∧
      second.1.IsBound second.2.1.bindings second.2.2 := by
  intro first second
  refine ⟨⟨rfl, rfl, rfl, rfl, ⟨_, session.outlets.extends_addChannel.trans
      first.2.2.extends_addChannel⟩, ⟨[], (List.append_nil _).symm⟩, rfl,
      fun other outside => ?_, fun other member => ?_⟩,
    BindingTable.isBound_insertPoller (made.isBound payload) apart,
    (made.insertPoller payload).isBound presence⟩
  · rw [named, List.mem_cons, List.mem_singleton, not_or] at outside
    exact (find?_insertPoller ..).trans ((if_neg outside.2).trans
      ((find?_insertPoller ..).trans (if_neg outside.1)))
  · rw [named, List.mem_cons, List.mem_singleton] at member
    have longer : first.2.2.channels.length = session.outlets.channels.length + 1 :=
      List.length_append
    by_cases flag : other = presence
    · refine ⟨_, (find?_insertPoller ..).trans (if_pos flag), silent.symm,
        fun channel queued => ?_, nofun⟩
      cases queued
      omega
    · refine ⟨_, (find?_insertPoller ..).trans ((if_neg flag).trans
        ((find?_insertPoller ..).trans (if_pos (member.resolve_right flag)))), silent.symm,
        fun channel queued => ?_, nofun⟩
      cases queued
      exact Nat.le_refl _

/-- A wish comes true in a session, without anything else being different. -/
def Meets (session : Session SessionEngine) (wish : Wish) : Prop :=
  ∃ answer ticket next, session.perform wish.action = (answer, next) ∧
    answer.ticket? = some ticket ∧ session.Grants next wish ∧
    wish.IsMet session.task session.config.previewStream ticket next.bindings.bindings
      next.outlets

theorem meets_of_telling {wish : Wish} {operation : Operation} {stream : String}
    {binding : Binding} (configured : session.state = .configured)
    (possible : .configured ∈ operation.states)
    (performed : session.perform wish.action =
      answered (fun () => .done) (session.bindStream operation stream binding))
    (telling : wish.telling? session.task session.config.previewStream = some (stream, binding))
    (unbound : session.bindings.bindings.find? stream = none)
    (unheard : ∀ other known, session.bindings.bindings.find? other = some known →
      known.listener? ≠ binding.listener?) : session.Meets wish := by
  have bound := bindStream_of_unbound (allows_of_configured configured possible) unbound binding
  obtain ⟨grants, met⟩ := grants_of_telling telling unheard
  rw [bound] at performed
  exact ⟨.done, .nothing, _, performed, rfl, grants, met⟩

/-- On streams that nobody had, and with a listener that hears of nothing yet, a wish is
granted. -/
theorem meets_of_unbound (wish : Wish) (configured : session.state = .configured)
    (made : session.HasMade)
    (unbound : ∀ stream ∈ wish.streams session.config.previewStream,
      session.bindings.bindings.find? stream = none)
    (apart : (wish.streams session.config.previewStream).Nodup)
    (unheard : ∀ listener, wish.listener? = some listener → ∀ other binding,
      session.bindings.bindings.find? other = some binding → binding.listener? ≠ some listener)
    (unviewed : ∀ stream place, session.bindings.bindings.find? stream = some (.latest place) →
      stream = session.config.previewStream) : session.Meets wish := by
  cases wish with
  | outputs port listener =>
      exact meets_of_telling configured (by decide) rfl rfl
        (unbound port.output List.mem_cons_self) (unheard listener rfl)
  | packets stream listener =>
      exact meets_of_telling configured (by decide) rfl rfl
        (unbound stream List.mem_cons_self) (unheard listener rfl)
  | preview listener =>
      exact meets_of_telling configured (by decide) rfl rfl
        (unbound _ List.mem_cons_self) (unheard listener rfl)
  | latestPreview =>
      obtain ⟨grants, met⟩ := grants_of_place unviewed
      let placed := session.outlets.addPlace
      have allowed : session.lifecycle.require .bindPreview = .ok () :=
        allows_of_configured configured (by decide)
      have bound := bindStream_of_unbound allowed
        (unbound session.config.previewStream List.mem_cons_self) (.latest placed.1)
      refine ⟨.placed placed.1, .viewer placed.1, _, ?_, rfl, grants, met⟩
      simp only [Wish.action, perform, previewLatest]
      rw [show session.bindStream .bindPreview session.config.previewStream
        (.latest session.outlets.addPlace.1) = _ from bound]
      rfl
  | polledPackets stream =>
      obtain ⟨grants, bound⟩ := grants_of_poller (.polledPackets stream) made rfl rfl
      have allowed : session.lifecycle.require .pollStream = .ok () :=
        allows_of_configured configured (by decide)
      have free := check_of_unbound (unbound stream List.mem_cons_self) .poller
      let handle := (session.bindings.insertPoller stream session.outlets).1
      refine ⟨.packets handle, .packets handle, _, ?_, rfl, grants,
        Wish.isMet_of_polled .polledPackets rfl rfl rfl ?_⟩
      · simp only [Wish.action, perform, pollStream, allowed, BindingTable.bindPoller, free]
        rfl
      · intro poller member
        rw [Ticket.pollers, List.mem_singleton] at member
        rw [member]
        exact bound
  | polledOutputs port =>
      have allowed : session.lifecycle.require .bindPoller = .ok () :=
        allows_of_configured configured (by decide)
      have free := check_of_unbound (unbound port.output List.mem_cons_self) .poller
      cases gates : port.presence with
      | none =>
          have named : (Wish.polledOutputs port).streams session.config.previewStream =
              [port.output] := by rw [Wish.streams, gates]; rfl
          obtain ⟨grants, bound⟩ := grants_of_poller (.polledOutputs port) made named rfl
          let handle : OutputPoller :=
            ⟨session.task, .plain (session.bindings.insertPoller port.output session.outlets).1⟩
          refine ⟨.outputs handle, .outputs handle, _, ?_, rfl, grants,
            Wish.isMet_of_polled (.plain gates) rfl rfl rfl ?_⟩
          · simp only [Wish.action, perform, bindPoller, allowed, gates, BindingTable.bindPoller,
              free]
            rfl
          · intro poller member
            rw [Ticket.pollers, List.mem_singleton] at member
            rw [member]
            exact bound
      | some presence =>
          have named : (Wish.polledOutputs port).streams session.config.previewStream =
              [port.output, presence] := by rw [Wish.streams, gates]; rfl
          rw [named] at apart
          have other : presence ≠ port.output := by
            rintro rfl
            simp at apart
          have freeToo := check_of_unbound
            (unbound presence (by rw [named]; simp)) .poller
          obtain ⟨grants, payload, flag⟩ := grants_of_gated (.polledOutputs port) made
            named other rfl
          let first := session.bindings.insertPoller port.output session.outlets
          let second := first.2.1.insertPoller presence first.2.2
          let handle : OutputPoller :=
            ⟨session.task, .gated { payload := first.1, presence := second.1 }⟩
          refine ⟨.outputs handle, .outputs handle, _, ?_, rfl, grants,
            Wish.isMet_of_polled (.gated gates) rfl rfl rfl ?_⟩
          · simp only [Wish.action, perform, bindPoller, allowed, gates, BindingTable.bindGated,
              free, freeToo]
            rfl
          · intro poller member
            rw [Ticket.pollers, List.mem_cons, List.mem_singleton] at member
            rcases member with rfl | rfl
            · exact payload
            · exact flag

end Session

namespace Wish

variable {wish other : Wish} {task : Task} {previewStream : String} {ticket : Ticket}

theorem exists_stream (wish : Wish) (previewStream : String) :
    ∃ stream, stream ∈ wish.streams previewStream := by
  cases wish <;> exact ⟨_, List.mem_cons_self⟩

theorem Gets.stream_mem (gets : wish.Gets task ticket) {poller : Poller}
    (member : poller ∈ ticket.pollers) : poller.stream ∈ wish.streams previewStream := by
  cases gets with
  | outputs | packets | preview | latestPreview => simp [Ticket.pollers] at member
  | polledPackets =>
      rw [Ticket.pollers, List.mem_singleton] at member
      simp [streams, member]
  | plain gates =>
      rw [Ticket.pollers, List.mem_singleton] at member
      simp [streams, member]
  | gated gates =>
      rw [Ticket.pollers, List.mem_cons, List.mem_singleton] at member
      rcases member with rfl | rfl <;> simp [streams, gates]

theorem IsMet.channels_nodup {bindings : StreamMap Binding} {outlets : Outlets}
    (met : wish.IsMet task previewStream ticket bindings outlets)
    (apart : (wish.streams previewStream).Nodup) :
    (ticket.pollers.map (·.channel)).Nodup := by
  have streams : (ticket.pollers.map (·.stream)).Nodup := by
    cases met.gets with
    | outputs | packets | preview | latestPreview => exact .nil
    | polledPackets => exact List.pairwise_singleton ..
    | plain gates => exact List.pairwise_singleton ..
    | gated gates =>
        rw [Wish.streams, gates] at apart
        exact apart
  rw [List.Nodup, List.pairwise_map] at streams ⊢
  refine streams.imp_of_mem fun {first second} here there unlike same => unlike ?_
  have bound := ((met.polled first here).owns first.stream).mpr rfl
  rw [same] at bound
  exact ((met.polled second there).owns first.stream).mp bound

theorem Gets.previewStream_mem (gets : wish.Gets task ticket) {place : PlaceId}
    (member : place ∈ ticket.places) (previewStream : String) :
    previewStream ∈ wish.streams previewStream := by
  cases gets with
  | latestPreview => exact List.mem_singleton_self _
  | _ => contradiction

theorem mem_of_telling {stream : String} {binding : Binding}
    (telling : wish.telling? task previewStream = some (stream, binding)) :
    stream ∈ wish.streams previewStream ∧ binding.listener? = wish.listener? ∧
      ∃ listener, wish.listener? = some listener := by
  cases wish <;> cases telling
  all_goals exact ⟨List.mem_cons_self, rfl, _, rfl⟩

/-- A wish that came true is not disturbed by another one, on other streams and with another
listener. -/
theorem IsMet.kept {session next : Session SessionEngine}
    (met : wish.IsMet task session.config.previewStream ticket session.bindings.bindings
      session.outlets) (grants : session.Grants next other)
    (apart : ∀ stream ∈ wish.streams session.config.previewStream,
      stream ∉ other.streams session.config.previewStream)
    (unlike : ∀ listener, wish.listener? = some listener → other.listener? ≠ some listener) :
    wish.IsMet task session.config.previewStream ticket next.bindings.bindings next.outlets := by
  refine ⟨met.gets, met.fresh, fun stream binding telling => ?_, fun poller member => ?_,
    fun place member => ?_⟩
  · obtain ⟨own, alone⟩ := met.told stream binding telling
    obtain ⟨member, heard, listener, named⟩ := mem_of_telling telling
    refine ⟨by rw [grants.others stream (apart stream member), own], ?_⟩
    intro another known found same
    by_cases new : another ∈ other.streams session.config.previewStream
    · obtain ⟨bound, here, told, _⟩ := grants.bound another new
      cases here.symm.trans found
      exact absurd (told.symm.trans (same.trans (heard.trans named))) (unlike listener named)
    · rw [grants.others another new] at found
      exact alone another known found same
  · obtain ⟨owns, ⟨queue, found, attached⟩, empty⟩ := met.polled poller member
    obtain ⟨capacity, events, count, channels⟩ := grants.extended
    have inside := (List.getElem?_eq_some_iff.mp found).1
    have still : next.outlets.channels[poller.channel]? = some queue := by
      rw [channels, List.getElem?_append_left inside, found]
    refine ⟨fun another => ?_, ⟨queue, still, attached⟩, ?_⟩
    · by_cases new : another ∈ other.streams session.config.previewStream
      · obtain ⟨bound, here, _, later, _⟩ := grants.bound another new
        rw [here, Option.some.injEq]
        constructor
        · intro queued
          exact absurd (later _ queued) (Nat.not_le_of_lt inside)
        · intro same
          exact absurd new (apart another (same ▸ met.gets.stream_mem member))
      · rw [grants.others another new]
        exact owns another
    · rw [Outlets.queue_of_getElem? still, ← Outlets.queue_of_getElem? found]
      exact empty
  · obtain ⟨inside, empty, own⟩ := met.viewed place member
    obtain ⟨fresh, places⟩ := grants.places
    have here := met.gets.previewStream_mem member session.config.previewStream
    refine ⟨?_, ?_, fun stream => ?_⟩
    · rw [places, List.length_append]
      exact Nat.lt_add_right _ inside
    · rw [Outlets.place, places, List.getElem?_append_left inside]
      exact empty
    · by_cases new : stream ∈ other.streams session.config.previewStream
      · obtain ⟨bound, found, _, _, later⟩ := grants.bound stream new
        rw [found, Option.some.injEq]
        constructor
        · exact later place
        · rintro rfl
          exact absurd new (apart _ here)
      · rw [grants.others stream new]
        exact own stream

end Wish

namespace Session

variable {session : Session SessionEngine} {graph : Graph}

theorem install_of_observable {engine : SessionEngine} (rests : engine.run = none)
    (loaded : engine.graph = some graph) (entries : List (String × Binding))
    (observable : ∀ entry ∈ entries, graph.isObservable entry.1 = true) :
    ∃ observers, install entries engine = (.ok (), { engine with observers }) := by
  induction entries generalizing engine with
  | nil => exact ⟨engine.observers, rfl⟩
  | cons entry rest ih =>
      obtain ⟨stream, binding⟩ := entry
      let next : SessionEngine :=
        { engine with observers := engine.observers.insert stream binding }
      have observed : engine.observe stream binding = .ok next :=
        ScriptedEngine.observe_eq_ok_iff.mpr
          ⟨rests, graph, loaded, observable _ List.mem_cons_self, rfl⟩
      have asked : GraphEngine.observe stream binding engine = (.ok (), next) :=
        congrArg (SessionEngine.answer engine) observed
      obtain ⟨observers, installed⟩ := @ih next rests loaded fun other member =>
        observable other (List.mem_cons_of_mem _ member)
      exact ⟨observers, by simp only [install, asked, installed]; rfl⟩

/-- A start succeeds if the graph has all streams that are bound. -/
theorem exists_start (coupled : session.Coupled) (configured : session.state = .configured)
    (loaded : session.engine.graph = some graph)
    (observable : ∀ stream binding, session.bindings.bindings.find? stream = some binding →
      graph.isObservable stream = true) : ∃ begun, session.start = (.ok (), begun) := by
  have allowed : session.lifecycle.require .start = .ok () :=
    allows_of_configured configured (by decide)
  let connected : SessionEngine := GraphEngine.connectFaults session.engine
  have rests : connected.run = none := coupled.agrees.resting (by simp [configured])
  obtain ⟨observers, installed⟩ := install_of_observable rests loaded
    session.bindings.bindings.entries
    fun entry member => observable _ _ (StreamMap.mem_entries_iff.mp member)
  let observed : SessionEngine := { connected with observers }
  have begins : observed.start = .ok { observed with
      observers := .empty
      run := some {}
      worker := some { graph, observers, sink := observed.sink } } :=
    ScriptedEngine.start_eq_ok_iff.mpr ⟨rests, graph, loaded, rfl⟩
  have launched : launch session.bindings (GraphEngine.connectFaults session.engine) =
      SessionEngine.answer observed observed.start := by
    simp only [launch]
    rw [show install session.bindings.bindings.entries (GraphEngine.connectFaults session.engine)
      = (.ok (), observed) from installed]
    rfl
  rw [begins] at launched
  refine ⟨session.start.2, Prod.ext ?_ rfl⟩
  simp only [start, allowed, launched, SessionEngine.answer]

end Session

end FrameFlow
