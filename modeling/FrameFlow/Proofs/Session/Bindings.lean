import FrameFlow.Proofs.Session.Supply
import FrameFlow.Proofs.StreamMap

/-!
From the bindings of a session to the observers of its run. Every queue is made for one
binding, so a poller that is bound has its queue to itself once the session starts.
-/

namespace FrameFlow

namespace StreamMap

/-- A queue is among those that streams are mapped to. -/
theorem any_channel_iff {map : StreamMap Binding} {channel : ChannelId} :
    (map.entries.any fun entry => entry.2.channel? == some channel) = true ↔
      ∃ stream, map.find? stream = some (.poller channel) := by
  rw [List.any_eq_true]
  constructor
  · rintro ⟨⟨stream, binding⟩, member, same⟩
    refine ⟨stream, ?_⟩
    rw [mem_entries_iff.mp member]
    cases binding <;> simp_all [Binding.channel?]
  · rintro ⟨stream, found⟩
    exact ⟨(stream, .poller channel), mem_entries_iff.mpr found, beq_self_eq_true _⟩

end StreamMap

namespace BindingTable

variable {table after : BindingTable} {outlets last : Outlets} {stream : String} {count : Nat}

theorem holds_iff {channel : ChannelId} :
    table.holds channel = true ↔
      ∃ stream, table.bindings.find? stream = some (.poller channel) :=
  StreamMap.any_channel_iff

/-- All queues that streams are bound to are among the first ones. -/
def Within (table : BindingTable) (count : Nat) : Prop :=
  ∀ stream channel, table.bindings.find? stream = some (.poller channel) → channel < count

theorem Within.mono (within : table.Within count) {more : Nat} (le : count ≤ more) :
    table.Within more :=
  fun stream channel found => Nat.lt_of_lt_of_le (within stream channel found) le

theorem within_of_empty (cleared : table.bindings = .empty) : table.Within count := by
  intro stream channel found
  rw [cleared] at found
  contradiction

theorem Within.bindCallback {binding : Binding} (within : table.Within count)
    (unqueued : binding.channel? = none)
    (bound : table.bindCallback stream binding = .ok after) : after.Within count := by
  unfold BindingTable.bindCallback at bound
  split at bound
  · contradiction
  · cases bound
    intro other channel found
    rw [StreamMap.find?_insert] at found
    split at found
    · cases found
      contradiction
    · exact within other channel found

theorem Within.insertPoller (within : table.Within outlets.channels.length) (stream : String) :
    let bound := table.insertPoller stream outlets
    bound.2.1.Within bound.2.2.channels.length := by
  intro bound other channel found
  have longer : bound.2.2.channels.length = outlets.channels.length + 1 := by
    simp [bound, BindingTable.insertPoller, Outlets.addChannel]
  rw [longer]
  simp only [bound, BindingTable.insertPoller, StreamMap.find?_insert] at found
  split at found
  · cases found
    exact Nat.lt_succ_self _
  · exact Nat.lt_succ_of_lt (within other channel found)

theorem Within.bindPoller {poller : Poller} (within : table.Within outlets.channels.length)
    (bound : table.bindPoller stream outlets = .ok (poller, after, last)) :
    after.Within last.channels.length := by
  unfold BindingTable.bindPoller at bound
  split at bound
  · contradiction
  · cases bound
    exact within.insertPoller stream

theorem Within.bindGated {poller : GatedPoller} {presence : String}
    (within : table.Within outlets.channels.length)
    (bound : table.bindGated stream presence outlets = .ok (poller, after, last)) :
    after.Within last.channels.length := by
  unfold BindingTable.bindGated at bound
  split at bound
  · contradiction
  · split at bound
    · contradiction
    · cases bound
      exact (within.insertPoller stream).insertPoller presence

end BindingTable

/-- The stream of a poller has a queue to itself, and nothing came yet. -/
structure Poller.IsBound (poller : Poller) (bindings : StreamMap Binding) (outlets : Outlets) :
    Prop where
  owns : poller.Owns bindings
  stands : outlets.Stands poller.channel
  empty : outlets.queue poller.channel = []

namespace BindingTable

variable {table after : BindingTable} {outlets last : Outlets}

theorem Within.isBound (within : table.Within outlets.channels.length) (stream : String) :
    let bound := table.insertPoller stream outlets
    bound.1.IsBound bound.2.1.bindings bound.2.2 := by
  have made : (table.insertPoller stream outlets).2.2.channels[outlets.channels.length]? =
      some (.ofCapacity table.capacity) := by
    simp [BindingTable.insertPoller, Outlets.addChannel]
  refine ⟨fun other => ?_, ⟨_, made, rfl⟩, Outlets.queue_of_getElem? made⟩
  simp only [BindingTable.insertPoller, Outlets.addChannel, StreamMap.find?_insert]
  by_cases same : other = stream
  · simp [same]
  · have unbound : table.bindings.find? other ≠ some (.poller outlets.channels.length) :=
      fun found => Nat.lt_irrefl _ (within other _ found)
    simp [same, unbound]

/-- A poller stays bound when another stream is. -/
theorem isBound_insertPoller {poller : Poller} (bound : poller.IsBound table.bindings outlets)
    {stream : String} (other : stream ≠ poller.stream) :
    let next := table.insertPoller stream outlets
    poller.IsBound next.2.1.bindings next.2.2 := by
  obtain ⟨queue, found, attached⟩ := bound.stands
  have inside := (List.getElem?_eq_some_iff.mp found).1
  have still : (table.insertPoller stream outlets).2.2.channels[poller.channel]? = some queue := by
    rw [insertPoller, Outlets.addChannel]
    exact (List.getElem?_append_left inside).trans found
  refine ⟨fun name => ?_, ⟨queue, still, attached⟩, ?_⟩
  · simp only [insertPoller, Outlets.addChannel, StreamMap.find?_insert]
    by_cases same : name = stream
    · have unlike : outlets.channels.length ≠ poller.channel := Nat.ne_of_gt inside
      simp [same, other, unlike]
    · rw [if_neg same]
      exact bound.owns name
  · rw [Outlets.queue_of_getElem? still, ← Outlets.queue_of_getElem? found]
    exact bound.empty

theorem Within.isBound_bindGated {payload presence : String} {poller : GatedPoller}
    (within : table.Within outlets.channels.length) (apart : presence ≠ payload)
    (bound : table.bindGated payload presence outlets = .ok (poller, after, last)) :
    poller.payload.stream = payload ∧ poller.presence.stream = presence ∧
      poller.pending = none ∧ poller.presence.channel ≠ poller.payload.channel ∧
      poller.payload.IsBound after.bindings last ∧
      poller.presence.IsBound after.bindings last := by
  unfold BindingTable.bindGated at bound
  split at bound
  · contradiction
  · split at bound
    · contradiction
    · cases bound
      refine ⟨rfl, rfl, rfl, ?_, isBound_insertPoller (within.isBound payload) apart,
        (within.insertPoller payload).isBound presence⟩
      -- The presence queue is made right after the payload queue.
      simp

end BindingTable

namespace SessionEngine

variable {engine after : SessionEngine}

theorem eq_of_install {entries : List (String × Binding)}
    (installed : Session.install entries engine = (.ok (), after)) :
    after = { engine with
      observers := entries.foldl (fun map entry => map.insert entry.1 entry.2)
        engine.observers } := by
  induction entries generalizing engine with
  | nil =>
      cases installed
      rfl
  | cons entry rest ih =>
      obtain ⟨stream, binding⟩ := entry
      have asked : GraphEngine.observe stream binding engine =
          answer engine (engine.observe stream binding) := rfl
      cases observed : engine.observe stream binding with
      | error refusal => simp [Session.install, asked, observed, answer] at installed
      | ok next =>
          simp only [Session.install, asked, observed, answer] at installed
          obtain ⟨_, _, _, _, rfl⟩ := ScriptedEngine.observe_eq_ok_iff.mp observed
          exact ih installed

/-- A run starts with the bindings as its observers. -/
theorem worker_of_launch {bindings : BindingTable} (unobserved : engine.observers = .empty)
    (launched : Session.launch bindings engine = (.ok (), after)) :
    ∃ graph observers, engine.graph = some graph ∧
      (∀ stream, observers.find? stream = bindings.bindings.find? stream) ∧
      after.worker = some { graph, observers, sink := engine.sink } := by
  unfold Session.launch at launched
  cases installed : Session.install bindings.bindings.entries engine with
  | mk result middle =>
      cases result with
      | error status => simp [installed] at launched
      | ok done =>
          simp only [installed] at launched
          have asked : GraphEngine.start middle = answer middle middle.start := rfl
          rw [asked] at launched
          cases started : middle.start with
          | error refusal => simp [started, answer] at launched
          | ok next =>
              simp only [started, answer, Prod.mk.injEq, true_and] at launched
              obtain ⟨_, graph, loaded, rfl⟩ := ScriptedEngine.start_eq_ok_iff.mp started
              have same := eq_of_install installed
              subst launched
              refine ⟨graph, middle.observers, ?_, fun stream => ?_, ?_⟩
              · rw [same] at loaded
                exact loaded
              · rw [same, unobserved]
                have found :=
                  StreamMap.find?_foldl_insert bindings.bindings.sorted .empty stream
                rw [StreamMap.find?_empty, Option.or_none] at found
                exact found
              · rw [same]

end SessionEngine

namespace Session

variable {ε : Type} [FrontEngine ε] {session next : Session ε} {action : Action}
  {answer : Answer} {count : Nat}

theorem length_channels_settle (session : Session ε) :
    session.settle.outlets.channels.length = session.outlets.channels.length := by
  have same := congrArg List.length (FrontEngine.fittings_advance session.engine session.outlets)
  rwa [Outlets.fittings, Outlets.fittings, List.length_map, List.length_map] at same

omit [FrontEngine ε] in
theorem length_channels_of_eases {before after : Outlets} (eased : before.Eases after) :
    after.channels.length = before.channels.length := by
  simpa using congrArg List.length eased.capacities

theorem Polled.bindings (polled : session.Polled next) : next.bindings = session.bindings := by
  induction polled with
  | once eased => rfl
  | again before eased ih => exact ih

theorem Polled.length_channels (polled : session.Polled next) :
    next.outlets.channels.length = session.outlets.channels.length := by
  induction polled with
  | once eased => exact (length_channels_settle _).trans (length_channels_of_eases eased)
  | again before eased ih =>
      exact ((length_channels_settle _).trans (length_channels_of_eases eased)).trans ih

/-- Queues are never taken away. -/
theorem Step.length_channels_le (step : session.Step action answer next) :
    session.outlets.channels.length ≤ next.outlets.channels.length := by
  have extending {before after : Outlets} {capacity}
      (extended : before.Extends capacity after) :
      before.channels.length ≤ after.channels.length := by
    obtain ⟨count, added⟩ := extended.channels
    rw [added, List.length_append]
    exact Nat.le_add_right _ _
  have settling {other : Session ε}
      (same : other.outlets.channels = session.outlets.channels) :
      session.outlets.channels.length ≤ other.settle.outlets.channels.length :=
    Nat.le_of_eq (by rw [length_channels_settle, same])
  cases step with
  | rejected error rejected => exact Nat.le_refl _
  | tended extended granted silent => exact extending extended
  | misconfigured state read loaded => exact Nat.le_refl _
  | configured state read loaded found => exact Nat.le_refl _
  | bound configured capacity extended granted silent => exact extending extended
  | launched configured begun => exact settling rfl
  | aborted configured begun => exact Nat.le_refl _
  | withheld checked given => exact Nat.le_refl _
  | fed checked given granted records => exact settling rfl
  | drained running ended =>
      obtain ⟨last, before, kept, same⟩ := FrontEngine.endRun_eq_advance
        session.config.inputStream session.engine session.outlets
      have fittings := (FrontEngine.fittings_advance last before).trans kept
      rw [← same, ended] at fittings
      exact Nat.le_of_eq (by simpa [Outlets.fittings] using (congrArg List.length fittings).symm)
  | dropped configured => exact Nat.le_refl _
  | polled polled granted silent => exact Nat.le_of_eq polled.length_channels.symm

/-- The queues that streams are bound to were made for this. -/
def HasMade (session : Session ε) : Prop :=
  session.bindings.Within session.outlets.channels.length

omit [FrontEngine ε] in
theorem within_bindStream (within : session.bindings.Within count) (operation : Operation)
    (stream : String) {binding : Binding} (unqueued : binding.channel? = none) :
    (session.bindStream operation stream binding).2.bindings.Within count := by
  unfold bindStream
  split
  · exact within
  · split
    · exact within
    · rename_i bound
      exact within.bindCallback unqueued bound

omit [FrontEngine ε] in
theorem within_previewLatest (within : session.bindings.Within count) :
    session.previewLatest.2.bindings.Within count := by
  let latest : Binding := .latest session.outlets.addPlace.1
  have bound := within_bindStream within .bindPreview session.config.previewStream
    (show latest.channel? = none from rfl)
  unfold previewLatest
  simp only
  split
  · exact within
  · rename_i after found
    rw [found] at bound
    exact bound

theorem within_configure (within : session.bindings.Within count) (source : GraphSource) :
    (session.configure source).2.bindings.Within count := by
  unfold configure
  repeat' split
  all_goals first | exact within | exact BindingTable.within_of_empty rfl

theorem within_start (within : session.bindings.Within count) :
    session.start.2.bindings.Within count := by
  unfold start
  repeat' split
  all_goals first | exact within | exact BindingTable.within_of_empty rfl

theorem within_stop (within : session.bindings.Within count) :
    session.stop.bindings.Within count := by
  unfold stop
  split
  all_goals first | exact within | exact BindingTable.within_of_empty rfl

theorem within_feedAt (within : session.bindings.Within count) (input : StampedFrame) :
    (session.feedAt input).2.bindings.Within count := by
  unfold feedAt
  repeat' split
  all_goals exact within

omit [FrontEngine ε] in
theorem hasMade_bindPoller (made : session.HasMade) (port : Port) :
    (session.bindPoller port).2.HasMade := by
  unfold bindPoller
  split
  · exact made
  · split
    · split
      · exact made
      · rename_i bound
        exact made.bindPoller bound
    · split
      · exact made
      · rename_i bound
        exact made.bindGated bound

omit [FrontEngine ε] in
theorem hasMade_pollStream (made : session.HasMade) (stream : String) :
    (session.pollStream stream).2.HasMade := by
  unfold pollStream
  split
  · exact made
  · split
    · exact made
    · rename_i bound
      exact made.bindPoller bound

theorem within_feed (within : session.bindings.Within count) (frame : Frame) (now : Timestamp) :
    (session.feed frame now).2.bindings.Within count := by
  have fed := within_feedAt within ⟨session.lifecycle.stamp now, frame⟩
  unfold feed
  simp only
  split <;> (rename_i found; rw [found] at fed; exact fed)

omit [FrontEngine ε] in
theorem within_answered {α : Type} {granted : α → Answer}
    {outcome : Except SessionError α × Session ε} (within : outcome.2.bindings.Within count) :
    (answered granted outcome).2.bindings.Within count := by
  rwa [answered_snd]

theorem HasMade.perform (made : session.HasMade) (action : Action) :
    (session.perform action).2.HasMade := by
  have longer := (session.perform_step action).length_channels_le
  -- An action that makes no queue binds no stream to one.
  have kept (within : (session.perform action).2.bindings.Within
      session.outlets.channels.length) : (session.perform action).2.HasMade :=
    BindingTable.Within.mono within longer
  cases action with
  | bindPoller port =>
      rw [Session.perform, answered_snd]
      exact hasMade_bindPoller made port
  | pollStream stream =>
      rw [Session.perform, answered_snd]
      exact hasMade_pollStream made stream
  | configure source => exact kept (within_answered (within_configure made source))
  | bindCallback port listener => exact kept (within_answered (within_bindStream made _ _ rfl))
  | observeStream stream listener =>
      exact kept (within_answered (within_bindStream made _ _ rfl))
  | bindPreview listener => exact kept (within_answered (within_bindStream made _ _ rfl))
  | previewLatest => exact kept (within_answered (within_previewLatest made))
  | start => exact kept (within_answered (within_start made))
  | feed frame now => exact kept (within_answered (within_feed made frame now))
  | feedAt input => exact kept (within_answered (within_feedAt made input))
  | stop => exact kept (within_stop made)
  | fill poller buffer =>
      refine kept ?_
      change (session.awaitOutput poller).2.2.bindings.Within _
      rw [(session.awaitOutput_polled poller).bindings]
      exact made
  | _ => exact kept made

theorem HasMade.after (made : session.HasMade) (actions : List Action) :
    (session.after actions).HasMade := by
  induction actions generalizing session with
  | nil => exact made
  | cons action rest ih => exact ih (made.perform action)

variable {task : Task} {layout : Layout} {config : SessionConfig} {actions : List Action}

theorem coupled_opened : ((opened task layout config).after actions).Coupled :=
  (coupled_fresh trivial rfl rfl task layout config).after actions

theorem settled_opened : ((opened task layout config).after actions).Settled :=
  .through (coupled_fresh trivial rfl rfl task layout config)
    (settled_fresh rfl task layout config) actions

theorem hasMade_opened : ((opened task layout config).after actions).HasMade :=
  HasMade.after (BindingTable.within_of_empty rfl) actions

end Session

end FrameFlow
