import FrameFlow.Proofs.Session.Sparing

/-!
What callers had bound, as their actions and the answers tell them. Bindings come from nothing
else, and every queue and every place is made for the one binding that is granted with it.
-/

namespace FrameFlow

/-- What a stream was bound to by an action, as it was answered. -/
inductive Binding.IsGranted (task : Task) : Action × Answer → Binding → Prop
  | callback {port listener} : IsGranted task (.bindCallback port listener, .done)
      (.output task port.slot listener)
  | observer {stream listener} : IsGranted task (.observeStream stream listener, .done)
      (.packets listener)
  | preview {listener} : IsGranted task (.bindPreview listener, .done) (.preview listener)
  | latest {place} : IsGranted task (.previewLatest, .placed place) (.latest place)
  | outputs {port handle poller} : poller ∈ (Ticket.outputs handle).pollers →
      IsGranted task (.bindPoller port, .outputs handle) (.poller poller.channel)
  | packets {stream poller} : IsGranted task (.pollStream stream, .packets poller)
      (.poller poller.channel)

namespace Binding

variable {binding : Binding} {before after outlets : Outlets}

/-- The queue or the place of a binding is there. -/
def IsMade (outlets : Outlets) : Binding → Prop
  | .poller channel => channel < outlets.channels.length
  | .latest place => place < outlets.places.length
  | .output .. | .packets _ | .preview _ => True

/-- The queue or the place of a binding is not there yet. -/
def IsNew (outlets : Outlets) : Binding → Prop
  | .poller channel => outlets.channels.length ≤ channel
  | .latest place => outlets.places.length ≤ place
  | .output .. | .packets _ | .preview _ => True

theorem IsMade.grows (made : binding.IsMade before) (grows : before.Grows after) :
    binding.IsMade after := by
  cases binding with
  | poller channel => exact Nat.lt_of_lt_of_le made grows.channelsLe
  | latest place => exact Nat.lt_of_lt_of_le made grows.placesLe
  | _ => trivial

theorem IsNew.of_grows (fresh : binding.IsNew after) (grows : before.Grows after) :
    binding.IsNew before := by
  cases binding with
  | poller channel => exact Nat.le_trans grows.channelsLe fresh
  | latest place => exact Nat.le_trans grows.placesLe fresh
  | _ => trivial

theorem IsNew.not_isMade (fresh : binding.IsNew outlets) (silent : binding.listener? = none) :
    ¬ binding.IsMade outlets := by
  cases binding with
  | poller channel => exact Nat.not_lt.mpr fresh
  | latest place => exact Nat.not_lt.mpr fresh
  | _ => contradiction

end Binding

namespace BindingTable

variable {table after : BindingTable} {outlets last : Outlets} {stream : String}
  {touches : Binding → Prop}

/-- No stream has a binding of a kind. -/
def Avoids (touches : Binding → Prop) (table : BindingTable) : Prop :=
  ∀ stream binding, table.bindings.find? stream = some binding → ¬ touches binding

theorem avoids_of_empty (cleared : table.bindings = .empty) : table.Avoids touches := by
  intro stream binding found
  rw [cleared] at found
  contradiction

theorem Avoids.insert (avoids : table.Avoids touches) (stream : String) {binding : Binding}
    (untouched : ¬ touches binding) :
    Avoids touches { table with bindings := table.bindings.insert stream binding } := by
  intro other known found
  rw [StreamMap.find?_insert] at found
  split at found
  · exact Option.some.inj found ▸ untouched
  · exact avoids other known found

theorem Avoids.bindCallback {binding : Binding} (avoids : table.Avoids touches)
    (untouched : ¬ touches binding) (bound : table.bindCallback stream binding = .ok after) :
    after.Avoids touches := by
  unfold BindingTable.bindCallback at bound
  split at bound
  · contradiction
  · cases bound
    exact avoids.insert stream untouched

theorem Avoids.insertPoller (avoids : table.Avoids touches) (stream : String)
    (untouched : ¬ touches (.poller outlets.channels.length)) :
    (table.insertPoller stream outlets).2.1.Avoids touches :=
  avoids.insert stream untouched

theorem insertPoller_of_bindPoller {poller : Poller}
    (bound : table.bindPoller stream outlets = .ok (poller, after, last)) :
    table.insertPoller stream outlets = (poller, after, last) := by
  unfold BindingTable.bindPoller at bound
  split at bound
  · contradiction
  · exact Except.ok.inj bound

theorem insertPoller_of_bindGated {presence : String} {gated : GatedPoller}
    (bound : table.bindGated stream presence outlets = .ok (gated, after, last)) :
    ∃ middle between, table.insertPoller stream outlets = (gated.payload, middle, between) ∧
      middle.insertPoller presence between = (gated.presence, after, last) := by
  unfold BindingTable.bindGated at bound
  split at bound
  · contradiction
  · split at bound
    · contradiction
    · cases bound
      exact ⟨_, _, rfl, rfl⟩

theorem channel_of_insertPoller {poller : Poller}
    (made : table.insertPoller stream outlets = (poller, after, last)) :
    poller.channel = outlets.channels.length ∧
      last.channels.length = outlets.channels.length + 1 := by
  rw [insertPoller, Outlets.addChannel, Prod.mk.injEq, Prod.mk.injEq] at made
  obtain ⟨rfl, _, rfl⟩ := made
  exact ⟨rfl, List.length_append⟩

end BindingTable

namespace Session

variable {session bound next : Session SessionEngine} {action : Action} {answer : Answer}
  {touches : Binding → Prop}

theorem exists_of_answered {α : Type} {granted : α → Answer}
    {outcome : Except SessionError α × Session SessionEngine}
    (given : (answered granted outcome).1 = answer) (allowed : answer.isRefusal = false) :
    ∃ value, outcome = (.ok value, outcome.2) ∧ granted value = answer := by
  obtain ⟨_ | value, after⟩ := outcome
  · subst given
    contradiction
  · exact ⟨value, rfl, given⟩

theorem exists_of_bindStream {operation : Operation} {stream : String} {binding : Binding}
    (binds : session.bindStream operation stream binding = (.ok (), bound)) :
    ∃ bindings, session.bindings.bindCallback stream binding = .ok bindings ∧
      bound = { session with bindings } := by
  unfold bindStream at binds
  split at binds
  · simp at binds
  · split at binds
    · simp at binds
    · rename_i made
      cases binds
      exact ⟨_, made, rfl⟩

theorem exists_of_previewLatest {place : PlaceId}
    (binds : session.previewLatest = (.ok place, bound)) :
    ∃ bindings, session.bindings.bindCallback session.config.previewStream (.latest place) =
        .ok bindings ∧ place = session.outlets.places.length ∧
      bound = { session with bindings, outlets := session.outlets.addPlace.2 } := by
  unfold previewLatest at binds
  simp only at binds
  split at binds
  · simp at binds
  · rename_i middle made
    cases binds
    obtain ⟨bindings, found, rfl⟩ := exists_of_bindStream made
    exact ⟨bindings, found, rfl, rfl⟩

theorem exists_of_pollStream {stream : String} {poller : Poller}
    (polls : session.pollStream stream = (.ok poller, bound)) :
    ∃ bindings outlets, session.bindings.insertPoller stream session.outlets =
        (poller, bindings, outlets) ∧ bound = { session with bindings, outlets } := by
  unfold pollStream at polls
  split at polls
  · simp at polls
  · split at polls
    · simp at polls
    · rename_i made
      cases polls
      exact ⟨_, _, BindingTable.insertPoller_of_bindPoller made, rfl⟩

theorem exists_of_bindUngated {port : Port} {handle : OutputPoller}
    (ungated : port.presence = none) (binds : session.bindPoller port = (.ok handle, bound)) :
    ∃ source bindings outlets, handle = ⟨session.task, .plain source⟩ ∧
      session.bindings.insertPoller port.output session.outlets = (source, bindings, outlets) ∧
      bound = { session with bindings, outlets } := by
  simp only [bindPoller, ungated] at binds
  split at binds
  · simp at binds
  · split at binds
    · simp at binds
    · rename_i made
      cases binds
      exact ⟨_, _, _, rfl, BindingTable.insertPoller_of_bindPoller made, rfl⟩

theorem Step.bindings_of_refused {error : SessionError}
    (step : session.Step action (.refused error) next) (other : action ≠ .start) :
    next.bindings = session.bindings := by
  cases step with
  | tended extended granted silent | bound configured capacity extended granted silent =>
      contradiction
  | fed checked given granted records | polled polled granted silent => contradiction
  | aborted configured begun => exact absurd rfl other
  | _ => rfl

theorem avoids_answered {α : Type} {granted : α → Answer}
    {outcome : Except SessionError α × Session SessionEngine}
    (avoids : session.bindings.Avoids touches) (other : action ≠ .start)
    (performed : session.perform action = answered granted outcome)
    (grants : ∀ value bound, outcome = (.ok value, bound) →
      (session.perform action).1 = granted value → bound.bindings.Avoids touches) :
    (session.perform action).2.bindings.Avoids touches := by
  have step := session.perform_step action
  obtain ⟨error | value, after⟩ := outcome
  · rw [performed] at step ⊢
    rw [step.bindings_of_refused other]
    exact avoids
  · have given := grants value after rfl (congrArg Prod.fst performed)
    rw [performed]
    exact given

/-- What is bound after an action was bound before, or is granted by it. -/
theorem avoids_perform (avoids : session.bindings.Avoids touches) (action : Action)
    (untouched : ∀ binding, Binding.IsGranted session.task
      (action, (session.perform action).1) binding → ¬ touches binding) :
    (session.perform action).2.bindings.Avoids touches := by
  cases action with
  | bindCallback port listener =>
      refine avoids_answered avoids nofun rfl fun done bound binds given => ?_
      obtain ⟨bindings, made, rfl⟩ := exists_of_bindStream binds
      exact avoids.bindCallback (untouched _ (given ▸ .callback)) made
  | observeStream stream listener =>
      refine avoids_answered avoids nofun rfl fun done bound binds given => ?_
      obtain ⟨bindings, made, rfl⟩ := exists_of_bindStream binds
      exact avoids.bindCallback (untouched _ (given ▸ .observer)) made
  | bindPreview listener =>
      refine avoids_answered avoids nofun rfl fun done bound binds given => ?_
      obtain ⟨bindings, made, rfl⟩ := exists_of_bindStream binds
      exact avoids.bindCallback (untouched _ (given ▸ .preview)) made
  | previewLatest =>
      refine avoids_answered avoids nofun rfl fun place bound binds given => ?_
      obtain ⟨bindings, made, _, rfl⟩ := exists_of_previewLatest binds
      exact avoids.bindCallback (untouched _ (given ▸ .latest)) made
  | pollStream stream =>
      refine avoids_answered avoids nofun rfl fun poller bound polls given => ?_
      obtain ⟨bindings, outlets, made, rfl⟩ := exists_of_pollStream polls
      have unheld : ¬ touches (.poller poller.channel) := untouched _ (given ▸ .packets)
      rw [(BindingTable.channel_of_insertPoller made).1] at unheld
      have kept := avoids.insertPoller stream unheld
      rwa [made] at kept
  | bindPoller port =>
      refine avoids_answered avoids nofun rfl fun handle bound binds given => ?_
      have unheld (poller : Poller) (member : poller ∈ (Ticket.outputs handle).pollers) :
          ¬ touches (.poller poller.channel) := untouched _ (given ▸ .outputs member)
      cases gates : port.presence with
      | none =>
          obtain ⟨source, bindings, outlets, rfl, made, rfl⟩ := exists_of_bindUngated gates binds
          have channel := (BindingTable.channel_of_insertPoller made).1
          have kept := avoids.insertPoller port.output
            (channel ▸ unheld source List.mem_cons_self)
          rwa [made] at kept
      | some presence =>
          obtain ⟨gated, bindings, outlets, made, rfl, rfl⟩ := exists_of_bindPoller gates binds
          obtain ⟨middle, between, first, second⟩ :=
            BindingTable.insertPoller_of_bindGated made
          have unpaid := unheld gated.payload List.mem_cons_self
          have unsignalled := unheld gated.presence (List.mem_cons_of_mem _ List.mem_cons_self)
          rw [(BindingTable.channel_of_insertPoller first).1] at unpaid
          rw [(BindingTable.channel_of_insertPoller second).1] at unsignalled
          have begun := avoids.insertPoller port.output unpaid
          rw [first] at begun
          have kept := begun.insertPoller presence unsignalled
          rwa [second] at kept
  | configure source =>
      rw [perform, answered_snd]
      unfold configure
      repeat' split
      all_goals first | exact avoids | exact BindingTable.avoids_of_empty rfl
  | start =>
      rw [perform, answered_snd]
      unfold start
      repeat' split
      all_goals first | exact avoids | exact BindingTable.avoids_of_empty rfl
  | stop =>
      rw [perform]
      unfold stop
      split
      all_goals first | exact avoids | exact BindingTable.avoids_of_empty rfl
  | feed frame now =>
      rw [perform, answered_snd, feed_eq]
      unfold feedAt
      repeat' split
      all_goals exact avoids
  | feedAt input =>
      rw [perform, answered_snd]
      unfold feedAt
      repeat' split
      all_goals exact avoids
  | fill poller buffer =>
      change (session.awaitOutput poller).2.2.bindings.Avoids _
      rw [(session.awaitOutput_polled poller).bindings]
      exact avoids
  | _ => exact avoids

/-- A queue or a place that is granted was made for it. -/
theorem made_of_granted {binding : Binding}
    (granted : binding.IsGranted session.task (action, (session.perform action).1)) :
    binding.IsNew session.outlets ∧ binding.IsMade (session.perform action).2.outlets := by
  generalize given : (session.perform action).1 = answer at granted
  cases granted with
  | callback | observer | preview => exact ⟨trivial, trivial⟩
  | latest =>
      obtain ⟨place, binds, same⟩ := exists_of_answered given rfl
      cases same
      obtain ⟨bindings, made, named, after⟩ := exists_of_previewLatest binds
      rw [perform, answered_snd, after, named]
      refine ⟨Nat.le_refl _, ?_⟩
      rw [Binding.IsMade, Outlets.addPlace, List.length_append]
      exact Nat.lt_succ_self _
  | packets =>
      obtain ⟨poller, polls, same⟩ := exists_of_answered given rfl
      cases same
      obtain ⟨bindings, outlets, made, after⟩ := exists_of_pollStream polls
      obtain ⟨channel, longer⟩ := BindingTable.channel_of_insertPoller made
      rw [perform, answered_snd, after, channel]
      refine ⟨Nat.le_refl _, ?_⟩
      rw [Binding.IsMade, longer]
      exact Nat.lt_succ_self _
  | @outputs port handle poller member =>
      obtain ⟨polled, binds, same⟩ := exists_of_answered given rfl
      cases same
      rw [perform, answered_snd]
      cases gates : port.presence with
      | none =>
          obtain ⟨source, bindings, outlets, rfl, made, after⟩ :=
            exists_of_bindUngated gates binds
          obtain ⟨channel, longer⟩ := BindingTable.channel_of_insertPoller made
          obtain rfl : poller = source := List.mem_singleton.mp member
          rw [after, channel]
          refine ⟨Nat.le_refl _, ?_⟩
          rw [Binding.IsMade, longer]
          exact Nat.lt_succ_self _
      | some presence =>
          obtain ⟨gated, bindings, outlets, made, rfl, after⟩ := exists_of_bindPoller gates binds
          obtain ⟨middle, between, first, second⟩ :=
            BindingTable.insertPoller_of_bindGated made
          obtain ⟨payload, grown⟩ := BindingTable.channel_of_insertPoller first
          obtain ⟨channel, longer⟩ := BindingTable.channel_of_insertPoller second
          rw [after, Binding.IsNew, Binding.IsMade, longer, grown]
          rcases List.mem_cons.mp member with rfl | last
          · rw [payload]
            exact ⟨Nat.le_refl _, Nat.lt_succ_of_lt (Nat.lt_succ_self _)⟩
          · rw [List.mem_singleton.mp last, channel, grown]
            exact ⟨Nat.le_succ _, Nat.lt_succ_self _⟩

/-- Nothing that is bound or observed waits for a queue or a place to be made. -/
structure Founded (session : Session SessionEngine) : Prop where
  bindings : session.bindings.Avoids (¬ ·.IsMade session.outlets)
  observers : session.engine.Shuns (¬ ·.IsMade session.outlets)

theorem grows_perform (coupled : session.Coupled) (action : Action) :
    session.outlets.Grows (session.perform action).2.outlets :=
  -- Queues and places are there whatever is bound.
  have shielded : session.Shielded (fun _ => False) session.outlets.Grows :=
    ⟨fun _ _ _ _ _ => id, .refl _⟩
  (shielded.perform (brokenOnlyBy_grows _) coupled action fun _ _ _ _ _ => id).held

theorem Founded.perform (founded : session.Founded) (coupled : session.Coupled)
    (action : Action) : (session.perform action).2.Founded := by
  have grows := grows_perform coupled action
  have shielded : session.Shielded (¬ ·.IsMade session.outlets) session.outlets.Grows :=
    ⟨founded.observers, .refl _⟩
  have next := shielded.perform (brokenOnlyBy_grows _) coupled action
    fun _ _ => founded.bindings
  refine ⟨avoids_perform (fun stream binding found missing => ?_) action
    (fun binding granted missing => missing (made_of_granted granted).2), ?_⟩
  · exact founded.bindings stream binding found fun made => missing (made.grows grows)
  · intro worker found stream binding observed missing
    exact next.shuns worker found stream binding observed fun made =>
      missing (made.grows grows)

section Courses

variable {actions : List Action} {exchange : Action × Answer} {binding : Binding}

theorem grows_after (coupled : session.Coupled) (actions : List Action) :
    session.outlets.Grows (session.after actions).outlets := by
  induction actions generalizing session with
  | nil => exact .refl _
  | cons action rest ih =>
      exact (grows_perform coupled action).trans
        (ih (coupled.step (session.perform_step action)))

theorem Founded.after (founded : session.Founded) (coupled : session.Coupled)
    (actions : List Action) : (session.after actions).Founded := by
  induction actions generalizing session with
  | nil => exact founded
  | cons action rest ih =>
      exact ih (founded.perform coupled action) (coupled.step (session.perform_step action))

theorem founded_opened {task : Task} {layout : Layout} {config : SessionConfig} :
    ((opened task layout config).after actions).Founded :=
  have unstarted : (opened task layout config).Founded :=
    ⟨BindingTable.avoids_of_empty rfl, fun _ found => absurd found.symm (Option.some_ne_none _)⟩
  unstarted.after (coupled_fresh trivial rfl rfl task layout config) actions

/-- What was granted at any time was made then, and is there ever since. -/
theorem made_of_mem_history (coupled : session.Coupled)
    (known : exchange ∈ session.history actions)
    (granted : binding.IsGranted session.task exchange) :
    binding.IsNew session.outlets ∧ binding.IsMade (session.after actions).outlets := by
  induction actions generalizing session with
  | nil => contradiction
  | cons action rest ih =>
      have step := session.perform_step action
      have next := coupled.step step
      rcases List.mem_cons.mp known with rfl | later
      · obtain ⟨fresh, made⟩ := made_of_granted granted
        exact ⟨fresh, made.grows (grows_after next rest)⟩
      · rw [← step.task] at granted
        obtain ⟨fresh, made⟩ := ih next later granted
        exact ⟨fresh.of_grows (grows_perform coupled action), made⟩

/-- A queue or a place that is there is not granted again. -/
theorem not_granted_of_made (coupled : session.Coupled) (made : binding.IsMade session.outlets)
    (silent : binding.listener? = none) : ∀ exchange ∈ session.history actions,
      ∀ other : Binding, other.IsGranted session.task exchange → other ≠ binding := by
  intro exchange known other granted same
  subst same
  exact (made_of_mem_history coupled known granted).1.not_isMade silent made

/-- Once nothing is bound that could break what holds of the outlets, it holds for as long as
nothing of that kind is granted. -/
theorem Shielded.after {holds : Outlets → Prop} (shielded : session.Shielded touches holds)
    (only : BrokenOnlyBy touches holds) (coupled : session.Coupled)
    (avoids : session.bindings.Avoids touches)
    (untouched : ∀ exchange ∈ session.history actions, ∀ binding,
      binding.IsGranted session.task exchange → ¬ touches binding) :
    (session.after actions).Shielded touches holds ∧
      (session.after actions).bindings.Avoids touches := by
  induction actions generalizing session with
  | nil => exact ⟨shielded, avoids⟩
  | cons action rest ih =>
      have step := session.perform_step action
      refine ih (shielded.perform only coupled action fun _ _ => avoids) (coupled.step step)
        (avoids_perform avoids action (untouched _ List.mem_cons_self)) ?_
      rw [step.task]
      exact fun exchange known => untouched exchange (List.mem_cons_of_mem _ known)

end Courses

end Session

end FrameFlow
