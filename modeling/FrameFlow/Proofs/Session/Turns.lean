import FrameFlow.Proofs.Session.Books
import FrameFlow.Proofs.Session.Calling
import FrameFlow.Proofs.Session.Service
import FrameFlow.Proofs.Session.Takings

/-!
The counters of a session against what was asked of it and what its graph emitted. Every frame,
packet and fault is counted once, and every fault is told once, to whom it may concern then.
-/

namespace FrameFlow

/-- A run as it was begun, with the frames that its engine took. -/
structure Stint where
  graph : Graph
  bindings : StreamMap Binding
  frames : List StampedFrame := []

namespace Stint

def emissions (stint : Stint) : List Emission := stint.graph.emissionsFrom 0 stint.frames

def entries (stint : Stint) : List Entry :=
  stint.emissions.map (·.entry stint.bindings)

/-- A worker plays a run. -/
structure IsPlayedBy (stint : Stint) (worker : Worker Binding Unit) : Prop where
  graph : worker.graph = stint.graph
  alike : ∀ stream, worker.observers.find? stream = stint.bindings.find? stream
  reports : worker.sink = some ()
  position : worker.index + worker.waiting.length = stint.frames.length

theorem IsPlayedBy.continues {stint : Stint} {before after : Worker Binding Unit}
    (played : stint.IsPlayedBy before) (continues : before.Continues after) :
    stint.IsPlayedBy after where
  graph := continues.graph.trans played.graph
  alike := continues.observers ▸ played.alike
  reports := continues.sink.trans played.reports
  position := continues.position.trans played.position

def give (stint : Stint) (frames : List StampedFrame) : Stint :=
  { stint with frames := stint.frames ++ frames }

theorem entries_give (stint : Stint) (input : StampedFrame) :
    (stint.give [input]).entries = stint.entries ++
      (stint.graph.emissions stint.frames.length input).map (·.entry stint.bindings) := by
  simp only [entries, emissions, give, Graph.emissionsFrom_append, Graph.emissionsFrom,
    List.append_nil, List.map_append, Nat.zero_add]

end Stint

namespace SessionEngine

/-- What is due to be entered for the frames that an engine has taken. -/
def due (engine : SessionEngine) : List Entry :=
  match engine.worker with
  | some worker => worker.owed.map (·.entry worker.observers)
  | none => []

theorem due_of_worker {engine : SessionEngine} {worker : Worker Binding Unit}
    (found : engine.worker = some worker) :
    engine.due = engine.owed.map (·.entry worker.observers) := by
  rw [due, ScriptedEngine.owed, found]

theorem due_of_owed {engine : SessionEngine} (nothing : engine.owed = []) : engine.due = [] := by
  cases found : engine.worker with
  | none => rw [due, found]
  | some worker => rw [due_of_worker found, nothing, List.map_nil]

/-- The latest run is played by whichever worker there is. -/
def Plays (engine : SessionEngine) (stints : List Stint) : Prop :=
  ∀ worker, engine.worker = some worker →
    ∃ stint rest, stints = stint :: rest ∧ stint.IsPlayedBy worker

/-- An engine went on, and entered the first entries that were due. -/
structure Pays (done : List Entry) (before after : SessionEngine × Outlets) : Prop where
  due : before.1.due = done ++ after.1.due
  books : after.2.books = before.2.books.enterAll done
  continues : ∀ worker, after.1.worker = some worker →
    ∃ old, before.1.worker = some old ∧ old.Continues worker

theorem Pays.trans {first second : List Entry} {before middle after : SessionEngine × Outlets}
    (pays : Pays first before middle) (goesOn : Pays second middle after) :
    Pays (first ++ second) before after where
  due := by rw [pays.due, goesOn.due, List.append_assoc]
  books := by
    rw [goesOn.books, pays.books]
    exact (List.foldl_append ..).symm
  continues worker found := by
    obtain ⟨middle, known, onward⟩ := goesOn.continues worker found
    obtain ⟨old, first, earlier⟩ := pays.continues middle known
    exact ⟨old, first, onward.graph.trans earlier.graph,
      onward.observers.trans earlier.observers, onward.sink.trans earlier.sink,
      onward.position.trans earlier.position⟩

theorem exists_pays {engine : SessionEngine} {stints : List Stint} (plays : engine.Plays stints)
    (outlets : Outlets) :
    ∃ done, Pays done (engine, outlets) (engine.advance SessionEngine.reaction outlets) := by
  cases found : engine.worker with
  | none =>
      have idle : engine.advance SessionEngine.reaction outlets = (engine, outlets) := by
        simp only [ScriptedEngine.advance, found]
      rw [idle]
      refine ⟨[], rfl, rfl, fun worker known => ?_⟩
      have impossible := found.symm.trans known
      contradiction
  | some worker =>
      obtain ⟨stint, rest, _, played⟩ := plays worker found
      obtain ⟨done, owed, books, continues⟩ := exists_entered found played.reports outlets
      refine ⟨_, ?_, books, fun left known => ⟨worker, found, continues left known⟩⟩
      rw [due_of_worker found, owed, List.map_append]
      congr 1
      cases left : (engine.advance SessionEngine.reaction outlets).1.worker with
      | none => rw [due, ScriptedEngine.owed, left, List.map_nil]
      | some later => rw [due_of_worker left, (continues later left).observers]

theorem Pays.plays {before after : SessionEngine × Outlets} {stints : List Stint}
    {done : List Entry} (pays : Pays done before after) (plays : before.1.Plays stints) :
    after.1.Plays stints := by
  intro worker found
  obtain ⟨old, known, continues⟩ := pays.continues worker found
  obtain ⟨stint, rest, same, played⟩ := plays old known
  exact ⟨stint, rest, same, played.continues continues⟩

end SessionEngine

/-- What a caller's action itself is entered as. -/
def Books.note (books : Books) : Action × Answer → Books
  | (.listenForErrors listener, _) => { books with listener := some listener }
  | (.feed _ _, .refused error) | (.feedAt _, .refused error) =>
      { books with rejected := books.rejected.bump error.label }
  | (.feed _ _, _) | (.feedAt _, _) => { books with fed := books.fed + 1 }
  | _ => books

namespace Session

open SessionEngine (Plays Pays)

variable {session next : Session SessionEngine} {action : Action} {answer : Answer}
  {stints : List Stint}

/-- The runs of a session, the latest first, after one more action. -/
def stintsAfter (session : Session SessionEngine) (stints : List Stint) (action : Action) :
    List Stint :=
  match action, (session.perform action).1, session.engine.graph with
  | .start, .done, some graph => ⟨graph, session.bindings.bindings, []⟩ :: stints
  | _, _, _ =>
      match stints with
      | stint :: rest => stint.give (session.taken action) :: rest
      | [] => []

def allEntries (stints : List Stint) : List Entry := stints.reverse.flatMap Stint.entries

def allFrames (stints : List Stint) : List StampedFrame := stints.reverse.flatMap (·.frames)

/-- A session whose latest run is the first of some, as far as its engine still works for it. -/
structure Keeps (session : Session SessionEngine) (stints : List Stint) : Prop where
  coupled : session.Coupled
  works : session.state = .running → session.engine.worker.isSome = true
  plays : session.engine.Plays stints

/-- What comes of an action: it is noted itself, and then the first entries are made that were
due before it or became due by it. -/
structure Turns (session : Session SessionEngine) (stints : List Stint) (action : Action)
    (done : List Entry) : Prop where
  books : (session.perform action).2.outlets.books =
    (session.outlets.books.note (action, (session.perform action).1)).enterAll done
  plays : (session.perform action).2.engine.Plays (session.stintsAfter stints action)
  gains : ∃ gained, session.engine.due ++ gained = done ++ (session.perform action).2.engine.due ∧
    allEntries (session.stintsAfter stints action) = allEntries stints ++ gained
  frames : allFrames (session.stintsAfter stints action) =
    allFrames stints ++ session.taken action

theorem stintsAfter_of_quiet (quiet : session.taken action = [])
    (unstarted : action ≠ .start ∨ (session.perform action).1 ≠ .done) :
    session.stintsAfter stints action = stints := by
  unfold stintsAfter
  split
  · rcases unstarted with other | refused
    · exact absurd rfl other
    · exact absurd ‹_› refused
  · rw [quiet]
    cases stints with
    | nil => rfl
    | cons stint rest => simp [Stint.give]

/-- An action after which the engine, with the same worker, goes on as far as it may. -/
theorem Keeps.turns_of_pays (keeps : session.Keeps stints) (quiet : session.taken action = [])
    (unstarted : action ≠ .start ∨ (session.perform action).1 ≠ .done)
    {engine : SessionEngine} {outlets : Outlets} {done : List Entry}
    (worker : engine.worker = session.engine.worker)
    (books : outlets.books = session.outlets.books.note (action, (session.perform action).1))
    (pays : Pays done (engine, outlets)
      ((session.perform action).2.engine, (session.perform action).2.outlets)) :
    session.Turns stints action done := by
  have same : engine.due = session.engine.due := by rw [SessionEngine.due, worker]; rfl
  have plays : engine.Plays stints := fun old known => keeps.plays old (worker ▸ known)
  refine ⟨books ▸ pays.books, ?_, ⟨[], ?_, ?_⟩, ?_⟩
  · rw [stintsAfter_of_quiet quiet unstarted]
    exact pays.plays plays
  · rw [List.append_nil, ← same]
    exact pays.due
  · rw [stintsAfter_of_quiet quiet unstarted, List.append_nil]
  · rw [stintsAfter_of_quiet quiet unstarted, quiet, List.append_nil]

theorem pays_nothing (state : SessionEngine × Outlets) : Pays [] state state :=
  ⟨rfl, rfl, fun worker found => ⟨worker, found, rfl, rfl, rfl, rfl⟩⟩

/-- An action that leaves the worker alone enters nothing but itself. -/
theorem Keeps.turns_of_still (keeps : session.Keeps stints) (quiet : session.taken action = [])
    (unstarted : action ≠ .start ∨ (session.perform action).1 ≠ .done)
    (worker : (session.perform action).2.engine.worker = session.engine.worker)
    (books : (session.perform action).2.outlets.books =
      session.outlets.books.note (action, (session.perform action).1)) :
    session.Turns stints action [] :=
  keeps.turns_of_pays quiet unstarted worker books (pays_nothing _)

/-- An action on queues, after which the engine goes on. -/
theorem Keeps.exists_turns_of_settle (keeps : session.Keeps stints)
    (other : feeds action = false) (unstarted : action ≠ .start) (outlets : Outlets)
    (same : (session.perform action).2 = settle { session with outlets })
    (books : outlets.books = session.outlets.books.note (action, (session.perform action).1)) :
    ∃ done, session.Turns stints action done := by
  obtain ⟨done, pays⟩ := SessionEngine.exists_pays keeps.plays outlets
  have quiet := session.taken_of_not_feeds other
  refine ⟨done, keeps.turns_of_pays quiet (.inl unstarted) rfl books ?_⟩
  rw [same]
  exact pays

theorem worker_load (text : String) (engine : SessionEngine) :
    (GraphEngine.load text engine).2.worker = engine.worker := by
  change (SessionEngine.answer engine (engine.load text)).2.worker = _
  cases loaded : engine.load text with
  | error refusal => rfl
  | ok next =>
      obtain ⟨_, graph, _, same⟩ := ScriptedEngine.load_eq_ok_iff.mp loaded
      rw [same]
      rfl

theorem still_configure (source : GraphSource) :
    (session.configure source).2.engine.worker = session.engine.worker ∧
      (session.configure source).2.outlets = session.outlets := by
  unfold configure
  split
  · exact ⟨rfl, rfl⟩
  · split
    · exact ⟨rfl, rfl⟩
    · rename_i text read
      have same := worker_load text session.engine
      split
      · rename_i loaded
        rw [loaded] at same
        exact ⟨same, rfl⟩
      · rename_i loaded
        rw [loaded] at same
        split <;> exact ⟨same, rfl⟩

theorem still_bindStream (operation : Operation) (stream : String) (binding : Binding) :
    (session.bindStream operation stream binding).2.engine = session.engine ∧
      (session.bindStream operation stream binding).2.outlets = session.outlets := by
  unfold bindStream
  repeat' split
  all_goals exact ⟨rfl, rfl⟩

theorem still_previewLatest :
    session.previewLatest.2.engine = session.engine ∧
      session.previewLatest.2.outlets.books = session.outlets.books := by
  have bound := session.still_bindStream .bindPreview session.config.previewStream
    (.latest session.outlets.addPlace.1)
  unfold previewLatest
  simp only
  split
  · exact ⟨rfl, rfl⟩
  · rename_i after found
    rw [found] at bound
    exact ⟨bound.1, rfl⟩

theorem books_of_bindPoller {table after : BindingTable} {stream : String}
    {outlets last : Outlets} {poller : Poller}
    (bound : table.bindPoller stream outlets = .ok (poller, after, last)) :
    last.books = outlets.books := by
  unfold BindingTable.bindPoller at bound
  split at bound
  · contradiction
  · cases bound
    rfl

theorem books_of_bindGated {table after : BindingTable} {payload presence : String}
    {outlets last : Outlets} {poller : GatedPoller}
    (bound : table.bindGated payload presence outlets = .ok (poller, after, last)) :
    last.books = outlets.books := by
  unfold BindingTable.bindGated at bound
  split at bound
  · contradiction
  · split at bound
    · contradiction
    · cases bound
      rfl

theorem still_bindPoller (port : Port) :
    (session.bindPoller port).2.engine = session.engine ∧
      (session.bindPoller port).2.outlets.books = session.outlets.books := by
  unfold bindPoller
  split
  · exact ⟨rfl, rfl⟩
  · split
    · split
      · exact ⟨rfl, rfl⟩
      · rename_i bound
        exact ⟨rfl, books_of_bindPoller bound⟩
    · split
      · exact ⟨rfl, rfl⟩
      · rename_i bound
        exact ⟨rfl, books_of_bindGated bound⟩

theorem still_pollStream (stream : String) :
    (session.pollStream stream).2.engine = session.engine ∧
      (session.pollStream stream).2.outlets.books = session.outlets.books := by
  unfold pollStream
  split
  · exact ⟨rfl, rfl⟩
  · split
    · exact ⟨rfl, rfl⟩
    · rename_i bound
      exact ⟨rfl, books_of_bindPoller bound⟩

/-- What an action is noted as that leaves the worker and the counters alone. -/
theorem Keeps.turns_of_answered (keeps : session.Keeps stints) {α : Type} {granted : α → Answer}
    {outcome : Except SessionError α × Session SessionEngine}
    (performed : session.perform action = answered granted outcome)
    (other : feeds action = false) (unstarted : action ≠ .start)
    (worker : outcome.2.engine.worker = session.engine.worker)
    (books : outcome.2.outlets.books = session.outlets.books)
    (unnoted : ∀ books answer, Books.note books (action, answer) = books) :
    session.Turns stints action [] := by
  have next : (session.perform action).2 = outcome.2 := by rw [performed, answered_snd]
  refine keeps.turns_of_still (session.taken_of_not_feeds other) (.inl unstarted) ?_ ?_
  · rw [next, worker]
  · rw [next, books, unnoted]

theorem still_of_refused_start (coupled : session.Coupled) {error : SessionError}
    (refused : session.start = (.error error, next)) :
    next.engine.worker = session.engine.worker ∧ next.outlets = session.outlets := by
  unfold start at refused
  split at refused
  · cases refused
    exact ⟨rfl, rfl⟩
  · rename_i allowed
    simp only at refused
    split at refused
    · rename_i status engine begins
      have configured : session.state = .configured := by
        simpa [Operation.states] using state_of_require allowed
      obtain ⟨_, graph, sink, same⟩ := coupled.abort_spec configured begins
      cases refused
      exact ⟨congrArg (·.worker) same, rfl⟩
    · cases refused

/-- A start that succeeds begins a run, once nothing is due for the run before. -/
theorem Keeps.exists_turns_start (keeps : session.Keeps stints)
    (drained : (session.perform .start).1 = .done → session.engine.owed = []) :
    ∃ done, session.Turns stints .start done := by
  cases started : session.start with
  | mk result begun =>
      have performed : session.perform .start =
          answered (fun () => .done) (result, begun) := by rw [perform, started]
      cases result with
      | error error =>
          have still := still_of_refused_start keeps.coupled started
          refine ⟨[], keeps.turns_of_still (session.taken_of_not_feeds rfl) (.inr ?_) ?_ ?_⟩
          · intro granted
            rw [performed] at granted
            contradiction
          · rw [performed]
            exact still.1
          · rw [performed]
            exact congrArg Outlets.books still.2
      | ok done =>
          obtain ⟨configured, _⟩ := exists_of_start started
          obtain ⟨_, _, graph, _, _, loaded, _⟩ := keeps.coupled.agrees.configured configured
          have launched := launched_of_start keeps.coupled started loaded
          obtain ⟨observers, begins, alike⟩ := launched.worker
          let stint : Stint := ⟨graph, session.bindings.bindings, []⟩
          have begunStints : session.stintsAfter stints .start = stint :: stints := by
            have known : session.engine.graph = some graph := loaded
            unfold stintsAfter
            rw [performed, known]
            rfl
          refine ⟨[], ?_, ?_, ⟨[], ?_, ?_⟩, ?_⟩
          · rw [performed]
            exact congrArg Outlets.books launched.outlets
          · rw [begunStints, performed]
            intro worker found
            cases begins.symm.trans found
            exact ⟨stint, _, rfl, rfl, alike, rfl, rfl⟩
          · have nothing := drained (by rw [performed]; rfl)
            rw [performed, SessionEngine.due_of_owed nothing]
            change [] = begun.engine.due
            rw [SessionEngine.due_of_worker begins, ScriptedEngine.owed, begins]
            rfl
          · rw [begunStints]
            simp [allEntries, Stint.entries, Stint.emissions, stint, Graph.emissionsFrom]
          · rw [begunStints, session.taken_of_not_feeds rfl]
            simp [allFrames, stint]

/-- A frame that is fed, whichever way its stamp was found. -/
theorem Keeps.exists_turns_fed (keeps : session.Keeps stints) (input : StampedFrame)
    (unstarted : action ≠ .start) (next : (session.perform action).2 = (session.feedAt input).2)
    (taken : session.taken action = match (session.feedAt input).1 with
      | .ok () => [input]
      | .error _ => [])
    (noted : session.outlets.books.note (action, (session.perform action).1) =
      match (session.feedAt input).1 with
      | .ok () => { session.outlets.books with fed := session.outlets.books.fed + 1 }
      | .error error => { session.outlets.books with
          rejected := session.outlets.books.rejected.bump error.label }) :
    ∃ done, session.Turns stints action done := by
  cases checked : session.lifecycle.checkStamp input.timestamp with
  | error error =>
      have rejected : session.feedAt input = session.reject error := by
        simp only [feedAt, checked]
      rw [rejected] at next taken noted
      refine ⟨[], keeps.turns_of_still taken (.inl unstarted) ?_ ?_⟩
      · rw [next]
        rfl
      · rw [next, noted]
        rfl
  | ok done =>
      obtain ⟨running, _⟩ := Lifecycle.checkStamp_eq_ok_iff.mp checked
      obtain ⟨run, fed⟩ := keeps.coupled.agrees.feedAt_of_checked running checked
      rw [fed] at next taken noted
      obtain ⟨worker, found⟩ := Option.isSome_iff_exists.mp (keeps.works running)
      obtain ⟨stint, rest, rfl, played⟩ := keeps.plays worker found
      let accepted : SessionEngine := session.engine.accept run input
      have given : accepted.worker = some (worker.enqueue input) := by
        change (session.engine.accept run input).worker = _
        rw [ScriptedEngine.accept, found]
        rfl
      have plays : accepted.Plays (stint.give [input] :: rest) := by
        intro left known
        cases given.symm.trans known
        refine ⟨_, _, rfl, played.graph, played.alike, played.reports, ?_⟩
        have longer : (worker.enqueue input).waiting.length = worker.waiting.length + 1 :=
          List.length_append
        have position := played.position
        rw [longer, Stint.give, List.length_append, List.length_singleton]
        change worker.index + (worker.waiting.length + 1) = _
        omega
      obtain ⟨done, pays⟩ := SessionEngine.exists_pays plays session.outlets.countFed
      have givenStints :
          session.stintsAfter (stint :: rest) action = stint.give [input] :: rest := by
        unfold stintsAfter
        split
        · exact absurd rfl unstarted
        · rw [taken]
      let gained := (stint.graph.emissions stint.frames.length input).map (·.entry stint.bindings)
      refine ⟨done, ?_, ?_, ⟨gained, ?_, ?_⟩, ?_⟩
      · rw [next, noted]
        exact pays.books
      · rw [next, givenStints]
        exact pays.plays plays
      · rw [next]
        refine Eq.trans ?_ pays.due
        change _ = accepted.due
        rw [SessionEngine.due_of_worker given, SessionEngine.due_of_worker found,
          ScriptedEngine.owed_accept found, List.map_append, played.graph, played.position]
        congr 1
        exact List.map_congr_left fun emission _ =>
          (Emission.entry_congr played.alike emission).symm
      · rw [givenStints]
        simp [allEntries, Stint.entries_give, gained]
      · rw [givenStints, taken]
        simp [allFrames, Stint.give]

theorem Keeps.exists_turns_feedAt (keeps : session.Keeps stints) (input : StampedFrame) :
    ∃ done, session.Turns stints (.feedAt input) done := by
  refine keeps.exists_turns_fed input nofun (answered_snd ..) ?_ ?_
  · rw [taken, perform, answered_snd]
    exact session.taken_feedAt input
  · rw [perform]
    rcases session.feedAt input with ⟨_ | _, _⟩ <;> rfl

theorem feed_eq {ε : Type} [GraphEngine ε] (session : Session ε) (frame : Frame)
    (now : Timestamp) :
    let timestamp := session.lifecycle.stamp now
    session.feed frame now =
      ((session.feedAt ⟨timestamp, frame⟩).1.map fun () => timestamp,
        (session.feedAt ⟨timestamp, frame⟩).2) := by
  simp only [feed]
  split <;> (rename_i fed; rw [fed]; rfl)

theorem Keeps.exists_turns_feed (keeps : session.Keeps stints) (frame : Frame)
    (now : Timestamp) : ∃ done, session.Turns stints (.feed frame now) done := by
  let input : StampedFrame := ⟨session.lifecycle.stamp now, frame⟩
  refine keeps.exists_turns_fed input nofun ?_ ?_ ?_
  · rw [perform, answered_snd, feed_eq]
  · rw [taken, perform, answered_snd, feed_eq]
    exact session.taken_feedAt input
  · rw [perform, feed_eq]
    rcases session.feedAt input with ⟨_ | _, _⟩ <;> rfl

/-- A stop lets a run that is on go as far as it may, twice. -/
theorem Keeps.exists_turns_stop (keeps : session.Keeps stints) :
    ∃ done, session.Turns stints .stop done := by
  have quiet : session.taken .stop = [] := session.taken_of_not_feeds rfl
  have performed : session.perform .stop = (.done, session.stop) := rfl
  cases state : session.state with
  | running =>
      obtain ⟨run, ended⟩ := keeps.coupled.agrees.endRun_eq state
      let closed : SessionEngine := { session.engine with run := some run }
      have plays : closed.Plays stints := keeps.plays
      obtain ⟨first, worked⟩ := SessionEngine.exists_pays plays session.outlets
      let between := closed.advance SessionEngine.reaction session.outlets
      let left : SessionEngine := { between.1 with run := none }
      have still : left.Plays stints := worked.plays plays
      obtain ⟨second, finished⟩ := SessionEngine.exists_pays still between.2
      refine ⟨first ++ second, keeps.turns_of_pays quiet (.inl nofun) rfl rfl ?_⟩
      have stopped : ((session.perform .stop).2.engine, (session.perform .stop).2.outlets) =
          endRun session.config.inputStream session.engine session.outlets := by
        rw [performed]
        simp only [stop, state]
      rw [stopped, ended]
      have goes := worked.trans ⟨finished.due, finished.books, finished.continues⟩
      exact ⟨goes.due, goes.books, goes.continues⟩
  | _ =>
      refine ⟨[], keeps.turns_of_still quiet (.inl nofun) ?_ ?_⟩ <;>
        (rw [performed]; simp only [stop, state]; try rfl)

theorem exists_pays_poll (plays : session.engine.Plays stints) (poller : OutputPoller) :
    ∃ done, Pays done (session.engine, session.outlets)
      ((session.poll poller).2.2.engine, (session.poll poller).2.2.outlets) := by
  obtain ⟨channels, polled⟩ := poller.exists_channels session.isOpen session.outlets
  obtain ⟨done, pays⟩ := SessionEngine.exists_pays plays
    (poller.poll session.isOpen session.outlets).2.2
  have same : (poller.poll session.isOpen session.outlets).2.2.books =
      session.outlets.books := by
    rw [polled]
    rfl
  exact ⟨done, pays.due, pays.books.trans (congrArg (Books.enterAll · done) same),
    pays.continues⟩

theorem exists_pays_awaitOutput (plays : session.engine.Plays stints) (poller : OutputPoller) :
    ∃ done, Pays done (session.engine, session.outlets)
      ((session.awaitOutput poller).2.2.engine, (session.awaitOutput poller).2.2.outlets) := by
  obtain ⟨first, pays⟩ := exists_pays_poll plays poller
  unfold awaitOutput
  split
  · rename_i after middle polled
    rw [polled] at pays
    have still : middle.engine.Plays stints := pays.plays plays
    obtain ⟨second, goesOn⟩ := exists_pays_poll still after
    exact ⟨_, pays.trans goesOn⟩
  · exact ⟨first, pays⟩

/-- Whatever is done to a session, what was due or became due by it is entered in order. -/
theorem Keeps.exists_turns (keeps : session.Keeps stints) (action : Action)
    (drained : action = .start → (session.perform action).1 = .done → session.engine.owed = []) :
    ∃ done, session.Turns stints action done := by
  cases action with
  | configure source =>
      have still := session.still_configure source
      exact ⟨_, keeps.turns_of_answered rfl rfl nofun still.1 (congrArg _ still.2) fun _ _ => rfl⟩
  | bindCallback port listener =>
      have still := session.still_bindStream .bindCallback port.output
        (.output session.task port.slot listener)
      exact ⟨_, keeps.turns_of_answered rfl rfl nofun (congrArg _ still.1) (congrArg _ still.2)
        fun _ _ => rfl⟩
  | observeStream stream listener =>
      have still := session.still_bindStream .observeStream stream
        (.packets listener)
      exact ⟨_, keeps.turns_of_answered rfl rfl nofun (congrArg _ still.1) (congrArg _ still.2)
        fun _ _ => rfl⟩
  | bindPreview listener =>
      have still := session.still_bindStream .bindPreview
        session.config.previewStream (.preview listener)
      exact ⟨_, keeps.turns_of_answered rfl rfl nofun (congrArg _ still.1) (congrArg _ still.2)
        fun _ _ => rfl⟩
  | previewLatest =>
      have still := session.still_previewLatest
      exact ⟨_, keeps.turns_of_answered rfl rfl nofun (congrArg _ still.1) still.2
        fun _ _ => rfl⟩
  | bindPoller port =>
      have still := session.still_bindPoller port
      exact ⟨_, keeps.turns_of_answered rfl rfl nofun (congrArg _ still.1) still.2
        fun _ _ => rfl⟩
  | pollStream stream =>
      have still := session.still_pollStream stream
      exact ⟨_, keeps.turns_of_answered rfl rfl nofun (congrArg _ still.1) still.2
        fun _ _ => rfl⟩
  | start => exact keeps.exists_turns_start (drained rfl)
  | feed frame now => exact keeps.exists_turns_feed frame now
  | feedAt input => exact keeps.exists_turns_feedAt input
  | stop => exact keeps.exists_turns_stop
  | listenForErrors listener | lookAt place | take place =>
      exact ⟨_, keeps.turns_of_still (session.taken_of_not_feeds rfl) (.inl nofun) rfl rfl⟩
  | poll poller =>
      obtain ⟨done, pays⟩ := exists_pays_poll keeps.plays poller
      have quiet : session.taken (.poll poller) = [] := session.taken_of_not_feeds rfl
      exact ⟨done, keeps.turns_of_pays quiet (.inl nofun) rfl rfl pays⟩
  | fill poller buffer =>
      obtain ⟨done, pays⟩ := exists_pays_awaitOutput keeps.plays poller
      have quiet : session.taken (.fill poller buffer) = [] := session.taken_of_not_feeds rfl
      exact ⟨done, keeps.turns_of_pays quiet (.inl nofun) rfl rfl pays⟩
  | release poller =>
      refine keeps.exists_turns_of_settle rfl nofun (poller.detach session.outlets) rfl ?_
      obtain ⟨task, source⟩ := poller
      cases source <;> rfl
  | pollPackets poller => exact keeps.exists_turns_of_settle rfl nofun _ rfl rfl
  | releasePackets poller => exact keeps.exists_turns_of_settle rfl nofun _ rfl rfl

theorem works_addPacket (stream : String) (input : StampedFrame) (engine : SessionEngine) :
    (GraphEngine.addPacket stream input engine).2.worker.isSome = engine.worker.isSome := by
  change (SessionEngine.answer engine (engine.addPacket stream input)).2.worker.isSome = _
  cases given : engine.addPacket stream input with
  | error refusal => rfl
  | ok accepted =>
      obtain ⟨run, _, _, _, rfl⟩ := ScriptedEngine.addPacket_eq_ok_iff.mp given
      exact Option.isSome_map ..

theorem Polled.works {after : Session SessionEngine} (polled : session.Polled after)
    (coupled : session.Coupled) (running : session.state = .running)
    (works : session.engine.worker.isSome = true) : after.engine.worker.isSome = true := by
  induction polled with
  | once eased => exact works_settle (coupled.withOutlets _).settle running works
  | again before eased ih =>
      have state := (congrArg Lifecycle.state before.lifecycle).trans running
      exact works_settle ((coupled.polled before).withOutlets _).settle state ih

/-- A session that runs has a worker, whatever is done to it. -/
theorem Step.works (step : session.Step action answer next) (coupled : session.Coupled)
    (works : session.state = .running → session.engine.worker.isSome = true)
    (running : next.state = .running) : next.engine.worker.isSome = true := by
  have coupledNext := coupled.step step
  cases step with
  | rejected error rejected => exact works running
  | tended extended granted silent => exact works running
  | misconfigured state read loaded =>
      exact absurd running (SessionState.ne_running_of_mem state)
  | configured state read loaded found => contradiction
  | bound configured capacity extended granted silent => exact works running
  | launched configured begun =>
      obtain ⟨_, observers, _, _, begins⟩ := SessionEngine.worker_of_launch
        (show (GraphEngine.connectFaults session.engine).observers = .empty from
          coupled.agrees.observers) begun
      exact works_settle coupledNext rfl (Option.isSome_iff_exists.mpr ⟨_, begins⟩)
  | aborted configured begun => contradiction
  | @withheld action input status engine checked given =>
      have same := works_addPacket session.config.inputStream input session.engine
      rw [given] at same
      exact same.trans (works running)
  | @fed action answer input engine checked given granted records =>
      have state := state_of_checkStamp checked
      have same := works_addPacket session.config.inputStream input session.engine
      rw [given] at same
      exact works_settle coupledNext state (same.trans (works state))
  | drained ran ended => contradiction
  | dropped configured => contradiction
  | polled polled granted silent =>
      have state := (congrArg Lifecycle.state polled.lifecycle).symm.trans running
      exact polled.works coupled state (works state)

theorem Keeps.perform (keeps : session.Keeps stints) {done : List Entry}
    (turns : session.Turns stints action done) :
    (session.perform action).2.Keeps (session.stintsAfter stints action) :=
  have step := session.perform_step action
  ⟨keeps.coupled.step step, step.works keeps.coupled keeps.works, turns.plays⟩

end Session

end FrameFlow
