import FrameFlow.Proofs.Session.Turns
import Mathlib.Algebra.GroupWithZero.Nat

/-!
The counters of a session against what was asked of it and what its runs emitted. Once the runs
have drained, every frame, packet and fault was counted once, and every fault was told once, to
the error listener of that moment.
-/

namespace FrameFlow

namespace Tally

variable {κ : Type} [DecidableEq κ]

def total (tally : Tally κ) : Nat := (tally.counts.map (·.2)).sum

@[simp] theorem total_bump (tally : Tally κ) (key : κ) :
    (tally.bump key).total = tally.total + 1 := by
  obtain ⟨counts⟩ := tally
  simp only [total, bump]
  induction counts with
  | nil => rfl
  | cons entry rest ih =>
      by_cases same : entry.1 = key
      · simp only [bumpIn, same, if_true, List.map_cons, List.sum_cons]
        omega
      · simp only [bumpIn, same, if_false, List.map_cons, List.sum_cons, ih]
        omega

end Tally

def Event.isFailure : Event → Bool
  | .failure _ _ => true
  | _ => false

namespace Emission

def isFault : Emission → Bool
  | .fault _ => true
  | .packet _ _ => false

/-- The binding of a packet's stream cannot use the packet. -/
def isUndecodable (bindings : StreamMap Binding) : Emission → Bool
  | .packet stream content =>
      (bindings.find? stream).any fun binding =>
        (binding.refusal? stream content.payload).isSome
  | .fault _ => false

variable {bindings : StreamMap Binding} (emission : Emission)

/-- A packet is counted for its stream and the mode in which the stream is bound. -/
theorem counted_entry_iff {stream : String} {mode : BindingMode} :
    (emission.entry bindings).counted = some (stream, mode) ↔
      (bindings.find? stream).map Binding.mode = some mode ∧
        ∃ content, emission = .packet stream content := by
  cases emission with
  | fault reported => simp [entry]
  | packet other content =>
      by_cases same : other = stream
      · subst same
        cases found : bindings.find? other <;> simp [entry, found]
      · cases found : bindings.find? other <;> simp [entry, found, same]

theorem isSome_fault_entry :
    (emission.entry bindings).fault.isSome =
      (emission.isFault || emission.isUndecodable bindings) := by
  cases emission with
  | fault reported => rfl
  | packet stream content =>
      cases found : bindings.find? stream <;> simp [entry, isFault, isUndecodable, found]

/-- Nothing but a fault makes a listener hear of a failure. -/
theorem isFailure_of_mem_told {event : Event}
    (told : event ∈ (emission.entry bindings).told) : event.isFailure = false := by
  cases emission with
  | fault reported => simp [entry] at told
  | packet stream content =>
      cases found : bindings.find? stream with
      | none => simp [entry, found] at told
      | some binding =>
          simp only [entry, found] at told
          cases binding with
          | output task slot listener =>
              simp only [Outlets.told] at told
              cases decoded : task.decode stream content.payload <;> rw [decoded] at told <;>
                simp at told
              rw [told]
              rfl
          | preview listener =>
              simp only [Outlets.told] at told
              split at told <;> simp at told
              rw [told]
              rfl
          | packets listener =>
              simp only [Outlets.told, List.mem_singleton] at told
              rw [told]
              rfl
          | latest place | poller channel => simp [Outlets.told] at told

end Emission

namespace Stint

variable (stint : Stint)

/-- How many packets went to a stream that is bound in a mode, whether or not they arrived. -/
def dispatched (stream : String) (mode : BindingMode) : Nat :=
  if (stint.bindings.find? stream).map Binding.mode = some mode then
    (stint.graph.packetsOn stream 0 stint.frames).length
  else 0

/-- The faults of a script, and those that packets became, in order. -/
def faults : List Fault := stint.entries.filterMap (·.fault)

theorem countP_entries (stream : String) (mode : BindingMode) :
    stint.entries.countP (·.counted == some (stream, mode)) = stint.dispatched stream mode := by
  rw [entries, List.countP_map, dispatched, Graph.packetsOn, ← emissions]
  by_cases bound : (stint.bindings.find? stream).map Binding.mode = some mode
  · rw [if_pos bound, List.length_flatMap]
    induction stint.emissions with
    | nil => rfl
    | cons emission rest ih =>
        rw [List.countP_cons, ih, List.map_cons, List.sum_cons, Nat.add_comm]
        cases emission with
        | fault reported => simp [Emission.on, Emission.counted_entry_iff]
        | packet other content =>
            by_cases same : other = stream <;>
              simp [Emission.on, Emission.counted_entry_iff, bound, same]
  · rw [if_neg bound]
    refine List.countP_eq_zero.mpr fun emission _ counted => bound ?_
    exact (emission.counted_entry_iff.mp (beq_iff_eq.mp counted)).1

theorem length_faults : stint.faults.length =
    stint.emissions.countP Emission.isFault +
      stint.emissions.countP (Emission.isUndecodable stint.bindings) := by
  rw [faults, entries, List.length_filterMap_eq_countP, List.countP_map]
  induction stint.emissions with
  | nil => rfl
  | cons emission rest ih =>
      simp only [List.countP_cons, ih, Function.comp_apply, Emission.isSome_fault_entry]
      cases emission with
      | fault reported =>
          simp [Emission.isFault, Emission.isUndecodable]
          omega
      | packet stream content =>
          simp [Emission.isFault]
          omega

end Stint

/-- An error listener hears of faults once it was set, until another one is. -/
def listenerAfter (listener : Option Listener) : Action → Option Listener
  | .listenForErrors next => some next
  | _ => listener

/-- What is told of the faults that come up with actions. -/
def failuresTold (listener : Option Listener) : List (Action × List Fault) → List Event
  | [] => []
  | (action, faults) :: rest =>
      faults.flatMap (·.told (listenerAfter listener action)) ++
        failuresTold (listenerAfter listener action) rest

def isFed : Action × Answer → Bool
  | (action, answer) => Session.feeds action && !answer.isRefusal

def isRejectedFor (label : String) : Action × Answer → Bool
  | (action, .refused error) => Session.feeds action && error.label == label
  | _ => false

namespace Books

variable {books : Books} {turns : List ((Action × Answer) × List Entry)}

theorem fed_note (books : Books) (exchange : Action × Answer) :
    (books.note exchange).fed = books.fed + if isFed exchange then 1 else 0 := by
  obtain ⟨action, answer⟩ := exchange
  cases action <;> cases answer <;> rfl

theorem count_note (books : Books) (exchange : Action × Answer) (label : String) :
    (books.note exchange).rejected.count label =
      books.rejected.count label + if isRejectedFor label exchange then 1 else 0 := by
  obtain ⟨action, answer⟩ := exchange
  cases action <;> cases answer <;> first
    | rfl
    | simp [note, isRejectedFor, Session.feeds, @eq_comm _ label]

theorem total_note (books : Books) (exchange : Action × Answer) :
    (books.note exchange).fed + (books.note exchange).rejected.total =
      books.fed + books.rejected.total + if Session.feeds exchange.1 then 1 else 0 := by
  obtain ⟨action, answer⟩ := exchange
  cases action <;> cases answer <;> simp [note, Session.feeds] <;> omega

theorem dispatched_note (books : Books) (exchange : Action × Answer) :
    (books.note exchange).dispatched = books.dispatched := by
  obtain ⟨action, answer⟩ := exchange
  cases action <;> cases answer <;> rfl

theorem errors_note (books : Books) (exchange : Action × Answer) :
    (books.note exchange).errors = books.errors := by
  obtain ⟨action, answer⟩ := exchange
  cases action <;> cases answer <;> rfl

theorem events_note (books : Books) (exchange : Action × Answer) :
    (books.note exchange).events = books.events := by
  obtain ⟨action, answer⟩ := exchange
  cases action <;> cases answer <;> rfl

theorem listener_note (books : Books) (exchange : Action × Answer) :
    (books.note exchange).listener = listenerAfter books.listener exchange.1 := by
  obtain ⟨action, answer⟩ := exchange
  cases action <;> cases answer <;> rfl

/-- The books after an exchange with a caller, and the entries that were made with it. -/
def turn (books : Books) (turn : (Action × Answer) × List Entry) : Books :=
  (books.note turn.1).enterAll turn.2

/-- What grows with every turn grows by all of them. -/
theorem foldl_turn (view : Books → Nat) (gain : (Action × Answer) × List Entry → Nat)
    (each : ∀ books turn, view (books.turn turn) = view books + gain turn) :
    view (turns.foldl Books.turn books) = view books + (turns.map gain).sum := by
  induction turns generalizing books with
  | nil => rfl
  | cons turn rest ih =>
      rw [List.foldl_cons, ih, each, List.map_cons, List.sum_cons, Nat.add_assoc]

theorem sum_ite (counts : Action × Answer → Bool) :
    (turns.map fun turn => if counts turn.1 then 1 else 0).sum =
      (turns.map Prod.fst).countP counts := by
  induction turns with
  | nil => rfl
  | cons turn rest ih => rw [List.map_cons, List.sum_cons, ih, List.map_cons, List.countP_cons,
      Nat.add_comm]

theorem count_foldl_turn (key : String × BindingMode) :
    (turns.foldl Books.turn books).dispatched.count key =
      books.dispatched.count key +
        (turns.map Prod.snd).flatten.countP (·.counted == some key) := by
  rw [foldl_turn (fun books => books.dispatched.count key)
    (fun turn => turn.2.countP (·.counted == some key))
    fun books turn => by rw [Books.turn, count_enterAll, dispatched_note],
    List.countP_flatten, List.map_map]
  rfl

theorem errors_foldl_turn :
    (turns.foldl Books.turn books).errors =
      books.errors + (turns.map fun turn => turn.2.filterMap (·.fault)).flatten.length := by
  rw [foldl_turn Books.errors (fun turn => (turn.2.filterMap (·.fault)).length)
    fun books turn => by rw [Books.turn, enterAll_errors, errors_note],
    List.length_flatten, List.map_map]
  rfl

theorem filter_told (fault : Fault) (listener : Option Listener) :
    (fault.told listener).filter Event.isFailure = fault.told listener := by
  cases listener <;> rfl

/-- Failures are told of the faults alone, to the listener of the moment. -/
theorem failures_foldl_turn
    (quiet : ∀ turn ∈ turns, ∀ entry ∈ turn.2, ∀ event ∈ entry.told, event.isFailure = false) :
    (turns.foldl Books.turn books).events.filter Event.isFailure =
      books.events.filter Event.isFailure ++ failuresTold books.listener
        (turns.map fun turn => (turn.1.1, turn.2.filterMap (·.fault))) := by
  induction turns generalizing books with
  | nil => exact (List.append_nil _).symm
  | cons turn rest ih =>
      have later := @ih (books.turn turn) fun other member =>
        quiet other (List.mem_cons_of_mem _ member)
      rw [List.foldl_cons, later, Books.turn, enterAll_events, enterAll_listener, events_note,
        listener_note, List.filter_append, List.append_assoc, List.map_cons, failuresTold]
      congr 2
      have own := quiet turn List.mem_cons_self
      generalize turn.2 = entries at own
      induction entries with
      | nil => rfl
      | cons entry entries more =>
          have silent := own entry List.mem_cons_self
          have others := more fun other member => own other (List.mem_cons_of_mem _ member)
          rw [List.flatMap_cons, List.filter_append, others, Entry.events, List.filter_append,
            List.filter_eq_nil_iff.mpr (by simpa using silent), List.nil_append]
          cases raised : entry.fault with
          | none => simp [raised]
          | some fault =>
              rw [List.filterMap_cons_some raised, List.flatMap_cons]
              congr 1
              rw [Option.toList_some, List.flatMap_singleton, filter_told]

end Books

namespace Session

/-- The runs of a session, the latest first, after more actions. -/
def stintsThrough (session : Session SessionEngine) (stints : List Stint) :
    List Action → List Stint
  | [] => stints
  | action :: rest =>
      (session.perform action).2.stintsThrough (session.stintsAfter stints action) rest

/-- All frames that the engine takes while actions are performed. -/
def takenThrough (session : Session SessionEngine) : List Action → List StampedFrame
  | [] => []
  | action :: rest => session.taken action ++ (session.perform action).2.takenThrough rest

/-- Every run has worked off what it took before another one starts, and in the end. -/
def drainsThrough (session : Session SessionEngine) : List Action → Bool
  | [] => session.engine.owed.isEmpty
  | action :: rest =>
      (match action, (session.perform action).1 with
        | .start, .done => session.engine.owed.isEmpty
        | _, _ => true) &&
      (session.perform action).2.drainsThrough rest

theorem map_fst_history (session : Session SessionEngine) (actions : List Action) :
    (session.history actions).map Prod.fst = actions := by
  induction actions generalizing session with
  | nil => rfl
  | cons action rest ih => exact congrArg (action :: ·) (ih _)

/-- The engine takes one frame when a caller is told so, and otherwise none. -/
theorem length_taken (session : Session SessionEngine) (action : Action) :
    (session.taken action).length =
      if isFed (action, (session.perform action).1) then 1 else 0 := by
  have fed (input : StampedFrame) := session.taken_feedAt input
  cases action with
  | feedAt input =>
      rw [taken, perform, perform, answered_snd, fed]
      rcases session.feedAt input with ⟨_ | _, _⟩ <;> rfl
  | feed frame now =>
      rw [taken, perform, perform, answered_snd, feed_eq, feed_eq]
      refine (congrArg List.length (fed ⟨session.lifecycle.stamp now, frame⟩)).trans ?_
      rcases session.feedAt ⟨session.lifecycle.stamp now, frame⟩ with ⟨_ | _, _⟩ <;> rfl
  | _ =>
      rw [taken_of_not_feeds session rfl]
      rfl

theorem length_takenThrough (session : Session SessionEngine) (actions : List Action) :
    (session.takenThrough actions).length = (session.history actions).countP isFed := by
  induction actions generalizing session with
  | nil => rfl
  | cons action rest ih =>
      rw [takenThrough, List.length_append, length_taken, ih, history, List.countP_cons,
        Nat.add_comm]

variable {session : Session SessionEngine} {stints : List Stint}

/-- What is entered with each of some actions, in order, is what was due and what their runs
come to, as far as it is not due any longer. -/
structure Enters (session : Session SessionEngine) (stints : List Stint) (actions : List Action)
    (chunks : List (List Entry)) : Prop where
  length : chunks.length = actions.length
  books : ∀ count, (session.after (actions.take count)).outlets.books =
    (((session.history actions).zip chunks).take count).foldl Books.turn session.outlets.books
  gains : ∃ gained,
    session.engine.due ++ gained = chunks.flatten ++ (session.after actions).engine.due ∧
      allEntries (session.stintsThrough stints actions) = allEntries stints ++ gained
  frames : allFrames (session.stintsThrough stints actions) =
    allFrames stints ++ session.takenThrough actions

/-- Step by step, everything is entered in order. -/
theorem Keeps.exists_enters (keeps : session.Keeps stints) {actions : List Action}
    (drains : session.drainsThrough actions = true) :
    ∃ chunks, session.Enters stints actions chunks := by
  induction actions generalizing session stints with
  | nil =>
      refine ⟨[], rfl, fun count => ?_, ⟨[], List.append_nil _, (List.append_nil _).symm⟩,
        (List.append_nil _).symm⟩
      rw [List.take_nil]
      exact (congrArg (List.foldl Books.turn _) List.take_nil).symm
  | cons action rest ih =>
      simp only [drainsThrough, Bool.and_eq_true] at drains
      obtain ⟨before, later⟩ := drains
      have drained : action = .start → (session.perform action).1 = .done →
          session.engine.owed = [] := by
        rintro rfl started
        rw [started] at before
        exact List.isEmpty_iff.mp before
      obtain ⟨done, turns⟩ := keeps.exists_turns action drained
      obtain ⟨chunks, enters⟩ := ih (keeps.perform turns) later
      refine ⟨done :: chunks, congrArg (· + 1) enters.length, ?_, ?_, ?_⟩
      · rintro (_ | count)
        · rfl
        · refine (enters.books count).trans ?_
          rw [turns.books]
          rfl
      · obtain ⟨gained, due, entries⟩ := turns.gains
        obtain ⟨more, dueLater, entriesLater⟩ := enters.gains
        refine ⟨gained ++ more, ?_, ?_⟩
        · rw [← List.append_assoc, due, List.append_assoc, dueLater, List.flatten_cons,
            List.append_assoc]
          rfl
        · rw [← List.append_assoc, ← entries]
          exact entriesLater
      · rw [takenThrough, ← List.append_assoc, ← turns.frames]
        exact enters.frames

/-- The runs of a session, in order. -/
def runs (session : Session SessionEngine) (actions : List Action) : List Stint :=
  (session.stintsThrough [] actions).reverse

/-- What was asked of a session and what its runs emitted, as its counters and listeners tell it.
Faults come up with actions, and whoever listens then is told of them. -/
structure Balances (session : Session SessionEngine) (actions : List Action) : Prop where
  fed : (session.after actions).outlets.metrics.framesFed =
    (session.history actions).countP isFed
  taken : (session.after actions).outlets.metrics.framesFed =
    (session.takenThrough actions).length
  played : (session.runs actions).flatMap (·.frames) = session.takenThrough actions
  rejected : ∀ label, (session.after actions).outlets.metrics.framesRejected.count label =
    (session.history actions).countP (isRejectedFor label)
  calls : (session.after actions).outlets.metrics.framesFed +
    (session.after actions).outlets.metrics.framesRejected.total = actions.countP feeds
  dispatched : ∀ stream mode,
    (session.after actions).outlets.metrics.packetsDispatched.count (stream, mode) =
      ((session.runs actions).map (·.dispatched stream mode)).sum
  errors : (session.after actions).outlets.metrics.runtimeErrors =
    ((session.runs actions).map fun stint => stint.emissions.countP Emission.isFault +
      stint.emissions.countP (Emission.isUndecodable stint.bindings)).sum
  told : ∃ raised : List (List Fault), raised.length = actions.length ∧
    raised.flatten = (session.runs actions).flatMap Stint.faults ∧
    ∀ count,
      let outlets := (session.after (actions.take count)).outlets
      outlets.metrics.runtimeErrors = (raised.take count).flatten.length ∧
        outlets.events.filter Event.isFailure =
          failuresTold none ((actions.zip raised).take count)

theorem owed_of_drainsThrough {actions : List Action}
    (drains : session.drainsThrough actions = true) : (session.after actions).engine.owed = [] := by
  induction actions generalizing session with
  | nil => exact List.isEmpty_iff.mp drains
  | cons action rest ih =>
      simp only [drainsThrough, Bool.and_eq_true] at drains
      exact ih drains.2

namespace Enters

variable {actions : List Action} {chunks : List (List Entry)}

theorem map_fst (enters : session.Enters stints actions chunks) :
    ((session.history actions).zip chunks).map Prod.fst = session.history actions :=
  List.map_fst_zip (Nat.le_of_eq ((length_history session actions).trans enters.length.symm))

theorem map_snd (enters : session.Enters stints actions chunks) :
    ((session.history actions).zip chunks).map Prod.snd = chunks :=
  List.map_snd_zip (Nat.le_of_eq (enters.length.trans (length_history session actions).symm))

theorem books_eq (enters : session.Enters stints actions chunks) :
    (session.after actions).outlets.books =
      ((session.history actions).zip chunks).foldl Books.turn session.outlets.books := by
  have books := enters.books actions.length
  have whole : ((session.history actions).zip chunks).length ≤ actions.length := by
    rw [List.length_zip, length_history]
    exact Nat.min_le_left ..
  rwa [List.take_length, List.take_of_length_le whole] at books

/-- What was entered when nothing is due any longer. -/
theorem flatten_eq (enters : session.Enters stints actions chunks)
    (begun : session.engine.due = []) (drained : (session.after actions).engine.owed = []) :
    allEntries (session.stintsThrough stints actions) = allEntries stints ++ chunks.flatten := by
  obtain ⟨gained, due, entries⟩ := enters.gains
  rw [begun, SessionEngine.due_of_owed drained, List.nil_append, List.append_nil] at due
  rw [entries, due]

theorem fed_eq (enters : session.Enters stints actions chunks) :
    (session.after actions).outlets.metrics.framesFed =
      session.outlets.metrics.framesFed + (session.history actions).countP isFed := by
  rw [← enters.map_fst, ← Books.sum_ite]
  refine (congrArg Books.fed enters.books_eq).trans (Books.foldl_turn _ _ fun books turn => ?_)
  rw [Books.turn, Books.enterAll_fed, Books.fed_note]

theorem rejected_eq (enters : session.Enters stints actions chunks) (label : String) :
    (session.after actions).outlets.metrics.framesRejected.count label =
      session.outlets.metrics.framesRejected.count label +
        (session.history actions).countP (isRejectedFor label) := by
  rw [← enters.map_fst, ← Books.sum_ite]
  refine (congrArg (·.rejected.count label) enters.books_eq).trans
    (Books.foldl_turn (fun books => books.rejected.count label) _ fun books turn => ?_)
  rw [Books.turn, Books.enterAll_rejected, Books.count_note]

theorem calls_eq (enters : session.Enters stints actions chunks) :
    (session.after actions).outlets.metrics.framesFed +
        (session.after actions).outlets.metrics.framesRejected.total =
      session.outlets.metrics.framesFed + session.outlets.metrics.framesRejected.total +
        actions.countP feeds := by
  have counted : actions.countP feeds =
      (((session.history actions).zip chunks).map fun turn =>
        if feeds turn.1.1 then 1 else 0).sum := by
    rw [Books.sum_ite (fun exchange => feeds exchange.1), enters.map_fst]
    conv_lhs => rw [← map_fst_history session actions, List.countP_map]
    rfl
  rw [counted]
  refine (congrArg (fun books : Books => books.fed + books.rejected.total)
    enters.books_eq).trans (Books.foldl_turn
      (fun books => books.fed + books.rejected.total) _ fun books turn => ?_)
  rw [Books.turn, Books.enterAll_fed, Books.enterAll_rejected, Books.total_note]

theorem dispatched_eq (enters : session.Enters stints actions chunks)
    (key : String × BindingMode) :
    (session.after actions).outlets.metrics.packetsDispatched.count key =
      session.outlets.metrics.packetsDispatched.count key +
        chunks.flatten.countP (·.counted == some key) := by
  have counted := @Books.count_foldl_turn session.outlets.books
    ((session.history actions).zip chunks) key
  rw [enters.map_snd, ← enters.books_eq] at counted
  exact counted

/-- The faults that were entered with each action. -/
def raised (chunks : List (List Entry)) : List (List Fault) :=
  chunks.map fun entries => entries.filterMap (·.fault)

theorem flatten_raised (chunks : List (List Entry)) :
    (raised chunks).flatten = chunks.flatten.filterMap (·.fault) := by
  rw [raised, List.filterMap_flatten]

theorem errors_eq (enters : session.Enters stints actions chunks) (count : Nat) :
    (session.after (actions.take count)).outlets.metrics.runtimeErrors =
      session.outlets.metrics.runtimeErrors + ((raised chunks).take count).flatten.length := by
  refine (congrArg Books.errors (enters.books count)).trans ?_
  rw [Books.errors_foldl_turn, raised, ← List.map_take, ← enters.map_snd, ← List.map_take,
    enters.map_snd, List.map_map]
  rfl

theorem failures_eq (enters : session.Enters stints actions chunks) (count : Nat)
    (quiet : ∀ entry ∈ chunks.flatten, ∀ event ∈ entry.told, event.isFailure = false) :
    (session.after (actions.take count)).outlets.events.filter Event.isFailure =
      session.outlets.events.filter Event.isFailure ++
        failuresTold session.outlets.errorListener
          ((actions.zip (raised chunks)).take count) := by
  refine (congrArg (fun books : Books => books.events.filter Event.isFailure)
    (enters.books count)).trans ?_
  rw [Books.failures_foldl_turn fun turn member entry entered => quiet entry ?_]
  · have turns : (((session.history actions).zip chunks).take count).map
          (fun turn => (turn.1.1, turn.2.filterMap (·.fault))) =
        (actions.zip (raised chunks)).take count := by
      rw [List.map_take, raised, ← map_fst_history session actions, List.zip_map,
        map_fst_history]
      rfl
    rw [turns]
    rfl
  · have chunk := (List.of_mem_zip (List.mem_of_mem_take member)).2
    exact List.mem_flatten.mpr ⟨_, chunk, entered⟩

end Enters

theorem keeps_opened (task : Task) (layout : Layout) (config : SessionConfig) :
    (opened task layout config).Keeps [] :=
  ⟨coupled_fresh trivial rfl rfl task layout config, nofun, nofun⟩

/-- Whatever is done to a session, in whatever order: once its runs have drained, its counters
account for every frame, packet and fault exactly once. -/
theorem balances_of_drained (task : Task) (layout : Layout) (config : SessionConfig)
    (actions : List Action) (drains : (opened task layout config).drainsThrough actions = true) :
    (opened task layout config).Balances actions := by
  obtain ⟨chunks, enters⟩ := (keeps_opened task layout config).exists_enters drains
  let session := opened task layout config
  have entered : chunks.flatten = (session.runs actions).flatMap Stint.entries :=
    (enters.flatten_eq rfl (owed_of_drainsThrough drains)).symm
  have faults : (Enters.raised chunks).flatten = (session.runs actions).flatMap Stint.faults := by
    rw [Enters.flatten_raised, entered, List.filterMap_flatMap]
    rfl
  have fed := enters.fed_eq.trans (Nat.zero_add _)
  have played : (session.runs actions).flatMap (·.frames) = session.takenThrough actions :=
    enters.frames
  have errors (count : Nat) := (enters.errors_eq count).trans (Nat.zero_add _)
  refine ⟨fed, fed.trans (length_takenThrough session actions).symm, played,
    fun label => (enters.rejected_eq label).trans (Nat.zero_add _),
    enters.calls_eq.trans (Nat.zero_add _), fun stream mode => ?_, ?_,
    Enters.raised chunks, ?_, faults, fun count => ⟨errors count, ?_⟩⟩
  · rw [enters.dispatched_eq, entered, List.countP_flatMap]
    refine (Nat.zero_add _).trans (congrArg List.sum (List.map_congr_left fun stint _ => ?_))
    exact stint.countP_entries stream mode
  · have all := errors actions.length
    rw [List.take_length, List.take_of_length_le (Nat.le_of_eq ?_), faults,
      List.length_flatMap] at all
    · rw [all]
      exact congrArg List.sum (List.map_congr_left fun stint _ => stint.length_faults)
    · exact (List.length_map ..).trans enters.length
  · exact (List.length_map ..).trans enters.length
  · refine enters.failures_eq count fun entry member => ?_
    rw [entered] at member
    obtain ⟨stint, _, own⟩ := List.mem_flatMap.mp member
    obtain ⟨emission, _, rfl⟩ := List.mem_map.mp own
    exact fun event told => emission.isFailure_of_mem_told told

/-- Two runs of a session: first a callback that cannot use its packets, while another listener
takes over, then a queue with one place. -/
theorem balances_after_two_runs :
    let text := "\x7b\"output_streams\":\x7b\"seen\":\"presence\",\"lost\":\"presence\"\x7d," ++
      "\"frames\":[\x7b\"emit\":[" ++
        "\x7b\"stream\":\"seen\",\"value\":\x7b\"presence\":true\x7d\x7d," ++
        "\x7b\"stream\":\"lost\",\"value\":\x7b\"error\":\"gone\"\x7d\x7d]\x7d]\x7d"
    let fed (micros : Int) : Action := .feedAt ⟨.clamp micros, .black⟩
    let first : List Action := [.listenForErrors 1, .configure (.text text),
      .bindCallback { output := "seen" } 5, .start, fed 3, fed 3, .listenForErrors 2, fed 8, .stop]
    let second : List Action :=
      [.configure (.text text), .pollStream "seen", .start, fed 1, .stop]
    let session := opened .detection [] { pollerCapacity := some 1 }
    session.drainsThrough (first ++ second) = true ∧
      (session.after (first ++ second)).outlets.metrics.runtimeErrors = 5 ∧
      session.Balances (first ++ second) := by
  intro text fed first second session
  have drains : session.drainsThrough (first ++ second) = true := by decide +kernel
  refine ⟨drains, by decide +kernel, ?_⟩
  exact balances_of_drained .detection [] { pollerCapacity := some 1 } (first ++ second) drains

/-- Runs with unbounded queues have drained whenever the session rests. -/
theorem Settled.drainsThrough (settled : session.Settled) (coupled : session.Coupled)
    (unbounded : session.config.pollerCapacity = none) {actions : List Action}
    (rests : (session.after actions).state ≠ .running) : session.drainsThrough actions = true := by
  have nothing {session : Session SessionEngine} (settled : session.Settled)
      (coupled : session.Coupled) (unbounded : session.config.pollerCapacity = none)
      (resting : session.state ≠ .running) : session.engine.owed.isEmpty = true := by
    have idle : session.engine.worker = none := settled.idle coupled resting unbounded
    rw [ScriptedEngine.owed, idle]
    rfl
  induction actions generalizing session with
  | nil => exact nothing settled coupled unbounded rests
  | cons action rest ih =>
      have step := session.perform_step action
      have later := ih (settled.step coupled step) (coupled.step step)
        (step.config ▸ unbounded) rests
      simp only [Session.drainsThrough, later, Bool.and_true]
      split
      · rename_i began
        have configured : session.state = .configured := by
          cases started : session.start with
          | mk result begun =>
              rw [perform, started] at began
              cases result with
              | error error => contradiction
              | ok done => exact (exists_of_start started).1
        exact nothing settled coupled unbounded (by simp [configured])
      · rfl

end Session

end FrameFlow
