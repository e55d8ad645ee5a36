import FrameFlow.Proofs.Session.Bindings
import FrameFlow.Proofs.Text.ByteOrder
import Mathlib.Data.List.Nodup

/-!
A binding table against the calls it answered. A stream is bound to what was bound to it
last, it keeps one mode until the table is cleared, and of all the pollers that a table ever
handed out the latest one of each stream is connected.
-/

namespace FrameFlow

theorem Binding.channel?_of_isCallback {binding : Binding}
    (isCallback : binding.mode = .callback) : binding.channel? = none := by
  cases binding with
  | poller channel => contradiction
  | _ => rfl

namespace BindingTable

/-- What the packets of a stream are handed to when nobody polls them. -/
structure Handler where
  binding : Binding
  isCallback : binding.mode = .callback

inductive Request where
  | bindCallback (stream : String) (handler : Handler)
  | bindPoller (stream : String)
  | bindGated (payload presence : String)
  | clear

inductive Reply where
  | done
  | poller (poller : Poller)
  | gated (poller : GatedPoller)
  | refused (error : SessionError)

/-- The mode that a stream is bound in already, when another one is requested. -/
def clash? (table : BindingTable) (stream : String) (requested : BindingMode) :
    Option SessionError :=
  match table.mode? stream with
  | some existing =>
      if existing = requested then none else some (.dualBinding stream existing requested)
  | none => none

namespace Request

/-- The streams to be bound, each with the mode it has to have. -/
def named : Request → List (String × BindingMode)
  | .bindCallback stream _ => [(stream, .callback)]
  | .bindPoller stream => [(stream, .poller)]
  | .bindGated payload presence => [(payload, .poller), (presence, .poller)]
  | .clear => []

/-- What is wrong with the first named stream that is bound in the other mode. -/
def conflict? (request : Request) (table : BindingTable) : Option SessionError :=
  request.named.findSome? fun (stream, requested) => table.clash? stream requested

def isClear : Request → Bool
  | .clear => true
  | _ => false

/-- A reply that grants what was asked for. -/
def IsGrantedBy : Request → Reply → Prop
  | .bindCallback _ _, reply => reply = .done
  | .bindPoller stream, reply => ∃ poller, reply = .poller poller ∧ poller.stream = stream
  | .bindGated payload presence, reply => ∃ pair, reply = .gated pair ∧
      pair.payload.stream = payload ∧ pair.presence.stream = presence
  | .clear, reply => reply = .done

theorem isClear_of_conflict? {request : Request} {table : BindingTable} {error : SessionError}
    (conflict : request.conflict? table = some error) : request.isClear = false := by
  cases request with
  | clear => contradiction
  | _ => rfl

end Request

namespace Reply

/-- The pollers that a reply hands out, in the order in which they were made. -/
def pollers : Reply → List Poller
  | .poller single => [single]
  | .gated pair => [pair.payload, pair.presence]
  | _ => []

def gatedPollers : Reply → List GatedPoller
  | .gated pair => [pair]
  | _ => []

end Reply

abbrev History := List (Request × Reply)

namespace History

def sinceClear (history : History) : History :=
  (history.reverse.takeWhile fun exchange => !exchange.1.isClear).reverse

/-- What a successful request bound its streams to. -/
def written : Request × Reply → List (String × Binding)
  | (.bindCallback stream handler, .done) => [(stream, handler.binding)]
  | (.bindPoller stream, .poller poller) => [(stream, .poller poller.channel)]
  | (.bindGated payload presence, .gated poller) =>
      [(payload, .poller poller.payload.channel), (presence, .poller poller.presence.channel)]
  | _ => []

/-- What a request that was not refused asked for. -/
def accepted : Request × Reply → List (String × BindingMode)
  | (_, .refused _) => []
  | (request, _) => request.named

def binds (history : History) : List (String × BindingMode) :=
  history.sinceClear.flatMap accepted

def writes (history : History) : List (String × Binding) := history.sinceClear.flatMap written

def inserted (history : History) : List Poller :=
  history.sinceClear.flatMap fun exchange => exchange.2.pollers

def handedOut (history : History) : List Poller :=
  history.flatMap fun exchange => exchange.2.pollers

def gatedHandedOut (history : History) : List GatedPoller :=
  history.flatMap fun exchange => exchange.2.gatedPollers

variable {history : History} {request : Request} {reply : Reply}

theorem sinceClear_concat (kept : request.isClear = false) :
    sinceClear (history ++ [(request, reply)]) = history.sinceClear ++ [(request, reply)] := by
  simp [sinceClear, kept]

theorem sinceClear_clear : sinceClear (history ++ [(.clear, reply)]) = [] := by
  simp [sinceClear, Request.isClear]

theorem writes_concat (kept : request.isClear = false) :
    writes (history ++ [(request, reply)]) = history.writes ++ written (request, reply) := by
  simp [writes, sinceClear_concat kept]

theorem inserted_concat (kept : request.isClear = false) :
    inserted (history ++ [(request, reply)]) = history.inserted ++ reply.pollers := by
  simp [inserted, sinceClear_concat kept]

theorem writes_clear : writes (history ++ [(.clear, reply)]) = [] := by
  simp [writes, sinceClear_clear]

theorem inserted_clear : inserted (history ++ [(.clear, reply)]) = [] := by
  simp [inserted, sinceClear_clear]

end History

def lastOn (writes : List (String × Binding)) (stream : String) : Option Binding :=
  (writes.reverse.find? (·.1 == stream)).map (·.2)

def latestOn (pollers : List Poller) (stream : String) : Option Poller :=
  pollers.reverse.find? (·.stream == stream)

theorem lastOn_concat (writes : List (String × Binding)) (name stream : String)
    (binding : Binding) :
    lastOn (writes ++ [(name, binding)]) stream =
      if stream = name then some binding else lastOn writes stream := by
  by_cases same : stream = name
  · simp [lastOn, same]
  · simp [lastOn, same, Ne.symm same]

theorem latestOn_concat (pollers : List Poller) (poller : Poller) (stream : String) :
    latestOn (pollers ++ [poller]) stream =
      if stream = poller.stream then some poller else latestOn pollers stream := by
  by_cases same : stream = poller.stream
  · simp [latestOn, same]
  · simp [latestOn, same, Ne.symm same]

theorem mem_of_latestOn {pollers : List Poller} {stream : String} {poller : Poller}
    (latest : latestOn pollers stream = some poller) : poller ∈ pollers :=
  List.mem_reverse.mp (List.mem_of_find?_eq_some latest)

/-- A binding table, with the outlets that its pollers read. -/
structure Switchboard where
  table : BindingTable
  outlets : Outlets

namespace Switchboard

def bind (board : Switchboard) (stream : String) (binding : Binding) : Switchboard :=
  { board with
    table := { board.table with bindings := board.table.bindings.insert stream binding } }

def addPoller (board : Switchboard) (stream : String) : Switchboard :=
  { board.bind stream (.poller board.outlets.channels.length) with
    outlets := (board.outlets.addChannel board.table.capacity).2 }

/-- The poller that is made next. -/
def nextPoller (board : Switchboard) (stream : String) : Poller :=
  ⟨stream, board.outlets.channels.length⟩

def perform (board : Switchboard) : Request → Reply × Switchboard
  | .bindCallback stream handler =>
      match board.table.bindCallback stream handler.binding with
      | .error error => (.refused error, board)
      | .ok table => (.done, { board with table })
  | .bindPoller stream =>
      match board.table.bindPoller stream board.outlets with
      | .error error => (.refused error, board)
      | .ok (poller, table, outlets) => (.poller poller, { table, outlets })
  | .bindGated payload presence =>
      match board.table.bindGated payload presence board.outlets with
      | .error error => (.refused error, board)
      | .ok (poller, table, outlets) => (.gated poller, { table, outlets })
  | .clear => (.done, { board with table := board.table.clear })

def after (board : Switchboard) : List Request → Switchboard
  | [] => board
  | request :: rest => (board.perform request).2.after rest

def history (board : Switchboard) : List Request → History
  | [] => []
  | request :: rest =>
      (request, (board.perform request).1) :: (board.perform request).2.history rest

/-- All that a request can do. -/
inductive Step (board : Switchboard) : Request → Reply → Switchboard → Prop where
  | refused {request error} (conflict : request.conflict? board.table = some error) :
      Step board request (.refused error) board
  | cleared : Step board .clear .done { board with table := board.table.clear }
  | handled {stream handler} (free : (Request.bindCallback stream handler).conflict? board.table
      = none) :
      Step board (.bindCallback stream handler) .done (board.bind stream handler.binding)
  | polled {stream} (free : (Request.bindPoller stream).conflict? board.table = none) :
      Step board (.bindPoller stream) (.poller (board.nextPoller stream)) (board.addPoller stream)
  | gated {payload presence}
      (free : (Request.bindGated payload presence).conflict? board.table = none) :
      Step board (.bindGated payload presence)
        (.gated ⟨board.nextPoller payload, (board.addPoller payload).nextPoller presence, none⟩)
        ((board.addPoller payload).addPoller presence)

variable {board next : Switchboard} {request : Request} {reply : Reply} {history : History}

theorem check_eq (table : BindingTable) (stream : String) (requested : BindingMode) :
    table.check stream requested =
      match table.clash? stream requested with
      | some error => .error error
      | none => .ok () := by
  unfold BindingTable.check clash?
  cases table.mode? stream with
  | none => rfl
  | some existing => by_cases same : existing = requested <;> simp [same]

theorem perform_step (board : Switchboard) (request : Request) :
    board.Step request (board.perform request).1 (board.perform request).2 := by
  cases request with
  | bindCallback stream handler =>
      rw [perform, BindingTable.bindCallback, check_eq]
      cases clash : board.table.clash? stream .callback with
      | some error => exact .refused (by simp [Request.conflict?, Request.named, clash])
      | none => exact .handled (by simp [Request.conflict?, Request.named, clash])
  | bindPoller stream =>
      rw [perform, BindingTable.bindPoller, check_eq]
      cases clash : board.table.clash? stream .poller with
      | some error => exact .refused (by simp [Request.conflict?, Request.named, clash])
      | none => exact .polled (by simp [Request.conflict?, Request.named, clash])
  | bindGated payload presence =>
      rw [perform, BindingTable.bindGated, check_eq, check_eq]
      cases first : board.table.clash? payload .poller with
      | some error => exact .refused (by simp [Request.conflict?, Request.named, first])
      | none =>
          cases second : board.table.clash? presence .poller with
          | some error => exact .refused (by simp [Request.conflict?, Request.named, first, second])
          | none => exact .gated (by simp [Request.conflict?, Request.named, first, second])
  | clear => exact .cleared

/-- The pollers and bindings that a board owes to the requests it has answered. -/
structure Tracks (board : Switchboard) (writes : List (String × Binding))
    (inserted handedOut : List Poller) : Prop where
  last : ∀ stream, board.table.bindings.find? stream = lastOn writes stream
  latest : ∀ stream, latestOn inserted stream =
    ((board.table.bindings.find? stream).bind Binding.channel?).map (Poller.mk stream)
  uniform : ∀ write ∈ writes, board.table.mode? write.1 = some write.2.mode
  within : board.table.Within board.outlets.channels.length
  included : ∀ poller ∈ inserted, poller ∈ handedOut
  waiting : ∀ poller ∈ handedOut, ∃ queue,
    board.outlets.channels[poller.channel]? = some queue ∧ queue.packets = []
  apart : (handedOut.map Poller.channel).Nodup

variable {writes : List (String × Binding)} {inserted handedOut : List Poller}
  {stream : String} {binding : Binding} {mode : BindingMode}

theorem clash?_eq_none_iff {table : BindingTable} :
    table.clash? stream mode = none ↔
      ∀ existing, table.mode? stream = some existing → existing = mode := by
  unfold clash?
  cases table.mode? stream with
  | none => simp
  | some existing => by_cases same : existing = mode <;> simp [same]

theorem mode?_bind (board : Switchboard) (stream : String) (binding : Binding) (name : String) :
    (board.bind stream binding).table.mode? name =
      if name = stream then some binding.mode else board.table.mode? name := by
  rw [BindingTable.mode?, Switchboard.bind, StreamMap.find?_insert]
  split <;> rfl

/-- A stream that is free for a binding does not change its mode by it. -/
theorem Tracks.uniform_bind (tracks : board.Tracks writes inserted handedOut)
    (free : board.table.clash? stream binding.mode = none) :
    ∀ write ∈ writes ++ [(stream, binding)],
      (board.bind stream binding).table.mode? write.1 = some write.2.mode := by
  intro write member
  rw [mode?_bind]
  rcases List.mem_append.mp member with earlier | new
  · have before := tracks.uniform write earlier
    by_cases same : write.1 = stream
    · rw [same] at before
      rw [if_pos same, clash?_eq_none_iff.mp free _ before]
    · rw [if_neg same, before]
  · cases List.mem_singleton.mp new
    exact if_pos rfl

theorem Tracks.last_bind (tracks : board.Tracks writes inserted handedOut) (stream : String)
    (binding : Binding) (name : String) :
    (board.bind stream binding).table.bindings.find? name =
      lastOn (writes ++ [(stream, binding)]) name := by
  rw [lastOn_concat, Switchboard.bind, StreamMap.find?_insert, tracks.last]

theorem Tracks.clear (tracks : board.Tracks writes inserted handedOut) :
    Tracks { board with table := board.table.clear } [] [] handedOut where
  last _ := rfl
  latest _ := rfl
  uniform _ member := absurd member List.not_mem_nil
  within := within_of_empty rfl
  included _ member := absurd member List.not_mem_nil
  waiting := tracks.waiting
  apart := tracks.apart

theorem Tracks.bind (tracks : board.Tracks writes inserted handedOut)
    (isCallback : binding.mode = .callback)
    (free : board.table.clash? stream .callback = none) :
    (board.bind stream binding).Tracks (writes ++ [(stream, binding)]) inserted handedOut := by
  have unqueued := Binding.channel?_of_isCallback isCallback
  refine { tracks with
    last := tracks.last_bind stream binding
    latest := fun name => ?_
    uniform := tracks.uniform_bind (isCallback ▸ free)
    within := ?_ }
  · rw [Switchboard.bind, StreamMap.find?_insert, tracks.latest]
    by_cases same : name = stream
    · -- A stream that a poller is bound to is not free for a callback.
      subst same
      rw [if_pos rfl]
      cases found : board.table.bindings.find? name with
      | none => simp [unqueued]
      | some old =>
          have called := clash?_eq_none_iff.mp free old.mode (by simp [BindingTable.mode?, found])
          simp [unqueued, Binding.channel?_of_isCallback called]
    · rw [if_neg same]
  · intro name channel found
    rw [Switchboard.bind, StreamMap.find?_insert] at found
    split at found
    · cases found
      contradiction
    · exact tracks.within name channel found

theorem Tracks.addPoller (tracks : board.Tracks writes inserted handedOut)
    (free : board.table.clash? stream .poller = none) :
    (board.addPoller stream).Tracks
      (writes ++ [(stream, .poller (board.nextPoller stream).channel)])
      (inserted ++ [board.nextPoller stream]) (handedOut ++ [board.nextPoller stream]) where
  last := tracks.last_bind stream _
  latest name := by
    rw [latestOn_concat, tracks.latest, Switchboard.addPoller, Switchboard.bind,
      StreamMap.find?_insert]
    by_cases same : name = stream
    · subst same
      simp [nextPoller, Binding.channel?]
    · simp [nextPoller, same]
  uniform := tracks.uniform_bind free
  within := tracks.within.insertPoller stream
  included poller member := by
    rcases List.mem_append.mp member with earlier | new
    · exact List.mem_append_left _ (tracks.included poller earlier)
    · exact List.mem_append_right _ new
  waiting poller member := by
    rcases List.mem_append.mp member with earlier | new
    · obtain ⟨queue, found, empty⟩ := tracks.waiting poller earlier
      have inside := (List.getElem?_eq_some_iff.mp found).1
      exact ⟨queue, (List.getElem?_append_left inside).trans found, empty⟩
    · cases List.mem_singleton.mp new
      exact ⟨.ofCapacity board.table.capacity, by
        simp [Switchboard.addPoller, Outlets.addChannel, nextPoller], rfl⟩
  apart := by
    rw [List.map_append, List.nodup_append]
    refine ⟨tracks.apart, by simp, ?_⟩
    rintro channel old _ new rfl
    obtain ⟨poller, member, rfl⟩ := List.mem_map.mp old
    obtain ⟨queue, found, _⟩ := tracks.waiting poller member
    have inside := (List.getElem?_eq_some_iff.mp found).1
    -- The new queue comes after all the queues that there are.
    exact Nat.ne_of_lt inside (List.mem_singleton.mp new)

theorem clash?_addPoller (free : board.table.clash? stream .poller = none) (other : String) :
    (board.addPoller other).table.clash? stream .poller = none := by
  refine clash?_eq_none_iff.mpr fun existing found => ?_
  rw [Switchboard.addPoller, mode?_bind] at found
  split at found
  · exact (Option.some.inj found).symm
  · exact clash?_eq_none_iff.mp free existing found

/-- What is owed after a request was answered. -/
theorem Tracks.step (tracks : board.Tracks history.writes history.inserted history.handedOut)
    (step : board.Step request reply next) :
    let longer : History := history ++ [(request, reply)]
    next.Tracks longer.writes longer.inserted longer.handedOut := by
  intro longer
  have handed : longer.handedOut = history.handedOut ++ reply.pollers := by
    simp [longer, History.handedOut]
  rw [handed]
  cases step with
  | cleared =>
      rw [History.writes_clear, History.inserted_clear]
      simpa [Reply.pollers] using tracks.clear
  | refused conflict =>
      have kept := Request.isClear_of_conflict? conflict
      rw [History.writes_concat kept, History.inserted_concat kept]
      simpa [History.written, Reply.pollers] using tracks
  | handled free =>
      rw [History.writes_concat rfl, History.inserted_concat rfl]
      simpa [History.written, Reply.pollers] using
        tracks.bind (Handler.isCallback _) (by simpa [Request.conflict?, Request.named] using free)
  | polled free =>
      rw [History.writes_concat rfl, History.inserted_concat rfl]
      exact tracks.addPoller (by simpa [Request.conflict?, Request.named] using free)
  | gated free =>
      obtain ⟨first, second⟩ : board.table.clash? _ .poller = none ∧
          board.table.clash? _ .poller = none := by
        simpa [Request.conflict?, Request.named] using free
      have next := (tracks.addPoller first).addPoller (clash?_addPoller second _)
      rw [History.writes_concat rfl, History.inserted_concat rfl]
      simpa [History.written, Reply.pollers] using next

theorem Step.accepted_eq (step : board.Step request reply next) :
    History.accepted (request, reply) =
      (History.written (request, reply)).map fun write => (write.1, write.2.mode) := by
  cases step with
  | refused conflict => simp [History.accepted, History.written]
  | handled free => simp [History.accepted, History.written, Request.named, Handler.isCallback]
  | _ => rfl

theorem Step.pair_mem (step : board.Step request reply next) {pair : GatedPoller}
    (member : pair ∈ reply.gatedPollers) :
    pair.presence ∈ reply.pollers ∧ pair.pending = none := by
  cases step with
  | gated free =>
      cases List.mem_singleton.mp member
      exact ⟨List.mem_cons_of_mem _ List.mem_cons_self, rfl⟩
  | _ => exact absurd member List.not_mem_nil

/-- A board and the requests it has answered. -/
structure Answers (board : Switchboard) (history : History) : Prop where
  tracks : board.Tracks history.writes history.inserted history.handedOut
  faithful : ∀ exchange ∈ history, History.accepted exchange =
    (History.written exchange).map fun write => (write.1, write.2.mode)
  paired : ∀ pair ∈ history.gatedHandedOut,
    pair.presence ∈ history.handedOut ∧ pair.pending = none

theorem Answers.perform (answers : board.Answers history) (request : Request) :
    (board.perform request).2.Answers (history ++ [(request, (board.perform request).1)]) := by
  have step := board.perform_step request
  refine ⟨answers.tracks.step step, fun exchange member => ?_, fun pair member => ?_⟩
  · rcases List.mem_append.mp member with earlier | new
    · exact answers.faithful exchange earlier
    · cases List.mem_singleton.mp new
      exact step.accepted_eq
  · rw [History.gatedHandedOut, List.flatMap_append] at member
    rw [History.handedOut, List.flatMap_append]
    rcases List.mem_append.mp member with earlier | new
    · obtain ⟨handed, clear⟩ := answers.paired pair earlier
      exact ⟨List.mem_append_left _ handed, clear⟩
    · rw [List.flatMap_singleton] at new ⊢
      obtain ⟨handed, clear⟩ := step.pair_mem new
      exact ⟨List.mem_append_right _ handed, clear⟩

theorem Answers.after (answers : board.Answers history) (requests : List Request) :
    (board.after requests).Answers (history ++ board.history requests) := by
  induction requests generalizing board history with
  | nil =>
      rw [Switchboard.history, List.append_nil]
      exact answers
  | cons request rest ih =>
      have next := ih (answers.perform request)
      rwa [List.append_assoc] at next

theorem answers_nil (capacity : Option Nat) (outlets : Outlets) :
    Answers ⟨{ capacity }, outlets⟩ [] where
  tracks :=
    { last := fun _ => rfl
      latest := fun _ => rfl
      uniform := fun _ member => absurd member List.not_mem_nil
      within := within_of_empty rfl
      included := fun _ member => absurd member List.not_mem_nil
      waiting := fun _ member => absurd member List.not_mem_nil
      apart := .nil }
  faithful _ member := absurd member List.not_mem_nil
  paired _ member := absurd member List.not_mem_nil

theorem Answers.binds_eq (answers : board.Answers history) :
    history.binds = history.writes.map fun write => (write.1, write.2.mode) := by
  have since : ∀ exchange ∈ history.sinceClear, exchange ∈ history := fun exchange member =>
    List.mem_reverse.mp ((List.takeWhile_sublist _).mem (List.mem_reverse.mp member))
  rw [History.binds, History.writes, List.map_flatMap]
  exact List.flatMap_congr fun exchange member => answers.faithful exchange (since _ member)

theorem mem_lastOn {found : Binding} (last : lastOn writes stream = some found) :
    (stream, found) ∈ writes := by
  obtain ⟨write, known, same⟩ := Option.map_eq_some_iff.mp last
  have named : write.1 = stream := by simpa using List.find?_some known
  rw [← named, ← same]
  exact List.mem_reverse.mp (List.mem_of_find?_eq_some known)

theorem Answers.mode_iff (answers : board.Answers history) (stream : String)
    (mode : BindingMode) :
    board.table.mode? stream = some mode ↔ (stream, mode) ∈ history.binds := by
  rw [answers.binds_eq, List.mem_map]
  constructor
  · intro found
    obtain ⟨binding, known, rfl⟩ := Option.map_eq_some_iff.mp found
    exact ⟨(stream, binding), mem_lastOn ((answers.tracks.last stream).symm.trans known), rfl⟩
  · rintro ⟨write, member, same⟩
    cases same
    exact answers.tracks.uniform write member

/-- A board holds the latest poller of each stream and no other. -/
theorem Tracks.connected_iff (tracks : board.Tracks writes inserted handedOut)
    {poller : Poller} (member : poller ∈ handedOut) :
    board.table.holds poller.channel = true ↔
      latestOn inserted poller.stream = some poller := by
  rw [holds_iff]
  constructor
  · rintro ⟨stream, found⟩
    have latest : latestOn inserted stream = some ⟨stream, poller.channel⟩ := by
      rw [tracks.latest, found]
      rfl
    have other := tracks.included _ (mem_of_latestOn latest)
    -- No two pollers share a queue, so this one is the latest on its own stream.
    have same := List.inj_on_of_nodup_map tracks.apart other member rfl
    rw [← same]
    exact latest
  · intro latest
    refine ⟨poller.stream, ?_⟩
    rw [tracks.latest] at latest
    obtain ⟨channel, known, same⟩ := Option.map_eq_some_iff.mp latest
    obtain ⟨binding, found, queued⟩ := Option.bind_eq_some_iff.mp known
    rw [found, ← same]
    cases binding <;> simp_all [Binding.channel?]

theorem Step.refused_iff (step : board.Step request reply next) (error : SessionError) :
    reply = .refused error ↔ request.conflict? board.table = some error := by
  cases step with
  | refused conflict =>
      rw [conflict]
      exact ⟨fun same => congrArg some (Reply.refused.inj same),
        fun same => congrArg Reply.refused (Option.some.inj same)⟩
  | cleared => exact ⟨fun same => (nomatch same), fun conflict => (nomatch conflict)⟩
  | handled free | polled free | gated free =>
      rw [free]
      exact ⟨fun same => (nomatch same), fun conflict => (nomatch conflict)⟩

theorem Step.isGrantedBy (step : board.Step request reply next)
    (free : request.conflict? board.table = none) : request.IsGrantedBy reply := by
  cases step with
  | refused conflict => exact absurd (conflict.symm.trans free) (by simp)
  | cleared => exact rfl
  | handled free => exact rfl
  | polled free => exact ⟨_, rfl, rfl⟩
  | gated free => exact ⟨_, rfl, rfl, rfl⟩

theorem Step.untouched (step : board.Step request reply next) {error : SessionError}
    (refused : reply = .refused error) : next = board := by
  cases step with
  | refused conflict => rfl
  | _ => contradiction

theorem Tracks.poll_eq (tracks : board.Tracks writes inserted handedOut) {poller : Poller}
    (member : poller ∈ handedOut) (isOpen : ChannelId → Bool) :
    (poller.poll isOpen board.outlets).1 = if isOpen poller.channel then .empty else .closed := by
  obtain ⟨queue, found, empty⟩ := tracks.waiting poller member
  have nothing : board.outlets.inbox isOpen poller.channel = ⟨[], isOpen poller.channel⟩ := by
    rw [Outlets.inbox, found, ← empty]
    rfl
  rw [Poller.poll, nothing]
  rfl

theorem Tracks.pollPair_eq (tracks : board.Tracks writes inserted handedOut)
    {pair : GatedPoller} (member : pair.presence ∈ handedOut) (settled : pair.pending = none)
    (isOpen : ChannelId → Bool) :
    (pair.poll isOpen board.outlets).1 =
      .ok (if isOpen pair.presence.channel then .empty else .closed) := by
  obtain ⟨queue, found, empty⟩ := tracks.waiting _ member
  have nothing : board.outlets.inbox isOpen pair.presence.channel =
      ⟨[], isOpen pair.presence.channel⟩ := by
    rw [Outlets.inbox, found, ← empty]
    rfl
  rw [GatedPoller.poll, GatedPoller.gate, settled, nothing]
  cases isOpen pair.presence.channel <;> rfl

/-- The rules of a binding table, of which `history` is all that it was asked and answered. -/
structure LastWriterWins (board : Switchboard) (history : History) : Prop where
  last : ∀ stream, board.table.bindings.find? stream = lastOn history.writes stream
  mode : ∀ stream mode, board.table.mode? stream = some mode ↔ (stream, mode) ∈ history.binds
  refused : ∀ request error, (board.perform request).1 = .refused error ↔
    request.conflict? board.table = some error
  untouched : ∀ request error, (board.perform request).1 = .refused error →
    (board.perform request).2 = board
  granted : ∀ request : Request, request.conflict? board.table = none →
    request.IsGrantedBy (board.perform request).1
  sorted : board.table.streams.Pairwise fun one other => Text.bytes one < Text.bytes other
  bound : ∀ stream, stream ∈ board.table.streams ↔ ∃ mode, (stream, mode) ∈ history.binds
  size : board.table.size = board.table.streams.length
  apart : (history.handedOut.map Poller.channel).Nodup
  connected : ∀ poller ∈ history.handedOut, board.table.holds poller.channel = true ↔
    latestOn history.inserted poller.stream = some poller
  polled : ∀ poller ∈ history.handedOut, (poller.poll board.table.holds board.outlets).1 =
    if latestOn history.inserted poller.stream = some poller then .empty else .closed
  pairPolled : ∀ pair ∈ history.gatedHandedOut,
    (pair.poll board.table.holds board.outlets).1 =
      .ok (if latestOn history.inserted pair.presence.stream = some pair.presence then .empty
        else .closed)

theorem lastWriterWins_after (capacity : Option Nat) (outlets : Outlets)
    (requests : List Request) :
    let board : Switchboard := ⟨{ capacity }, outlets⟩
    (board.after requests).LastWriterWins (board.history requests) := by
  intro board
  have answers : (board.after requests).Answers (board.history requests) :=
    (answers_nil capacity outlets).after requests
  have tracks := answers.tracks
  exact
    { last := tracks.last
      mode := answers.mode_iff
      refused := fun request => (perform_step _ request).refused_iff
      untouched := fun request _ => (perform_step _ request).untouched
      granted := fun request => (perform_step _ request).isGrantedBy
      sorted := List.pairwise_map.mpr
        ((board.after requests).table.bindings.sorted.imp Text.bytes_lt_bytes)
      bound := fun stream => by
        rw [BindingTable.streams, StreamMap.mem_names_iff, ← Option.isSome_map,
          Option.isSome_iff_exists]
        exact exists_congr fun mode => answers.mode_iff stream mode
      size := (List.length_map _).symm
      apart := tracks.apart
      connected := fun poller => tracks.connected_iff
      polled := fun poller member => by
        simp only [tracks.poll_eq member, tracks.connected_iff member]
      pairPolled := fun pair member => by
        obtain ⟨handed, settled⟩ := answers.paired pair member
        simp only [tracks.pollPair_eq handed settled, tracks.connected_iff handed] }

/-- A pair on one stream is cut off from its own payloads. -/
example :
    let board : Switchboard := ⟨{}, {}⟩
    let requests : List Request := [.bindPoller "mask", .bindGated "mask" "mask"]
    (board.history requests).handedOut.map
      (fun poller => (board.after requests).table.holds poller.channel) =
        [false, false, true] := by
  decide

end Switchboard

end BindingTable

end FrameFlow
