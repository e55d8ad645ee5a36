import FrameFlow.Proofs.Engine.Delivery
import Mathlib.Logic.Relation

/-!
A run whose caller and whose worker are threads. The worker takes frames out of a bounded
queue, looks at the flag that a cancelling caller raises, and works a frame off one emission
at a time; the caller goes on at any moment in between. Whatever the order of their steps,
what is delivered is what the script has for whole frames, up to the one in work.
-/

namespace FrameFlow

/-- The ways in which a caller has a run end. -/
inductive Ending where
  | awaited
  | cancelled
  | dropped
deriving DecidableEq

/-- Where a caller is: between two calls, or in a call that may have to wait. -/
inductive Caller where
  | free
  | sending (stream : String) (input : StampedFrame)
  | cancelling
  | joining (ending : Ending)
  | returned (ending : Ending)

def Caller.waits : Caller → Bool
  | .free | .returned _ => false
  | .sending .. | .cancelling | .joining _ => true

/-- The two threads of a run, with a record of the frames accepted, of those that the worker
has begun, and of what was delivered. -/
structure Threads (η φ : Type) where
  engine : ScriptedEngine η φ
  caller : Caller := .free
  /-- The frame that the worker took and did not begin yet. -/
  held : Option StampedFrame := none
  flag : Bool := false
  frames : List StampedFrame := []
  begun : List StampedFrame := []
  history : List (Occurrence η φ) := []

namespace Threads

variable {η φ : Type}

/-- What a caller does next. A frame is checked first, and waits for a place in the queue
then. The flag is raised before the sending end of the queue goes, and both before the caller
waits for the worker. -/
inductive CallerStep (depth : Nat) : Threads η φ → Threads η φ → Prop
  | called {threads call after} :
      threads.caller.waits = false → call.frames = [] →
      threads.engine.perform call = .ok after →
      after.isRunning = threads.engine.isRunning →
      CallerStep depth threads { threads with engine := after }
  | sinkReplaced {threads} (sink : φ) :
      threads.caller.waits = false →
      CallerStep depth threads { threads with engine := threads.engine.setSink sink }
  | sends {threads stream input after} :
      threads.caller = .free → threads.engine.addPacket stream input = .ok after →
      CallerStep depth threads { threads with caller := .sending stream input }
  | sent {threads stream input worker after} :
      threads.caller = .sending stream input → threads.engine.worker = some worker →
      worker.waiting.length < max 1 depth →
      threads.engine.addPacket stream input = .ok after →
      CallerStep depth threads
        { threads with engine := after, caller := .free, frames := threads.frames ++ [input] }
  | awaits {threads after} :
      threads.caller = .free → threads.engine.waitUntilDone = .ok after →
      CallerStep depth threads { threads with engine := after, caller := .joining .awaited }
  | raises {threads} :
      threads.caller = .free →
      CallerStep depth threads { threads with flag := true, caller := .cancelling }
  | cancels {threads} :
      threads.caller = .cancelling →
      CallerStep depth threads
        { threads with engine.run := none, caller := .joining .cancelled }
  | drops {threads} :
      threads.caller = .free →
      CallerStep depth threads
        { threads with engine := threads.engine.close, caller := .joining .dropped }
  | returns {threads ending} :
      threads.caller = .joining ending → threads.engine.worker = none →
      CallerStep depth threads { threads with caller := .returned ending }

/-- What a worker does next. It looks at the flag once for each frame, after it took it. -/
inductive WorkerStep (answers : Answers η φ) : Threads η φ → Threads η φ → Prop
  | takes {threads worker input rest} :
      threads.engine.worker = some worker → threads.held = none → worker.current = [] →
      worker.waiting = input :: rest →
      WorkerStep answers threads
        { threads with
          engine.worker := some { worker with waiting := rest }, held := some input }
  | begins {threads worker input} :
      threads.engine.worker = some worker → threads.held = some input → threads.flag = false →
      WorkerStep answers threads
        { threads with
          engine.worker := some { worker with
            current := worker.graph.emissions worker.index input, index := worker.index + 1 }
          held := none
          begun := threads.begun ++ [input] }
  | abandons {threads worker input} :
      threads.engine.worker = some worker → threads.held = some input → threads.flag = true →
      WorkerStep answers threads { threads with engine.worker := none, held := none }
  | emits {threads worker emission rest history} :
      threads.engine.worker = some worker → worker.current = emission :: rest →
      answers.reaction.emit worker.observers worker.sink emission threads.history =
        some history →
      WorkerStep answers threads
        { threads with engine.worker := some { worker with current := rest }, history }
  | ends {threads worker} :
      threads.engine.worker = some worker → threads.held = none → worker.isIdle = true →
      threads.engine.isInputOpen = false →
      WorkerStep answers threads { threads with engine.worker := none }

def Step (answers : Answers η φ) (depth : Nat) (threads after : Threads η φ) : Prop :=
  CallerStep depth threads after ∨ WorkerStep answers threads after

def Reaches (answers : Answers η φ) (depth : Nat) : Threads η φ → Threads η φ → Prop :=
  Relation.ReflTransGen (Step answers depth)

/-- What is delivered of frames by an engine that works them off one after the other. -/
def reference (answers : Answers η φ) (idle : ScriptedEngine η φ) (graph : Graph)
    (frames : List StampedFrame) : List (Occurrence η φ) :=
  Delivery.afterFrames answers idle.observers idle.sink graph 0 frames []

/-- A worker that has begun these frames, and has the other ones ahead of it. -/
structure Plays (answers : Answers η φ) (idle : ScriptedEngine η φ) (graph : Graph)
    (depth : Nat) (threads : Threads η φ) (worker : Worker η φ) : Prop where
  script : worker.graph = graph
  observers : worker.observers = idle.observers
  sink : worker.sink = idle.sink
  index : worker.index = threads.begun.length
  frames : threads.begun ++ (threads.held.toList ++ worker.waiting) = threads.frames
  queued : worker.waiting.length ≤ max 1 depth
  between : threads.held.isSome = true → worker.current = []
  history : worker.current.foldl (answers.reaction.emitted idle.observers idle.sink)
    threads.history = reference answers idle graph threads.begun

/-- A worker that has ended: no frame is cut, and without the flag no frame is left out. -/
structure Played (answers : Answers η φ) (idle : ScriptedEngine η φ) (graph : Graph)
    (threads : Threads η φ) : Prop where
  held : threads.held = none
  frames : threads.begun <+: threads.frames
  history : threads.history = reference answers idle graph threads.begun
  all : threads.flag = false →
    threads.engine.isInputOpen = false ∧ threads.begun = threads.frames

/-- What a caller knows of the run in each of its places. -/
def Calls (threads : Threads η φ) : Prop :=
  match threads.caller with
  | .free => threads.engine.isRunning = true ∧ threads.flag = false
  | .sending stream input =>
      threads.engine.isRunning = true ∧ threads.flag = false ∧
        ∃ run, threads.engine.runOn stream = .ok run ∧ run.inputOpen = true ∧
          run.Precedes input.timestamp
  | .cancelling => threads.flag = true
  | .joining ending =>
      threads.engine.run = none ∧ (threads.flag = true ↔ ending = .cancelled)
  | .returned ending =>
      threads.engine.run = none ∧ threads.engine.worker = none ∧
        (threads.flag = true ↔ ending = .cancelled)

structure Sound (answers : Answers η φ) (idle : ScriptedEngine η φ) (graph : Graph)
    (depth : Nat) (threads : Threads η φ) : Prop where
  calls : threads.Calls
  plays : ∀ worker, threads.engine.worker = some worker →
    threads.Plays answers idle graph depth worker
  played : threads.engine.worker = none → threads.Played answers idle graph

/-- An upper bound for the steps that a worker has ahead of it. -/
def work (threads : Threads η φ) : Nat :=
  match threads.engine.worker with
  | none => 0
  | some worker =>
      1 + worker.current.length + threads.held.toList.length + 2 * worker.waiting.length +
        Worker.emissionTotal worker.graph worker.index
          (threads.held.toList ++ worker.waiting)

variable {answers : Answers η φ} {idle engine : ScriptedEngine η φ} {graph : Graph}
  {depth : Nat} {threads after : Threads η φ} {worker : Worker η φ}

theorem reference_append (begun : List StampedFrame) (input : StampedFrame) :
    reference answers idle graph (begun ++ [input]) =
      (graph.emissions begun.length input).foldl
        (answers.reaction.emitted idle.observers idle.sink)
        (reference answers idle graph begun) := by
  rw [reference, reference, Delivery.afterFrames_eq, Delivery.afterFrames_eq,
    Graph.emissionsFrom_append, List.foldl_append, Nat.zero_add]
  simp only [Graph.emissionsFrom, List.append_nil]

theorem prefix_foldl_emitted (observers : StreamMap η) (sink : Option φ)
    (emissions : List Emission) (history : List (Occurrence η φ)) :
    history <+: emissions.foldl (answers.reaction.emitted observers sink) history := by
  induction emissions generalizing history with
  | nil => exact List.prefix_rfl
  | cons emission rest ih =>
      refine List.IsPrefix.trans ?_ (ih _)
      cases emission with
      | fault fault => exact ⟨_, (Delivery.emitted_fault history fault).symm⟩
      | packet stream packet => exact ⟨_, (Delivery.emitted_packet history stream packet).symm⟩

theorem reference_grows {begun frames : List StampedFrame} (some : begun <+: frames) :
    reference answers idle graph begun <+: reference answers idle graph frames := by
  obtain ⟨later, rfl⟩ := some
  rw [reference, reference, Delivery.afterFrames_eq, Delivery.afterFrames_eq,
    Graph.emissionsFrom_append, List.foldl_append]
  exact prefix_foldl_emitted ..

theorem Sound.working (calls : threads.Calls) (found : threads.engine.worker = some worker)
    (plays : threads.Plays answers idle graph depth worker) :
    threads.Sound answers idle graph depth where
  calls := calls
  plays other known := by
    cases found.symm.trans known
    exact plays
  played ended := by
    rw [found] at ended
    contradiction

theorem Sound.ended (calls : threads.Calls) (gone : threads.engine.worker = none)
    (played : threads.Played answers idle graph) : threads.Sound answers idle graph depth where
  calls := calls
  plays other known := by
    rw [gone] at known
    contradiction
  played _ := played

theorem sound_of_start (loaded : idle.graph = some graph) (started : idle.start = .ok engine) :
    Sound answers idle graph depth { engine } := by
  obtain ⟨_, found, same, rfl⟩ := ScriptedEngine.start_eq_ok_iff.mp started
  cases loaded.symm.trans same
  exact .working ⟨rfl, rfl⟩ rfl ⟨rfl, rfl, rfl, rfl, rfl, Nat.zero_le _, fun _ => rfl, rfl⟩

/-- A worker leaves the calls of the engine, and the caller, alone. -/
theorem WorkerStep.frame (step : WorkerStep answers threads after) :
    (∃ worker, threads.engine.worker = some worker) ∧
      after.engine = { threads.engine with worker := after.engine.worker } ∧
      after.caller = threads.caller ∧ after.flag = threads.flag ∧
      after.frames = threads.frames := by
  cases step <;> exact ⟨⟨_, ‹_›⟩, rfl, rfl, rfl, rfl⟩

theorem Calls.worked (calls : threads.Calls) (step : WorkerStep answers threads after) :
    after.Calls := by
  obtain ⟨⟨worker, found⟩, engine, caller, flag, _⟩ := step.frame
  have run : after.engine.run = threads.engine.run := by rw [engine]
  have takes (stream) : after.engine.runOn stream = threads.engine.runOn stream := by
    rw [engine]
    rfl
  unfold Calls at *
  simp only [ScriptedEngine.isRunning, run, takes, flag, caller]
  cases place : threads.caller with
  | returned ending =>
      rw [place] at calls
      rw [found] at calls
      exact absurd calls.2.1 (Option.some_ne_none worker)
  | _ =>
      rw [place] at calls
      exact calls

theorem Plays.played (plays : threads.Plays answers idle graph depth worker)
    (rested : worker.current = []) (held : after.held = none)
    (begun : after.begun = threads.begun) (frames : after.frames = threads.frames)
    (history : after.history = threads.history)
    (all : after.flag = false →
      after.engine.isInputOpen = false ∧ after.begun = after.frames) :
    after.Played answers idle graph where
  held := held
  frames := by
    rw [begun, frames, ← plays.frames]
    exact List.prefix_append ..
  history := by
    rw [history, begun, ← plays.history, rested]
    rfl
  all := all

/-- One emission less is ahead of what was delivered, and one frame more is begun with all
that the script has for its place; nothing else is ever delivered. -/
theorem Sound.worked (sound : threads.Sound answers idle graph depth)
    (step : WorkerStep answers threads after) : after.Sound answers idle graph depth := by
  have calls := sound.calls.worked step
  cases step with
  | @takes worker input rest found empty rested waiting =>
      have plays := sound.plays worker found
      refine .working calls rfl ?_
      refine ⟨plays.script, plays.observers, plays.sink, plays.index, ?_, ?_, fun _ => rested,
        plays.history⟩
      · rw [← plays.frames, empty, waiting]
        rfl
      · have queued := plays.queued
        rw [waiting, List.length_cons] at queued
        exact Nat.le_of_succ_le queued
  | @begins worker input found held lowered =>
      have plays := sound.plays worker found
      refine .working calls rfl ?_
      refine ⟨plays.script, plays.observers, plays.sink, ?_, ?_, plays.queued,
        fun held => absurd held Bool.false_ne_true, ?_⟩
      · simp only [List.length_append, List.length_singleton, plays.index]
      · rw [← plays.frames, held]
        exact List.append_assoc ..
      · have rested := plays.history
        rw [plays.between (by rw [held]; rfl), List.foldl_nil] at rested
        rw [reference_append, ← rested, ← plays.index, ← plays.script]
  | @abandons worker input found held raised =>
      have plays := sound.plays worker found
      refine .ended calls rfl ?_
      exact plays.played (plays.between (by rw [held]; rfl)) rfl rfl rfl rfl
        fun lowered => absurd (raised.symm.trans lowered) (by decide)
  | @emits worker emission rest history found current emitted =>
      have plays := sound.plays worker found
      refine .working calls rfl ?_
      refine ⟨plays.script, plays.observers, plays.sink, plays.index, plays.frames,
        plays.queued, fun held => ?_, ?_⟩
      · rw [plays.between held] at current
        contradiction
      · rw [(Delivery.prompt answers).emit_eq, Option.some.injEq, plays.observers,
          plays.sink] at emitted
        rw [← plays.history, current, List.foldl_cons, emitted]
  | @ends worker found empty idled closed =>
      have plays := sound.plays worker found
      simp only [Worker.isIdle, Bool.and_eq_true, List.isEmpty_iff] at idled
      refine .ended calls rfl ?_
      refine plays.played idled.1 empty rfl rfl rfl fun _ => ⟨closed, ?_⟩
      have frames := plays.frames
      rw [empty, idled.2] at frames
      simpa using frames

theorem perform_silent {after : ScriptedEngine η φ} {call : Call η} (silent : call.frames = [])
    (performed : engine.perform call = .ok after) (running : after.isRunning = engine.isRunning) :
    after.worker = engine.worker ∧
      (engine.isInputOpen = false → after.isInputOpen = false) := by
  cases call with
  | load text =>
      obtain ⟨_, _, _, rfl⟩ := ScriptedEngine.load_eq_ok_iff.mp performed
      exact ⟨rfl, id⟩
  | observe stream observer =>
      obtain ⟨_, _, _, _, rfl⟩ := ScriptedEngine.observe_eq_ok_iff.mp performed
      exact ⟨rfl, id⟩
  | start =>
      obtain ⟨rested, _, _, rfl⟩ := ScriptedEngine.start_eq_ok_iff.mp performed
      simp [ScriptedEngine.isRunning, rested] at running
  | addPacket stream input => contradiction
  | closeInput stream =>
      obtain ⟨_, _, rfl⟩ := ScriptedEngine.closeInput_eq_ok_iff.mp performed
      exact ⟨rfl, fun _ => rfl⟩
  | waitUntilDone =>
      obtain ⟨_, rfl⟩ := ScriptedEngine.waitUntilDone_eq_ok_iff.mp performed
      exact ⟨rfl, fun _ => rfl⟩
  | cancel =>
      cases performed
      cases rested : engine.run with
      | none =>
          rw [ScriptedEngine.cancel, rested]
          exact ⟨rfl, id⟩
      | some run => simp [ScriptedEngine.isRunning, ScriptedEngine.cancel_run, rested] at running

theorem Sound.framed (sound : threads.Sound answers idle graph depth) (calls : after.Calls)
    (worker : after.engine.worker = threads.engine.worker)
    (same : after.held = threads.held ∧ after.frames = threads.frames ∧
      after.begun = threads.begun ∧ after.history = threads.history)
    (flag : after.flag = false → threads.flag = false)
    (closed : threads.engine.isInputOpen = false → after.engine.isInputOpen = false) :
    after.Sound answers idle graph depth := by
  obtain ⟨held, frames, begun, history⟩ := same
  refine ⟨calls, fun other found => ?_, fun ended => ?_⟩
  · have plays := sound.plays other (worker ▸ found)
    refine ⟨plays.script, plays.observers, plays.sink, ?_, ?_, plays.queued, ?_, ?_⟩
    · rw [begun, plays.index]
    · rw [begun, held, frames, plays.frames]
    · rw [held]
      exact plays.between
    · rw [history, begun, plays.history]
  · have played := sound.played (worker ▸ ended)
    refine ⟨held.trans played.held, ?_, ?_, fun lowered => ?_⟩
    · rw [begun, frames]
      exact played.frames
    · rw [history, begun, played.history]
    · obtain ⟨ended, all⟩ := played.all (flag lowered)
      exact ⟨closed ended, by rw [begun, frames, all]⟩

theorem Sound.called (sound : threads.Sound answers idle graph depth)
    (step : CallerStep depth threads after) : after.Sound answers idle graph depth := by
  have calls := sound.calls
  unfold Calls at calls
  cases step with
  | @called call engine resting silent performed running =>
      obtain ⟨worker, closed⟩ := perform_silent silent performed running
      refine sound.framed ?_ worker ⟨rfl, rfl, rfl, rfl⟩ id closed
      unfold Calls
      cases place : threads.caller with
      | free =>
          simp only [place] at calls ⊢
          exact ⟨running.trans calls.1, calls.2⟩
      | returned ending =>
          simp only [place] at calls ⊢
          have idled : engine.run = none := by
            simpa [ScriptedEngine.isRunning, calls.1] using running
          exact ⟨idled, worker.trans calls.2.1, calls.2.2⟩
      | _ => simp [place, Caller.waits] at resting
  | sinkReplaced sink resting =>
      refine sound.framed ?_ rfl ⟨rfl, rfl, rfl, rfl⟩ id id
      exact sound.calls
  | @sends stream input engine place checked =>
      simp only [place] at calls
      refine sound.framed ?_ rfl ⟨rfl, rfl, rfl, rfl⟩ id id
      obtain ⟨run, found, opened, next, _⟩ := ScriptedEngine.addPacket_eq_ok_iff.mp checked
      exact ⟨calls.1, calls.2, run, found, opened, next⟩
  | @sent stream input worker engine place found room added =>
      simp only [place] at calls
      obtain ⟨run, _, _, _, rfl⟩ := ScriptedEngine.addPacket_eq_ok_iff.mp added
      have plays := sound.plays worker found
      have given : (threads.engine.accept run input).worker = some (worker.enqueue input) := by
        rw [ScriptedEngine.accept, found]
        rfl
      refine .working ⟨rfl, calls.2.1⟩ given
        ⟨plays.script, plays.observers, plays.sink, plays.index, ?_, ?_, plays.between,
          plays.history⟩
      · rw [← plays.frames, Worker.enqueue]
        simp
      · rw [Worker.enqueue, List.length_append]
        exact room
  | @awaits engine place awaited =>
      simp only [place] at calls
      obtain ⟨_, rfl⟩ := ScriptedEngine.waitUntilDone_eq_ok_iff.mp awaited
      refine sound.framed ?_ rfl ⟨rfl, rfl, rfl, rfl⟩ id fun _ => rfl
      exact ⟨rfl, by simp [calls.2]⟩
  | raises place =>
      exact sound.framed rfl rfl ⟨rfl, rfl, rfl, rfl⟩ (absurd · Bool.false_ne_true.symm) id
  | cancels place =>
      simp only [place] at calls
      refine sound.framed ?_ rfl ⟨rfl, rfl, rfl, rfl⟩ id fun _ => rfl
      exact ⟨rfl, by simp [calls]⟩
  | drops place =>
      simp only [place] at calls
      refine sound.framed ?_ rfl ⟨rfl, rfl, rfl, rfl⟩ id fun _ => rfl
      exact ⟨rfl, by simp [calls.2]⟩
  | @returns ending place ended =>
      simp only [place] at calls
      refine sound.framed ?_ rfl ⟨rfl, rfl, rfl, rfl⟩ id id
      exact ⟨calls.1, ended, calls.2⟩

theorem Sound.step (sound : threads.Sound answers idle graph depth)
    (step : Step answers depth threads after) : after.Sound answers idle graph depth :=
  step.elim sound.called sound.worked

theorem Sound.reaches (sound : threads.Sound answers idle graph depth)
    (reached : Reaches answers depth threads after) : after.Sound answers idle graph depth := by
  induction reached with
  | refl => exact sound
  | tail _ step ih => exact ih.step step

theorem flag_of_step (step : Step answers depth threads after) (raised : threads.flag = true) :
    after.flag = true ∧ after.begun = threads.begun := by
  rcases step with step | step
  · cases step
    case raises => exact ⟨rfl, rfl⟩
    all_goals exact ⟨raised, rfl⟩
  · cases step
    case begins lowered => exact absurd (raised.symm.trans lowered) (by decide)
    all_goals exact ⟨raised, rfl⟩

theorem begun_of_flag (reached : Reaches answers depth threads after)
    (raised : threads.flag = true) : after.flag = true ∧ after.begun = threads.begun := by
  induction reached with
  | refl => exact ⟨raised, rfl⟩
  | tail _ step ih =>
      obtain ⟨still, same⟩ := flag_of_step step ih.1
      exact ⟨still, same.trans ih.2⟩

/-- A worker that is gone delivers nothing, and only another run has a worker again. -/
theorem Sound.silent (sound : threads.Sound answers idle graph depth) {ending : Ending}
    (ended : threads.caller = .returned ending) (reached : Reaches answers depth threads after) :
    after.caller = .returned ending ∧ after.history = threads.history := by
  induction reached with
  | refl => exact ⟨ended, rfl⟩
  | @tail middle _ reached step ih =>
      have calls := (sound.reaches reached).calls
      simp only [Calls, ih.1] at calls
      rcases step with step | step
      · cases step
        case called => exact ih
        case sinkReplaced => exact ih
        all_goals simp_all
      · obtain ⟨worker, found⟩ := step.frame.1
        exact absurd (found.symm.trans calls.2.1) (Option.some_ne_none worker)

/-- A worker can go on unless it waits for a frame. -/
theorem exists_workerStep (found : threads.engine.worker = some worker)
    (fed : threads.held.toList ++ worker.waiting ≠ [] ∨ threads.engine.isInputOpen = false) :
    ∃ after, WorkerStep answers threads after := by
  cases current : worker.current with
  | cons emission rest =>
      exact ⟨_, .emits found current ((Delivery.prompt answers).emit_eq emission _)⟩
  | nil =>
      cases held : threads.held with
      | some input =>
          cases flag : threads.flag with
          | false => exact ⟨_, .begins found held flag⟩
          | true => exact ⟨_, .abandons found held flag⟩
      | none =>
          cases waiting : worker.waiting with
          | cons input rest => exact ⟨_, .takes found held current waiting⟩
          | nil =>
              have idled : worker.isIdle = true := by
                rw [Worker.isIdle, current, waiting]
                rfl
              have closed := fed.resolve_left (by simp [held, waiting])
              exact ⟨_, .ends found held idled closed⟩

theorem Sound.exists_step (sound : threads.Sound answers idle graph depth)
    (waits : threads.caller.waits = true) : ∃ after, Step answers depth threads after := by
  have calls := sound.calls
  unfold Calls at calls
  cases place : threads.caller with
  | sending stream input =>
      simp only [place] at calls
      obtain ⟨_, lowered, run, found, opened, next⟩ := calls
      obtain ⟨_, _, _, running⟩ := ScriptedEngine.runOn_eq_ok_iff.mp found
      cases left : threads.engine.worker with
      | none =>
          have closed := ((sound.played left).all lowered).1
          simp [ScriptedEngine.isInputOpen, running, opened] at closed
      | some worker =>
          by_cases room : worker.waiting.length < max 1 depth
          · exact ⟨_, .inl (.sent place left room
              (ScriptedEngine.addPacket_of_precedes found opened next))⟩
          · have full : threads.held.toList ++ worker.waiting ≠ [] := by
              intro none
              rw [(List.append_eq_nil_iff.mp none).2, List.length_nil] at room
              omega
            obtain ⟨after, step⟩ := exists_workerStep left (.inl full)
            exact ⟨after, .inr step⟩
  | cancelling => exact ⟨_, .inl (.cancels place)⟩
  | joining ending =>
      simp only [place] at calls
      cases left : threads.engine.worker with
      | none => exact ⟨_, .inl (.returns place left)⟩
      | some worker =>
          have closed : threads.engine.isInputOpen = false := by
            rw [ScriptedEngine.isInputOpen, calls.1]
          obtain ⟨after, step⟩ := exists_workerStep left (.inr closed)
          exact ⟨after, .inr step⟩
  | _ => simp [place, Caller.waits] at waits

theorem Sound.work_lt (sound : threads.Sound answers idle graph depth)
    (step : WorkerStep answers threads after) : after.work < threads.work := by
  cases step with
  | @takes worker input rest found empty rested waiting =>
      simp only [work, found, empty, waiting, Option.toList_none, Option.toList_some,
        List.length_nil, List.length_cons, List.nil_append, List.cons_append]
      omega
  | @begins worker input found held lowered =>
      have rested := (sound.plays worker found).between (by rw [held]; rfl)
      simp only [work, found, held, rested, Option.toList_none, Option.toList_some,
        List.length_nil, List.length_cons, List.nil_append, List.cons_append,
        Worker.emissionTotal]
      omega
  | abandons found held raised =>
      simp only [work, found]
      omega
  | emits found current emitted =>
      simp only [work, found, current, List.length_cons]
      omega
  | ends found empty idled closed =>
      simp only [work, found]
      omega

/-- A caller who waits is still waiting after a step only if the worker made the step. -/
theorem workerStep_of_waits (step : Step answers depth threads after)
    (waits : threads.caller.waits = true) (same : after.caller = threads.caller) :
    WorkerStep answers threads after := by
  refine step.resolve_left fun called => ?_
  cases called
  case called resting _ _ _ => exact absurd (resting.symm.trans waits) (by decide)
  case sinkReplaced resting => exact absurd (resting.symm.trans waits) (by decide)
  all_goals simp_all

/-- The engine of one thread that is cancelled at this point works off the same frames. -/
theorem Sound.history_cancel (sound : threads.Sound answers idle graph depth)
    (running : threads.engine.isRunning = true) :
    (threads.engine.cancel.advance answers.reaction threads.history).2 =
      reference answers idle graph threads.begun := by
  obtain ⟨run, found⟩ := Option.isSome_iff_exists.mp running
  cases left : threads.engine.worker with
  | none =>
      have idled : threads.engine.cancel.worker = none := by
        simp [ScriptedEngine.cancel, found, left]
      simp only [ScriptedEngine.advance, idled]
      exact (sound.played left).history
  | some worker =>
      have plays := sound.plays worker left
      have cut : threads.engine.cancel.worker = some { worker with waiting := [] } := by
        simp [ScriptedEngine.cancel, found, left]
      rw [ScriptedEngine.advance_of_prompt (Delivery.prompt answers) cut, ← plays.history]
      simp only [Worker.owed, Graph.emissionsFrom, List.append_nil, plays.observers, plays.sink]

theorem Sound.prefix_frames (sound : threads.Sound answers idle graph depth) :
    threads.begun <+: threads.frames := by
  cases left : threads.engine.worker with
  | none => exact (sound.played left).frames
  | some worker => exact ⟨_, (sound.plays worker left).frames⟩

theorem Sound.prefix_reference (sound : threads.Sound answers idle graph depth) :
    threads.history <+: reference answers idle graph threads.begun := by
  cases left : threads.engine.worker with
  | none => exact (sound.played left).history ▸ List.prefix_rfl
  | some worker =>
      rw [← (sound.plays worker left).history]
      exact prefix_foldl_emitted ..

/-- However the steps of caller and worker are interleaved, what is delivered comes first of
what the accepted frames would bring one after the other. The queue never holds more than it
has room for, and a caller who waits gets on after a number of steps of the worker. A run that
is waited for, or whose engine is given up, has worked off all frames; a cancelled one exactly
those begun when the flag was raised, each to its end. After that nothing is delivered. -/
theorem delivers_of_reaches (loaded : idle.graph = some graph)
    (started : idle.start = .ok engine)
    (reached : Reaches answers depth { engine } threads) :
    threads.begun <+: threads.frames ∧
      threads.history <+: reference answers idle graph threads.begun ∧
      threads.history <+: reference answers idle graph threads.frames ∧
      (∀ worker, threads.engine.worker = some worker →
        worker.waiting.length ≤ max 1 depth) ∧
      (threads.caller.waits = true →
        (∃ after, Step answers depth threads after) ∧
        ∀ after, Step answers depth threads after → after.caller = threads.caller →
          after.work < threads.work) ∧
      (threads.caller = .free →
        (threads.engine.cancel.advance answers.reaction threads.history).2 =
          reference answers idle graph threads.begun) ∧
      (∀ ending, threads.caller = .returned ending →
        threads.history = reference answers idle graph threads.begun ∧
          (ending ≠ .cancelled → threads.begun = threads.frames)) ∧
      ∀ later, Reaches answers depth threads later →
        (threads.flag = true → later.begun = threads.begun) ∧
          ∀ ending, threads.caller = .returned ending → later.history = threads.history := by
  have sound : threads.Sound answers idle graph depth :=
    (sound_of_start loaded started).reaches reached
  have calls := sound.calls
  refine ⟨sound.prefix_frames, sound.prefix_reference,
    sound.prefix_reference.trans (reference_grows sound.prefix_frames),
    fun worker left => (sound.plays worker left).queued, fun waits => ?_, fun free => ?_,
    fun ending returned => ?_, fun later goesOn => ?_⟩
  · refine ⟨sound.exists_step waits, fun after step same => ?_⟩
    exact sound.work_lt (workerStep_of_waits step waits same)
  · rw [Calls, free] at calls
    exact sound.history_cancel calls.1
  · rw [Calls, returned] at calls
    obtain ⟨_, ended, cancelled⟩ := calls
    have played := sound.played ended
    refine ⟨played.history, fun other => (played.all ?_).2⟩
    exact Bool.eq_false_iff.mpr fun raised => other (cancelled.mp raised)
  · exact ⟨fun raised => (begun_of_flag goesOn raised).2,
      fun ending returned => (sound.silent returned goesOn).2⟩

/-- A run is cancelled while its first frame is in work and the second one waits. The first
one is completed, its preview included; of the second one not even the error is heard of. -/
theorem delivers_of_reaches_cancelled :
    let graph : Graph := {
      previewStream := some "shown"
      outputStreams := .ofList [("pose", .presence), ("face", .presence)]
      frames := [[⟨"face", .error "lost"⟩, ⟨"pose", .payload (.presence true)⟩]] }
    let idle : ScriptedEngine Nat Unit := {
      graph := some graph
      observers := .ofList [("pose", 1), ("shown", 2)]
      sink := some () }
    let answers : Answers Nat Unit := fun _ _ _ _ => .ok ()
    let stamped (micros : Int) : StampedFrame := ⟨.clamp micros, .black⟩
    ∃ engine threads, idle.start = .ok engine ∧
      Reaches answers 1 { engine } threads ∧
      threads.caller = .returned .cancelled ∧ threads.frames = [stamped 1, stamped 2] ∧
      threads.history = [
        .report () ⟨some "face", some (.clamp 1), ⟨.internal, "lost"⟩⟩,
        .call "pose" 1 ⟨.clamp 1, .presence true⟩,
        .call "shown" 2 ⟨.clamp 1, .image .black⟩] := by
  intro graph idle answers stamped
  let run : Run := {}
  let next : Run := run.accept (.clamp 1)
  have takes (engine : ScriptedEngine Nat Unit) (loaded : engine.graph = some graph)
      (running : engine.run = some run) :
      engine.addPacket graph.inputStream (stamped 1) = .ok (engine.accept run (stamped 1)) :=
    ScriptedEngine.addPacket_of_precedes
      (ScriptedEngine.runOn_eq_ok_iff.mpr ⟨graph, loaded, rfl, running⟩) rfl
      fun _ found => absurd found (Option.some_ne_none _).symm
  have takesNext (engine : ScriptedEngine Nat Unit) (loaded : engine.graph = some graph)
      (running : engine.run = some next) :
      engine.addPacket graph.inputStream (stamped 2) = .ok (engine.accept next (stamped 2)) :=
    ScriptedEngine.addPacket_of_precedes
      (ScriptedEngine.runOn_eq_ok_iff.mpr ⟨graph, loaded, rfl, running⟩) rfl
      fun _ found => by cases found; decide
  let engine : ScriptedEngine Nat Unit := {
    graph := some graph
    sink := some ()
    run := some run
    worker := some { graph, observers := idle.observers, sink := some () } }
  have loaded : idle.graph = some graph := rfl
  have started : idle.start = .ok engine :=
    ScriptedEngine.start_eq_ok_iff.mpr ⟨rfl, graph, rfl, rfl⟩
  have emits (emission : Emission) (history : List (Occurrence Nat Unit)) :
      answers.reaction.emit idle.observers idle.sink emission history = some _ :=
    (Delivery.prompt answers).emit_eq emission history
  have sends : Reaches answers 1 { engine } _ := .single (.inl (.sends rfl (takes _ rfl rfl)))
  have sent := sends.tail (.inl (.sent rfl rfl (by decide) (takes _ rfl rfl)))
  have taken := sent.tail (.inr (.takes rfl rfl rfl rfl))
  have begun := taken.tail (.inr (.begins rfl rfl rfl))
  have failed := begun.tail (.inr (.emits rfl rfl (emits _ _)))
  have sendsNext := failed.tail (.inl (.sends rfl (takesNext _ rfl rfl)))
  have sentNext := sendsNext.tail (.inl (.sent rfl rfl (by decide) (takesNext _ rfl rfl)))
  have raised := sentNext.tail (.inl (.raises rfl))
  have posed := raised.tail (.inr (.emits rfl rfl (emits _ _)))
  have cancels := posed.tail (.inl (.cancels rfl))
  have shown := cancels.tail (.inr (.emits rfl rfl (emits _ _)))
  have takenNext := shown.tail (.inr (.takes rfl rfl rfl rfl))
  have abandoned := takenNext.tail (.inr (.abandons rfl rfl rfl))
  have returned := abandoned.tail (.inl (.returns rfl rfl))
  obtain ⟨threads, reached, caller, frames, begun⟩ : ∃ threads,
      Reaches answers 1 { engine } threads ∧ threads.caller = .returned .cancelled ∧
        threads.frames = [stamped 1, stamped 2] ∧ threads.begun = [stamped 1] :=
    ⟨_, returned, rfl, rfl, rfl⟩
  obtain ⟨_, _, _, _, _, _, ended, _⟩ := delivers_of_reaches loaded started reached
  refine ⟨engine, threads, started, reached, caller, frames, ?_⟩
  rw [(ended .cancelled caller).1, begun]
  decide +kernel

end Threads

end FrameFlow
