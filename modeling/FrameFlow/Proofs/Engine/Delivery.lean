import FrameFlow.Proofs.Engine.Calls

/-!
What handlers and the fault sink see of a run. A run that ends by waiting for it, or by
giving the engine up, delivers what its script has for the accepted frames, frame by frame
from the first one of the script on, and nothing else.
-/

namespace FrameFlow

inductive Occurrence (η φ : Type) where
  | call (stream : String) (handler : η) (packet : Packet)
  | report (sink : φ) (fault : Fault)
deriving DecidableEq

/-- How handlers answer. An answer may depend on all that happened before in the run. -/
abbrev Answers (η φ : Type) :=
  List (Occurrence η φ) → String → η → Packet → Except Status Unit

def Answers.reaction (answers : Answers η φ) : Reaction η φ (List (Occurrence η φ)) where
  deliver stream handler packet history :=
    some (answers history stream handler packet, history ++ [.call stream handler packet])
  report sink fault history := history ++ [.report sink fault]

namespace Delivery

variable {η φ : Type} (answers : Answers η φ) (observers : StreamMap η) (sink : Option φ)

def reported (sink : Option φ) (fault : Fault) : List (Occurrence η φ) :=
  match sink with
  | some sink => [.report sink fault]
  | none => []

/-- What comes of a value on a stream: nothing without a handler; else one call, and right
after it one fault if the handler fails. -/
def ofPacket (history : List (Occurrence η φ)) (stream : String) (packet : Packet) :
    List (Occurrence η φ) :=
  match observers.find? stream with
  | none => []
  | some handler =>
      .call stream handler packet ::
        match answers history stream handler packet with
        | .ok () => []
        | .error status => reported sink ⟨some stream, some packet.timestamp, status⟩

/-- What comes of a scripted packet: an error is reported whether or not anybody observes
its stream. -/
def ofScripted (history : List (Occurrence η φ)) (timestamp : Timestamp)
    (packet : ScriptedPacket) : List (Occurrence η φ) :=
  match packet.value with
  | .error message =>
      reported sink ⟨some packet.stream, some timestamp, ⟨.internal, message⟩⟩
  | .payload content => ofPacket answers observers sink history packet.stream ⟨timestamp, content⟩

/-- The scripted packets of the frame at an index; scripts are repeated from their
beginning, and an empty script has no packets. -/
def script (graph : Graph) (index : Nat) : List ScriptedPacket :=
  if scripted : 0 < graph.frames.length then
    graph.frames.get ⟨index % graph.frames.length, Nat.mod_lt _ scripted⟩
  else []

def afterScript (timestamp : Timestamp) :
    List ScriptedPacket → List (Occurrence η φ) → List (Occurrence η φ)
  | [], history => history
  | packet :: rest, history =>
      afterScript timestamp rest
        (history ++ ofScripted answers observers sink history timestamp packet)

/-- The history after a frame: its script, and then the frame itself on the preview stream
if the graph has one. -/
def afterFrame (graph : Graph) (index : Nat) (input : StampedFrame)
    (history : List (Occurrence η φ)) : List (Occurrence η φ) :=
  let scripted :=
    afterScript answers observers sink input.timestamp (script graph index) history
  match graph.previewStream with
  | none => scripted
  | some preview =>
      scripted ++
        ofPacket answers observers sink scripted preview
          ⟨input.timestamp, .image input.frame⟩

def afterFrames (graph : Graph) :
    Nat → List StampedFrame → List (Occurrence η φ) → List (Occurrence η φ)
  | _, [], history => history
  | index, input :: rest, history =>
      afterFrames graph (index + 1) rest
        (afterFrame answers observers sink graph index input history)

end Delivery

namespace Delivery

variable {η φ : Type} {answers : Answers η φ} {observers : StreamMap η} {sink : Option φ}

theorem script_eq (graph : Graph) (index : Nat) : script graph index = graph.scripted index := by
  unfold script Graph.scripted
  split
  · rename_i scripted
    rw [List.getElem?_eq_getElem (Nat.mod_lt _ scripted), Option.getD_some, List.get_eq_getElem]
  · rename_i empty
    have none : graph.frames = [] := List.length_eq_zero_iff.mp (Nat.eq_zero_of_not_pos empty)
    simp [none]

theorem prompt (answers : Answers η φ) : answers.reaction.IsPrompt :=
  fun _ _ _ _ => rfl

theorem reportTo_eq (history : List (Occurrence η φ)) (fault : Fault) :
    answers.reaction.reportTo sink fault history = history ++ reported sink fault := by
  cases sink with
  | none => simp [Reaction.reportTo, reported]
  | some sink => rfl

theorem emitted_packet (history : List (Occurrence η φ)) (stream : String) (packet : Packet) :
    answers.reaction.emitted observers sink history (.packet stream packet) =
      history ++ ofPacket answers observers sink history stream packet := by
  cases found : observers.find? stream with
  | none => simp [Reaction.emitted, Reaction.emit, ofPacket, found]
  | some handler =>
      cases answer : answers history stream handler packet with
      | ok done =>
          simp [Reaction.emitted, Reaction.emit, Answers.reaction, ofPacket, found, answer]
      | error status =>
          have delivered : answers.reaction.deliver stream handler packet history =
              some (.error status, history ++ [.call stream handler packet]) :=
            congrArg (fun answer => some (answer, _)) answer
          simp only [Reaction.emitted, Reaction.emit, found, delivered, Option.map_some,
            Option.getD_some, reportTo_eq, ofPacket, answer, List.append_assoc,
            List.singleton_append]

theorem emitted_fault (history : List (Occurrence η φ)) (fault : Fault) :
    answers.reaction.emitted observers sink history (.fault fault) =
      history ++ reported sink fault :=
  reportTo_eq history fault

theorem emitted_scripted (history : List (Occurrence η φ)) (timestamp : Timestamp)
    (packet : ScriptedPacket) :
    answers.reaction.emitted observers sink history (packet.emission timestamp) =
      history ++ ofScripted answers observers sink history timestamp packet := by
  cases value : packet.value with
  | payload content =>
      simp only [ScriptedPacket.emission, value, ofScripted, emitted_packet]
  | error message =>
      simp only [ScriptedPacket.emission, value, ofScripted, emitted_fault]

theorem afterScript_eq (timestamp : Timestamp) (packets : List ScriptedPacket)
    (history : List (Occurrence η φ)) :
    afterScript answers observers sink timestamp packets history =
      (packets.map (·.emission timestamp)).foldl
        (answers.reaction.emitted observers sink) history := by
  induction packets generalizing history with
  | nil => rfl
  | cons packet rest ih =>
      rw [afterScript, ih, List.map_cons, List.foldl_cons, emitted_scripted]

theorem afterFrame_eq (graph : Graph) (index : Nat) (input : StampedFrame)
    (history : List (Occurrence η φ)) :
    afterFrame answers observers sink graph index input history =
      (graph.emissions index input).foldl (answers.reaction.emitted observers sink) history := by
  cases shown : graph.previewStream with
  | none => simp [afterFrame, Graph.emissions, shown, afterScript_eq, script_eq]
  | some preview =>
      simp [afterFrame, Graph.emissions, shown, afterScript_eq, script_eq, emitted_packet]

theorem afterFrames_eq (graph : Graph) (index : Nat) (frames : List StampedFrame)
    (history : List (Occurrence η φ)) :
    afterFrames answers observers sink graph index frames history =
      (graph.emissionsFrom index frames).foldl
        (answers.reaction.emitted observers sink) history := by
  induction frames generalizing index history with
  | nil => rfl
  | cons input rest ih =>
      rw [afterFrames, ih, afterFrame_eq, Graph.emissionsFrom, List.foldl_append]

end Delivery

namespace ScriptedEngine

variable {η φ : Type}

/-- A run in progress: what it accepted so far, where the engine is, and what was seen.
Callers may ask anything of the engine that does not end the run, and replace the fault
sink; the worker may be run at any time. Refused calls leave no trace. -/
inductive Course (answers : Answers η φ) (idle : ScriptedEngine η φ) :
    List StampedFrame → ScriptedEngine η φ → List (Occurrence η φ) → Prop
  | begun {engine} : idle.start = .ok engine → Course answers idle [] engine []
  | called {frames engine history call after} :
      Course answers idle frames engine history → engine.perform call = .ok after →
      after.isRunning = true → Course answers idle (frames ++ call.frames) after history
  | sinkReplaced {frames engine history} (sink : φ) :
      Course answers idle frames engine history →
      Course answers idle frames (engine.setSink sink) history
  | worked {frames engine history} :
      Course answers idle frames engine history →
      Course answers idle frames (engine.advance answers.reaction history).1
        (engine.advance answers.reaction history).2

/-- A run that ended with everything accepted: what it accepted, the engine after it and
all that was seen. -/
inductive Completed (answers : Answers η φ) (idle : ScriptedEngine η φ) :
    List StampedFrame → ScriptedEngine η φ → List (Occurrence η φ) → Prop
  | awaited {frames engine history after} :
      Course answers idle frames engine history → engine.waitUntilDone = .ok after →
      Completed answers idle frames (after.advance answers.reaction history).1
        (after.advance answers.reaction history).2
  | closed {frames engine history} :
      Course answers idle frames engine history →
      Completed answers idle frames (engine.close.advance answers.reaction history).1
        (engine.close.advance answers.reaction history).2

/-- Where a run stands that accepted some frames: what was seen, with what the worker still
owes, is what comes of these frames. The worker ends only after the input. -/
def Stands (answers : Answers η φ) (idle : ScriptedEngine η φ) (graph : Graph)
    (frames : List StampedFrame) (engine : ScriptedEngine η φ)
    (history : List (Occurrence η φ)) : Prop :=
  let whole := Delivery.afterFrames answers idle.observers idle.sink graph 0 frames []
  match engine.worker with
  | some worker =>
      worker.graph = graph ∧ worker.observers = idle.observers ∧ worker.sink = idle.sink ∧
        worker.index + worker.waiting.length = frames.length ∧
        worker.owed.foldl (answers.reaction.emitted idle.observers idle.sink) history = whole
  | none => engine.isInputOpen = false ∧ history = whole

variable {answers : Answers η φ} {idle engine after : ScriptedEngine η φ} {graph : Graph}
  {frames : List StampedFrame} {history : List (Occurrence η φ)}

theorem Stands.of_worker (stands : Stands answers idle graph frames engine history)
    (same : after.worker = engine.worker)
    (closed : engine.isInputOpen = false → after.isInputOpen = false) :
    Stands answers idle graph frames after history := by
  unfold Stands at *
  rw [same]
  cases found : engine.worker with
  | some worker => simpa only [found] using stands
  | none =>
      simp only [found] at stands
      exact ⟨closed stands.1, stands.2⟩

theorem Stands.start (loaded : idle.graph = some graph) (started : idle.start = .ok engine) :
    Stands answers idle graph [] engine [] := by
  obtain ⟨_, found, same, rfl⟩ := start_eq_ok_iff.mp started
  rw [loaded, Option.some.injEq] at same
  subst same
  simp [Stands, Worker.owed, Graph.emissionsFrom, Delivery.afterFrames]

theorem Stands.accept (stands : Stands answers idle graph frames engine history)
    {run : Run} (running : engine.run = some run) (opened : run.inputOpen = true)
    (input : StampedFrame) :
    Stands answers idle graph (frames ++ [input]) (engine.accept run input) history := by
  have awaited : engine.isInputOpen = true := by simp only [isInputOpen, running, opened]
  cases found : engine.worker with
  | none =>
      simp only [Stands, found] at stands
      exact absurd (awaited.symm.trans stands.1) (by decide)
  | some worker =>
      simp only [Stands, found] at stands
      obtain ⟨script, observers, sink, count, owed⟩ := stands
      simp only [Stands, ScriptedEngine.accept, found, Option.map_some]
      refine ⟨script, observers, sink, ?_, ?_⟩
      · simp only [Worker.enqueue, List.length_append, List.length_singleton]
        omega
      · -- The count of accepted frames is the place of the new one in the script.
        rw [Worker.owed_enqueue, List.foldl_append, owed, script, count,
          Delivery.afterFrames_eq, Delivery.afterFrames_eq, Graph.emissionsFrom_append,
          List.foldl_append, Nat.zero_add]
        simp only [Graph.emissionsFrom, List.append_nil]

theorem Stands.advance (stands : Stands answers idle graph frames engine history) :
    Stands answers idle graph frames (engine.advance answers.reaction history).1
      (engine.advance answers.reaction history).2 := by
  cases found : engine.worker with
  | none => simpa only [ScriptedEngine.advance, found] using stands
  | some worker =>
      simp only [Stands, found] at stands
      obtain ⟨script, observers, sink, count, owed⟩ := stands
      rw [advance_of_prompt (Delivery.prompt answers) found, observers, sink, owed]
      cases opened : engine.isInputOpen with
      | true => exact ⟨script, observers, sink, by simpa [Worker.rested] using count, rfl⟩
      | false => exact ⟨opened, rfl⟩

theorem Stands.perform (stands : Stands answers idle graph frames engine history)
    (running : engine.isRunning = true) {call : Call η}
    (performed : engine.perform call = .ok after) (survives : after.isRunning = true) :
    Stands answers idle graph (frames ++ call.frames) after history := by
  have busy : engine.run ≠ none := fun none => by simp [isRunning, none] at running
  -- During a run the engine refuses all that would touch its observers.
  cases call with
  | load text => exact absurd (load_eq_ok_iff.mp performed).1 busy
  | observe stream observer => exact absurd (observe_eq_ok_iff.mp performed).1 busy
  | start => exact absurd (start_eq_ok_iff.mp performed).1 busy
  | addPacket stream input =>
      obtain ⟨run, found, opened, _, rfl⟩ := addPacket_eq_ok_iff.mp performed
      obtain ⟨_, _, _, run_eq⟩ := runOn_eq_ok_iff.mp found
      exact stands.accept run_eq opened input
  | closeInput stream =>
      obtain ⟨run, _, rfl⟩ := closeInput_eq_ok_iff.mp performed
      simp only [Call.frames, List.append_nil]
      exact stands.of_worker rfl fun _ => rfl
  | waitUntilDone =>
      obtain ⟨_, rfl⟩ := waitUntilDone_eq_ok_iff.mp performed
      simp [isRunning] at survives
  | cancel =>
      have idled : engine.cancel.isRunning = false := by simp [isRunning, cancel_run]
      cases performed
      rw [idled] at survives
      contradiction

theorem Course.stands (loaded : idle.graph = some graph)
    (course : Course answers idle frames engine history) :
    engine.isRunning = true ∧ Stands answers idle graph frames engine history := by
  induction course with
  | begun started =>
      refine ⟨?_, .start loaded started⟩
      obtain ⟨_, _, _, rfl⟩ := start_eq_ok_iff.mp started
      rfl
  | called course performed survives ih => exact ⟨survives, ih.2.perform ih.1 performed survives⟩
  | sinkReplaced sink course ih => exact ⟨ih.1, ih.2.of_worker rfl id⟩
  | worked course ih =>
      refine ⟨?_, ih.2.advance⟩
      rw [isRunning, advance_run]
      exact ih.1

theorem Stands.finish (stands : Stands answers idle graph frames engine history)
    (closed : engine.isInputOpen = false) :
    (engine.advance answers.reaction history).1.worker = none ∧
      (engine.advance answers.reaction history).2 =
        Delivery.afterFrames answers idle.observers idle.sink graph 0 frames [] := by
  cases found : engine.worker with
  | none =>
      simp only [Stands, found] at stands
      simp only [ScriptedEngine.advance, found]
      exact ⟨trivial, stands.2⟩
  | some worker =>
      simp only [Stands, found] at stands
      obtain ⟨_, observers, sink, _, owed⟩ := stands
      rw [advance_of_prompt (Delivery.prompt answers) found, observers, sink, owed]
      simp [closed]

/-- Whatever is asked of the engine during a run, and however often the worker is run: when
the run has ended with all its frames, handlers and sink have seen exactly what the script
has for these frames, in order. -/
theorem completed_history (loaded : idle.graph = some graph)
    (completed : Completed answers idle frames engine history) :
    history = Delivery.afterFrames answers idle.observers idle.sink graph 0 frames [] ∧
      engine.worker = none ∧ engine.run = none := by
  cases completed with
  | @awaited begun _ _ course awaited =>
      obtain ⟨_, rfl⟩ := waitUntilDone_eq_ok_iff.mp awaited
      have stands : Stands answers idle graph frames { begun with run := none } _ :=
        (course.stands loaded).2.of_worker rfl fun _ => rfl
      obtain ⟨released, seen⟩ := stands.finish rfl
      exact ⟨seen, released, advance_run ..⟩
  | @closed begun _ course =>
      have stands : Stands answers idle graph frames begun.close _ :=
        (course.stands loaded).2.of_worker rfl fun _ => rfl
      obtain ⟨released, seen⟩ := stands.finish rfl
      exact ⟨seen, released, advance_run ..⟩

theorem Course.feed {run : Run} {inputs : List StampedFrame}
    (course : Course answers idle frames engine history)
    (loaded : engine.graph = some graph) (running : engine.run = some run)
    (opened : run.inputOpen = true)
    (later : ∀ input ∈ inputs, run.Precedes input.timestamp)
    (increasing : inputs.Pairwise fun a b => a.timestamp < b.timestamp) :
    ∃ fed last, Course answers idle (frames ++ inputs) fed history ∧
      fed.graph = some graph ∧ fed.run = some last := by
  induction inputs generalizing frames engine run with
  | nil => exact ⟨engine, run, by rwa [List.append_nil], loaded, running⟩
  | cons input rest ih =>
      obtain ⟨first, others⟩ := List.pairwise_cons.mp increasing
      have accepted : engine.perform (.addPacket graph.inputStream input) =
          .ok (engine.accept run input) :=
        addPacket_of_precedes (runOn_eq_ok_iff.mpr ⟨graph, loaded, rfl, running⟩) opened
          (later input (List.mem_cons_self ..))
      have next : ∀ other ∈ rest, (run.accept input.timestamp).Precedes other.timestamp := by
        intro other member previous found
        cases found
        exact first other member
      obtain ⟨fed, last, fedCourse, fedGraph, fedRun⟩ :=
        ih (course.called accepted rfl) loaded rfl opened next others
      refine ⟨fed, last, ?_, fedGraph, fedRun⟩
      rwa [Call.frames, List.append_assoc, List.singleton_append] at fedCourse

theorem exists_completed (answers : Answers η φ) (loaded : idle.graph = some graph)
    (resting : idle.run = none)
    (increasing : frames.Pairwise fun a b => a.timestamp < b.timestamp) :
    ∃ engine history, Completed answers idle frames engine history := by
  have begun : Course answers idle [] _ [] :=
    .begun (start_eq_ok_iff.mpr ⟨resting, graph, loaded, rfl⟩)
  obtain ⟨fed, last, course, fedGraph, fedRun⟩ :=
    begun.feed loaded rfl rfl (fun _ _ _ found => nomatch found) increasing
  let closed : ScriptedEngine η φ := { fed with run := some { last with inputOpen := false } }
  have close : fed.perform (.closeInput graph.inputStream) = .ok closed :=
    closeInput_eq_ok_iff.mpr
      ⟨last, runOn_eq_ok_iff.mpr ⟨graph, fedGraph, rfl, fedRun⟩, rfl⟩
  have ended : Course answers idle frames closed [] := by
    simpa only [Call.frames, List.nil_append, List.append_nil] using course.called close rfl
  have awaited : closed.waitUntilDone = .ok { closed with run := none } :=
    waitUntilDone_eq_ok_iff.mpr ⟨fun run found => by cases found; rfl, rfl⟩
  exact ⟨_, _, .awaited ended awaited⟩

/-- Three frames on a script of two: an error that nobody observes, a handler that fails
once, a script that begins again, and every frame shown on the preview stream. -/
theorem completed_history_past_script :
    let graph : Graph := {
      previewStream := some "shown"
      outputStreams := .ofList [("pose", .presence), ("face", .presence)]
      frames := [
        [⟨"face", .error "lost"⟩, ⟨"pose", .payload (.presence true)⟩],
        [⟨"face", .payload (.presence false)⟩]] }
    let idle : ScriptedEngine Nat Unit := {
      graph := some graph
      observers := .ofList [("pose", 1), ("shown", 2)]
      sink := some () }
    let answers : Answers Nat Unit := fun history _ handler _ =>
      if handler = 1 ∧ history.length < 3 then .error ⟨.unavailable, "full"⟩ else .ok ()
    let stamped (micros : Int) : StampedFrame := ⟨.clamp micros, .black⟩
    let shown (micros : Int) : Occurrence Nat Unit :=
      .call "shown" 2 ⟨.clamp micros, .image .black⟩
    let posed (micros : Int) : Occurrence Nat Unit :=
      .call "pose" 1 ⟨.clamp micros, .presence true⟩
    let failed (stream : String) (micros : Int) (status : Status) : Occurrence Nat Unit :=
      .report () ⟨some stream, some (.clamp micros), status⟩
    graph.violation? = none ∧
      ∃ engine history,
        Completed answers idle [stamped (-5), stamped 3, stamped 4] engine history ∧
        history = [
          failed "face" (-5) ⟨.internal, "lost"⟩, posed (-5),
          failed "pose" (-5) ⟨.unavailable, "full"⟩, shown (-5),
          shown 3,
          failed "face" 4 ⟨.internal, "lost"⟩, posed 4, shown 4] := by
  intro graph idle answers stamped shown posed failed
  have increasing : [stamped (-5), stamped 3, stamped 4].Pairwise
      fun a b => a.timestamp < b.timestamp := by decide
  have loaded : idle.graph = some graph := rfl
  obtain ⟨engine, history, completed⟩ := exists_completed answers loaded rfl increasing
  refine ⟨by decide +kernel, engine, history, completed, ?_⟩
  rw [(completed_history loaded completed).1]
  decide +kernel

end ScriptedEngine

end FrameFlow
