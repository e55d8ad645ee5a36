import FrameFlow.Proofs.Engine.Threads
import FrameFlow.Proofs.Graph.Packets

/-!
What a run brings to one stream: the packets that the script has for it, in the order of the
frames, as far as the run has come. The frames of a run follow one another in time, and so do
the packets of every stream.
-/

namespace FrameFlow

variable {η φ : Type}

/-- The packets that a handler of a stream was called with. -/
def Occurrence.on (stream : String) : Occurrence η φ → List Packet
  | .call other _ packet => if other = stream then [packet] else []
  | .report .. => []

theorem Occurrence.mem_on {stream : String} {occurrence : Occurrence η φ} {packet : Packet} :
    packet ∈ occurrence.on stream ↔ ∃ handler, occurrence = .call stream handler packet := by
  cases occurrence with
  | report sink fault => simp [on]
  | call other handler content =>
      by_cases same : other = stream
      · simp [on, same, eq_comm]
      · simp [on, same]

namespace Delivery

variable {answers : Answers η φ} {observers : StreamMap η} {sink : Option φ} {stream : String}

theorem on_reported (fault : Fault) :
    (reported sink fault : List (Occurrence η φ)).flatMap (Occurrence.on stream) = [] := by
  cases sink <;> rfl

/-- A stream that is observed gets its packets, and another one nothing; how handlers answer
does not matter. -/
theorem on_ofPacket (history : List (Occurrence η φ)) (other : String) (packet : Packet) :
    (ofPacket answers observers sink history other packet).flatMap (Occurrence.on stream) =
      if (observers.find? stream).isSome then (Emission.packet other packet).on stream else [] := by
  have faults (status : Status) :=
    @on_reported η φ sink stream ⟨some other, some packet.timestamp, status⟩
  by_cases same : other = stream
  · subst same
    cases found : observers.find? other with
    | none => simp [ofPacket, found]
    | some handler =>
        cases answer : answers history other handler packet <;>
          simp [ofPacket, found, answer, Occurrence.on, Emission.on, faults]
  · cases found : observers.find? other with
    | none => simp [ofPacket, found, Emission.on, same]
    | some handler =>
        cases answer : answers history other handler packet <;>
          simp [ofPacket, found, answer, Occurrence.on, Emission.on, same, faults]

theorem on_foldl_emitted (emissions : List Emission) (history : List (Occurrence η φ)) :
    (emissions.foldl (answers.reaction.emitted observers sink) history).flatMap
        (Occurrence.on stream) =
      history.flatMap (Occurrence.on stream) ++
        if (observers.find? stream).isSome then emissions.flatMap (Emission.on stream) else [] := by
  induction emissions generalizing history with
  | nil => simp
  | cons emission rest ih =>
      rw [List.foldl_cons, ih, List.flatMap_cons]
      cases emission with
      | fault fault =>
          rw [emitted_fault, List.flatMap_append, on_reported, List.append_nil]
          rfl
      | packet other packet =>
          rw [emitted_packet, List.flatMap_append, on_ofPacket, List.append_assoc]
          congr 1
          cases (observers.find? stream).isSome <;> rfl

end Delivery

namespace Threads

variable {answers : Answers η φ} {idle engine : ScriptedEngine η φ} {graph : Graph} {depth : Nat}
  {threads after : Threads η φ} {stream : String}

theorem on_reference (frames : List StampedFrame) :
    (reference answers idle graph frames).flatMap (Occurrence.on stream) =
      if (idle.observers.find? stream).isSome then graph.packetsOn stream 0 frames else [] := by
  rw [reference, Delivery.afterFrames_eq, Delivery.on_foldl_emitted, List.flatMap_nil,
    List.nil_append]
  rfl

theorem Sound.prefix_packetsOn (sound : threads.Sound answers idle graph depth)
    (stream : String) :
    threads.history.flatMap (Occurrence.on stream) <+:
      graph.packetsOn stream 0 threads.frames := by
  obtain ⟨missing, whole⟩ :=
    sound.prefix_reference.trans (reference_grows sound.prefix_frames)
  have same := @on_reference η φ answers idle graph stream threads.frames
  rw [← whole, List.flatMap_append] at same
  split at same
  · exact ⟨_, same⟩
  · rw [(List.append_eq_nil_iff.mp same).1]
    exact List.nil_prefix

/-- The frames of a run follow one another in time, and the run takes only what follows all of
them. -/
structure Ordered (threads : Threads η φ) : Prop where
  frames : threads.frames.Pairwise fun earlier later => earlier.timestamp < later.timestamp
  last : ∀ run, threads.engine.run = some run → ∀ timestamp, run.Precedes timestamp →
    ∀ input ∈ threads.frames, input.timestamp < timestamp

theorem Ordered.framed (ordered : threads.Ordered) (frames : after.frames = threads.frames)
    (last : ∀ run, after.engine.run = some run → ∃ before, threads.engine.run = some before ∧
      before.lastTimestamp = run.lastTimestamp) : after.Ordered := by
  refine ⟨frames ▸ ordered.frames, fun run found timestamp next input known => ?_⟩
  obtain ⟨before, same, stamp⟩ := last run found
  refine ordered.last before same timestamp ?_ input (frames ▸ known)
  rw [Run.Precedes, stamp]
  exact next

theorem run_of_perform {after : ScriptedEngine η φ} {call : Call η} (silent : call.frames = [])
    (performed : engine.perform call = .ok after) (running : after.isRunning = engine.isRunning)
    {run : Run} (found : after.run = some run) :
    ∃ before, engine.run = some before ∧ before.lastTimestamp = run.lastTimestamp := by
  have busy : engine.run ≠ none := by
    intro none
    simp [ScriptedEngine.isRunning, none, found] at running
  cases call with
  | load text => exact absurd (ScriptedEngine.load_eq_ok_iff.mp performed).1 busy
  | observe stream observer => exact absurd (ScriptedEngine.observe_eq_ok_iff.mp performed).1 busy
  | start => exact absurd (ScriptedEngine.start_eq_ok_iff.mp performed).1 busy
  | addPacket stream input => contradiction
  | closeInput stream =>
      obtain ⟨before, asked, rfl⟩ := ScriptedEngine.closeInput_eq_ok_iff.mp performed
      obtain ⟨_, _, _, same⟩ := ScriptedEngine.runOn_eq_ok_iff.mp asked
      cases found
      exact ⟨before, same, rfl⟩
  | waitUntilDone =>
      obtain ⟨_, rfl⟩ := ScriptedEngine.waitUntilDone_eq_ok_iff.mp performed
      contradiction
  | cancel =>
      cases performed
      rw [ScriptedEngine.cancel_run] at found
      contradiction

theorem Ordered.step (ordered : threads.Ordered) (step : Step answers depth threads after) :
    after.Ordered := by
  have stays : ∀ run, threads.engine.run = some run → ∃ before,
      threads.engine.run = some before ∧ before.lastTimestamp = run.lastTimestamp :=
    fun run found => ⟨run, found, rfl⟩
  have gone {engine : ScriptedEngine η φ} (ended : engine.run = none) : ∀ run,
      engine.run = some run → ∃ before, threads.engine.run = some before ∧
        before.lastTimestamp = run.lastTimestamp :=
    fun run found => absurd (ended.symm.trans found).symm (Option.some_ne_none _)
  rcases step with step | step
  · cases step with
    | called resting silent performed running =>
        exact ordered.framed rfl fun run found => run_of_perform silent performed running found
    | @sent stream input worker engine place working room added =>
        obtain ⟨run, asked, _, next, rfl⟩ := ScriptedEngine.addPacket_eq_ok_iff.mp added
        obtain ⟨_, _, _, found⟩ := ScriptedEngine.runOn_eq_ok_iff.mp asked
        have before := ordered.last run found input.timestamp next
        refine ⟨List.pairwise_append.mpr ⟨ordered.frames, List.pairwise_singleton .., ?_⟩, ?_⟩
        · intro earlier known later new
          rw [List.mem_singleton.mp new]
          exact before earlier known
        · rintro _ ⟨⟩ timestamp later earlier known
          have new : input.timestamp < timestamp := later input.timestamp rfl
          rcases List.mem_append.mp known with old | same
          · exact Int.lt_trans (before earlier old) new
          · rw [List.mem_singleton.mp same]
            exact new
    | awaits place awaited =>
        obtain ⟨_, rfl⟩ := ScriptedEngine.waitUntilDone_eq_ok_iff.mp awaited
        exact ordered.framed rfl (gone rfl)
    | cancels place => exact ordered.framed rfl (gone rfl)
    | drops place => exact ordered.framed rfl (gone rfl)
    | _ => exact ordered.framed rfl stays
  · obtain ⟨_, engine, _, _, frames⟩ := step.frame
    refine ordered.framed frames ?_
    rw [engine]
    exact stays

theorem Ordered.reaches (ordered : threads.Ordered)
    (reached : Reaches answers depth threads after) :
    after.Ordered := by
  induction reached with
  | refl => exact ordered
  | tail _ step ih => exact ih.step step

end Threads

/-- What holds of all runs of a graph. A frame brings one packet or fault at most to a stream.
Whoever observes a run, and however its threads take turns, handlers are called with packets
of the kind that the stream carries, and later packets of a stream have later timestamps. -/
structure Graph.TypesRuns (graph : Graph) : Prop where
  once : ∀ index input, ((graph.emissions index input).filterMap Emission.stream?).Nodup
  kinds : ∀ {η φ : Type} {answers : Answers η φ} {idle engine : ScriptedEngine η φ} {depth : Nat}
    {threads : Threads η φ}, idle.graph = some graph → idle.start = .ok engine →
    Threads.Reaches answers depth { engine } threads →
    ∀ stream handler packet, .call stream handler packet ∈ threads.history →
      graph.Carries stream packet.payload.kind
  ordered : ∀ {η φ : Type} {answers : Answers η φ} {idle engine : ScriptedEngine η φ}
    {depth : Nat} {threads : Threads η φ}, idle.graph = some graph → idle.start = .ok engine →
    Threads.Reaches answers depth { engine } threads →
    ∀ stream, Increasing (threads.history.flatMap (Occurrence.on stream))

theorem Graph.WellFormed.typesRuns {graph : Graph} (wellFormed : graph.WellFormed) :
    graph.TypesRuns where
  once := wellFormed.nodup_streams
  kinds loaded started reached stream handler packet told := by
    have sound := (Threads.sound_of_start loaded started).reaches reached
    have delivered := List.mem_flatMap.mpr ⟨_, told, Occurrence.mem_on.mpr ⟨handler, rfl⟩⟩
    obtain ⟨_, _, _, brought⟩ :=
      Graph.mem_packetsOn ((sound.prefix_packetsOn stream).subset delivered)
    exact wellFormed.carries brought
  ordered {_ _ _ _ engine _ _} loaded started reached stream := by
    have sound := (Threads.sound_of_start loaded started).reaches reached
    have begins : Threads.Ordered { engine } :=
      ⟨.nil, fun _ _ _ _ _ known => absurd known List.not_mem_nil⟩
    have frames := (begins.reaches reached).frames
    exact (wellFormed.increasing_packetsOn stream frames 0).sublist
      (sound.prefix_packetsOn stream).sublist

end FrameFlow
