import FrameFlow.Proofs.Engine.Progress

/-!
A worker and the world around it: what it cannot notice there, what it never breaks there,
and where it comes to rest.
-/

namespace FrameFlow

variable {η φ ω : Type}

namespace Reaction

/-- A change to the world that neither observers nor sinks take notice of. -/
structure Ignores (reaction : Reaction η φ ω) (change : ω → ω) : Prop where
  deliver : ∀ stream observer packet world,
    reaction.deliver stream observer packet (change world) =
      (reaction.deliver stream observer packet world).map fun answered =>
        (answered.1, change answered.2)
  report : ∀ sink fault world,
    reaction.report sink fault (change world) = change (reaction.report sink fault world)

/-- Something about the world that neither observers nor sinks break. -/
structure Keeps (reaction : Reaction η φ ω) (holds : ω → Prop) : Prop where
  deliver : ∀ {stream observer packet world answer after}, holds world →
    reaction.deliver stream observer packet world = some (answer, after) → holds after
  report : ∀ {sink fault world}, holds world → holds (reaction.report sink fault world)

variable {reaction : Reaction η φ ω} {change : ω → ω} {holds : ω → Prop}
  {observers : StreamMap η} {sink : Option φ}

theorem Ignores.reportTo (ignores : reaction.Ignores change) (fault : Fault) (world : ω) :
    reaction.reportTo sink fault (change world) =
      change (reaction.reportTo sink fault world) := by
  cases sink with
  | none => rfl
  | some sink => exact ignores.report sink fault world

theorem Ignores.emit (ignores : reaction.Ignores change) (emission : Emission) (world : ω) :
    reaction.emit observers sink emission (change world) =
      (reaction.emit observers sink emission world).map change := by
  cases emission with
  | fault fault => exact congrArg some (ignores.reportTo fault world)
  | packet stream packet =>
      cases found : observers.find? stream with
      | none => simp only [Reaction.emit, found, Option.map_some]
      | some observer =>
          simp only [Reaction.emit, found, ignores.deliver, Option.map_map]
          congr 1
          funext answered
          obtain ⟨answer, after⟩ := answered
          cases answer with
          | ok done => rfl
          | error status => exact ignores.reportTo _ after

theorem Ignores.emitAll (ignores : reaction.Ignores change) (emissions : List Emission)
    (world : ω) :
    reaction.emitAll observers sink emissions (change world) =
      ((reaction.emitAll observers sink emissions world).1,
        change (reaction.emitAll observers sink emissions world).2) := by
  induction emissions generalizing world with
  | nil => rfl
  | cons emission rest ih =>
      rw [Reaction.emitAll, Reaction.emitAll, ignores.emit]
      cases reaction.emit observers sink emission world with
      | none => rfl
      | some after => exact ih after

theorem Keeps.reportTo (keeps : reaction.Keeps holds) {fault : Fault} {world : ω}
    (held : holds world) : holds (reaction.reportTo sink fault world) := by
  cases sink with
  | none => exact held
  | some sink => exact keeps.report held

theorem Keeps.emit (keeps : reaction.Keeps holds) {emission : Emission} {world after : ω}
    (held : holds world)
    (emitted : reaction.emit observers sink emission world = some after) : holds after := by
  cases emission with
  | fault fault =>
      cases emitted
      exact keeps.reportTo held
  | packet stream packet =>
      cases found : observers.find? stream with
      | none =>
          simp only [Reaction.emit, found, Option.some.injEq] at emitted
          exact emitted ▸ held
      | some observer =>
          simp only [Reaction.emit, found, Option.map_eq_some_iff] at emitted
          obtain ⟨⟨answer, middle⟩, delivered, rfl⟩ := emitted
          have kept := keeps.deliver held delivered
          cases answer with
          | ok done => exact kept
          | error status => exact keeps.reportTo kept

theorem Keeps.emitAll (keeps : reaction.Keeps holds) {emissions : List Emission} {world : ω}
    (held : holds world) : holds (reaction.emitAll observers sink emissions world).2 := by
  induction emissions generalizing world with
  | nil => exact held
  | cons emission rest ih =>
      rw [Reaction.emitAll]
      cases emitted : reaction.emit observers sink emission world with
      | none => exact held
      | some after => exact ih (keeps.emit held emitted)

theorem emitAll_stops {emissions rest : List Emission} {emission : Emission} {world : ω}
    (left : (reaction.emitAll observers sink emissions world).1 = emission :: rest) :
    reaction.emit observers sink emission
      (reaction.emitAll observers sink emissions world).2 = none := by
  induction emissions generalizing world with
  | nil => contradiction
  | cons first others ih =>
      rw [Reaction.emitAll] at left ⊢
      cases emitted : reaction.emit observers sink first world with
      | none =>
          rw [emitted] at left
          cases left
          exact emitted
      | some after =>
          rw [emitted] at left
          exact ih left

end Reaction

namespace Worker

variable {reaction : Reaction η φ ω} {change : ω → ω} {holds : ω → Prop}

theorem workOff_ignored (ignores : reaction.Ignores change) (worker : Worker η φ)
    (current : List Emission) (index : Nat) (waiting : List StampedFrame) (world : ω) :
    worker.workOff reaction current index waiting (change world) =
      ((worker.workOff reaction current index waiting world).1,
        change (worker.workOff reaction current index waiting world).2) := by
  induction waiting generalizing current index world with
  | nil => simp only [workOff, ignores.emitAll]
  | cons input rest ih =>
      simp only [workOff, ignores.emitAll]
      cases emitted : reaction.emitAll worker.observers worker.sink current world with
      | mk left after =>
          cases left with
          | nil => exact ih _ _ after
          | cons emission others => rfl

theorem advance_ignored (ignores : reaction.Ignores change) (worker : Worker η φ) (world : ω) :
    worker.advance reaction (change world) =
      ((worker.advance reaction world).1, change (worker.advance reaction world).2) := by
  simp only [advance, workOff_ignored ignores]

theorem workOff_keeps (keeps : reaction.Keeps holds) (worker : Worker η φ)
    {current : List Emission} {index : Nat} {waiting : List StampedFrame} {world : ω}
    (held : holds world) :
    holds (worker.workOff reaction current index waiting world).2 := by
  induction waiting generalizing current index world with
  | nil => exact keeps.emitAll held
  | cons input rest ih =>
      have kept : holds (reaction.emitAll worker.observers worker.sink current world).2 :=
        keeps.emitAll held
      rw [workOff]
      cases emitted : reaction.emitAll worker.observers worker.sink current world with
      | mk left after =>
          rw [emitted] at kept
          cases left with
          | nil => exact ih kept
          | cons emission others => exact kept

def IsHeld (reaction : Reaction η φ ω) (worker : Worker η φ) (world : ω) : Prop :=
  ∃ emission rest, worker.current = emission :: rest ∧
    reaction.emit worker.observers worker.sink emission world = none

theorem workOff_rests (worker : Worker η φ) (current : List Emission) (index : Nat)
    (waiting : List StampedFrame) (world : ω) :
    let worked := worker.workOff reaction current index waiting world
    (worked.1.1 = [] ∧ worked.1.2.2 = []) ∨
      ∃ emission rest, worked.1.1 = emission :: rest ∧
        reaction.emit worker.observers worker.sink emission worked.2 = none := by
  induction waiting generalizing current index world with
  | nil =>
      simp only [workOff]
      cases left : (reaction.emitAll worker.observers worker.sink current world).1 with
      | nil => exact .inl ⟨rfl, trivial⟩
      | cons emission rest => exact .inr ⟨emission, rest, rfl, Reaction.emitAll_stops left⟩
  | cons input others ih =>
      have stops := @Reaction.emitAll_stops _ _ _ reaction worker.observers worker.sink current
      simp only [workOff]
      cases emitted : reaction.emitAll worker.observers worker.sink current world with
      | mk left after =>
          cases left with
          | nil => exact ih _ _ after
          | cons emission rest =>
              -- A frame that is not finished keeps all frames behind it waiting.
              have waits := @stops rest emission world (by rw [emitted])
              rw [emitted] at waits
              exact .inr ⟨emission, rest, rfl, waits⟩

theorem advance_rests (worker : Worker η φ) (world : ω) :
    (worker.advance reaction world).1.isIdle = true ∨
      (worker.advance reaction world).1.IsHeld reaction (worker.advance reaction world).2 := by
  have rests :=
    @workOff_rests _ _ _ reaction worker worker.current worker.index worker.waiting world
  rcases rests with ⟨current, waiting⟩ | held
  · exact .inl (by simp [advance, isIdle, current, waiting])
  · exact .inr held

end Worker

namespace ScriptedEngine

variable {reaction : Reaction η φ ω} {change : ω → ω} {holds : ω → Prop}

theorem advance_ignored (ignores : reaction.Ignores change) (engine : ScriptedEngine η φ)
    (world : ω) :
    engine.advance reaction (change world) =
      ((engine.advance reaction world).1, change (engine.advance reaction world).2) := by
  cases found : engine.worker with
  | none => simp only [advance, found]
  | some worker =>
      simp only [advance, found, Worker.advance_ignored ignores]
      split <;> rfl

theorem advance_keeps (keeps : reaction.Keeps holds) (engine : ScriptedEngine η φ) {world : ω}
    (held : holds world) : holds (engine.advance reaction world).2 := by
  cases found : engine.worker with
  | none => simpa only [advance, found] using held
  | some worker =>
      have kept : holds (worker.advance reaction world).2 := Worker.workOff_keeps keeps worker held
      simp only [advance, found]
      split <;> exact kept

/-- A worker that is left has nothing to do but to wait, for an observer or for frames. -/
theorem advance_rests {engine : ScriptedEngine η φ} {world : ω} {worker : Worker η φ}
    (left : (engine.advance reaction world).1.worker = some worker) :
    worker.IsHeld reaction (engine.advance reaction world).2 ∨
      (worker.isIdle = true ∧ engine.isInputOpen = true) := by
  cases found : engine.worker with
  | none => simp [advance, found] at left
  | some begun =>
      have rests := @Worker.advance_rests _ _ _ reaction begun world
      simp only [advance, found] at left ⊢
      split at left
      · contradiction
      · rename_i goesOn
        cases left
        simp only [if_neg goesOn]
        rcases rests with idle | held
        · exact .inr ⟨idle, by simpa [idle] using goesOn⟩
        · exact .inl held

end ScriptedEngine

end FrameFlow
