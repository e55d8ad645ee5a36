import FrameFlow.Proofs.Session.Outstanding

/-!
Sessions whose engine has gone on as far as it can. A feed returns once there is room in the input
queue of the engine, so it may have to wait where frames are not begun; an engine that is not held
up itself keeps nobody waiting.
-/

namespace FrameFlow

theorem SessionEngine.HoldsUp.of_channels {worker : Worker Binding Unit} {outlets after : Outlets}
    (held : HoldsUp worker outlets) (same : after.channels = outlets.channels) :
    HoldsUp worker after := by
  obtain ⟨stream, packet, rest, channel, queue, current, found, present, waits⟩ := held
  exact ⟨stream, packet, rest, channel, queue, current, found, same ▸ present, waits⟩

namespace Session

variable {session next : Session SessionEngine}

/-- The engine waits for room in a full queue, or has nothing to do and waits for frames. -/
def Rests (session : Session SessionEngine) : Prop :=
  ∀ worker, session.engine.worker = some worker →
    SessionEngine.HoldsUp worker session.outlets ∨
      worker.isIdle = true ∧ session.engine.isInputOpen = true

theorem rests_settle (session : Session SessionEngine) : session.settle.Rests := by
  intro worker left
  rcases ScriptedEngine.advance_rests left with held | ⟨idle, opened⟩
  · exact .inl (SessionEngine.holdsUp_of_isHeld held)
  · exact .inr ⟨idle, (ScriptedEngine.isInputOpen_advance ..).trans opened⟩

theorem Polled.rests (polled : session.Polled next) : next.Rests := by
  cases polled with
  | once eased => exact rests_settle _
  | again before eased => exact rests_settle _

theorem Rests.withOutlets (rests : session.Rests) {outlets : Outlets}
    (same : outlets.channels = session.outlets.channels) : Rests { session with outlets } :=
  fun worker found => (rests worker found).imp_left (·.of_channels same)

/-- An engine at rest stays as it is. -/
theorem Rests.settle_eq (rests : session.Rests) : session.settle = session := by
  cases found : session.engine.worker with
  | none => exact settle_eq_of_idle found
  | some worker =>
      rcases rests worker found with held | ⟨idle, opened⟩
      · exact IsHeldUp.settle_eq ⟨worker, found, held⟩
      · have still : GraphEngine.advance session.engine session.outlets =
            (session.engine, session.outlets) :=
          ScriptedEngine.advance_of_idle found idle opened session.outlets
        simp only [settle, still]

end Session

end FrameFlow
