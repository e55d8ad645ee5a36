import FrameFlow.Proofs.Engine.Arrivals
import FrameFlow.Proofs.Session.Agreement
import FrameFlow.Proofs.Session.Gating
import FrameFlow.Proofs.Session.Settling

/-!
A session in use: frames are fed, outputs are polled and the session is stopped, in any order.
What holds while the engine takes frames and works holds after any feeds and stops.
-/

namespace FrameFlow

namespace Session

variable {session : Session SessionEngine}

/-- A run that ends is worked off twice: once its input is closed, and once it was waited
for. -/
theorem Agrees.endRun_eq (agrees : session.Agrees session.engine)
    (running : session.state = .running) :
    ∃ run, endRun session.config.inputStream session.engine session.outlets =
      let worked := ScriptedEngine.advance SessionEngine.reaction
        { session.engine with run := some run } session.outlets
      ScriptedEngine.advance SessionEngine.reaction { worked.1 with run := none } worked.2 := by
  obtain ⟨run, close, ended⟩ := agrees.calls_of_drain running
  refine ⟨run, ?_⟩
  simp only [endRun, close, ended]
  rfl

theorem works_settle (coupled : session.settle.Coupled) (running : session.state = .running)
    (works : session.engine.worker.isSome = true) :
    session.settle.engine.worker.isSome = true := by
  obtain ⟨worker, found⟩ := Option.isSome_iff_exists.mp works
  refine ScriptedEngine.advance_works found ?_ session.outlets
  obtain ⟨run, begun⟩ := Option.isSome_iff_exists.mp (coupled.agrees.running.mp running)
  have same : session.settle.engine.run = session.engine.run := ScriptedEngine.advance_run ..
  rw [ScriptedEngine.isInputOpen, ← same]
  change session.settle.engine.run = some run at begun
  rw [begun]
  exact (coupled.agrees.run run begun).1

end Session

/-- What a caller does with a session that runs, and with a poller of it. -/
inductive Use where
  | feed (input : StampedFrame)
  | poll
  | stop

/-- A session in use, with the frames that it took and the answers of its poller. -/
structure Service where
  session : Session SessionEngine
  poller : OutputPoller
  frames : List StampedFrame := []
  answers : List (Except SessionError (PollResult Observation)) := []

namespace Service

def use (service : Service) : Use → Service
  | .feed input =>
      match service.session.feedAt input with
      | (.ok (), session) => { service with session, frames := service.frames ++ [input] }
      | (.error _, session) => { service with session }
  | .poll =>
      let (answer, poller, session) := service.session.poll service.poller
      { service with session, poller, answers := service.answers ++ [answer] }
  | .stop => { service with session := service.session.stop }

def after (service : Service) (uses : List Use) : Service := uses.foldl use service

/-- Answers that say something. -/
def heard (service : Service) : List (Except SessionError (PollResult Observation)) :=
  service.answers.filter (!saysNothing ·)

theorem exists_perform (service : Service) (use : Use) :
    ∃ action, (service.use use).session = (service.session.perform action).2 := by
  cases use with
  | feed input =>
      refine ⟨.feedAt input, ?_⟩
      rw [Session.perform, Session.answered_snd]
      simp only [Service.use]
      split <;> (rename_i fed; rw [fed])
  | poll => exact ⟨.poll service.poller, rfl⟩
  | stop => exact ⟨.stop, rfl⟩

theorem config_after (service : Service) (uses : List Use) :
    (service.after uses).session.config = service.session.config := by
  induction uses generalizing service with
  | nil => rfl
  | cons use rest ih =>
      obtain ⟨action, same⟩ := service.exists_perform use
      have step := (service.session.perform_step action).config
      exact (ih (service.use use)).trans (same ▸ step)

variable {service : Service}

/-- A frame is rejected and counted, or the engine takes it and is run. -/
theorem use_feed (coupled : service.session.Coupled) (input : StampedFrame) :
    (∃ error, service.use (.feed input) =
        { service with session := (service.session.reject error).2 }) ∨
      service.session.state = .running ∧
        (∀ previous, service.session.lifecycle.lastTimestamp = some previous →
          previous < input.timestamp) ∧
        ∃ run, service.use (.feed input) = { service with
          session := Session.settle { service.session with
            engine := service.session.engine.accept run input
            lifecycle := service.session.lifecycle.accepted input.timestamp
            outlets := service.session.outlets.countFed }
          frames := service.frames ++ [input] } := by
  cases checked : service.session.lifecycle.checkStamp input.timestamp with
  | error error =>
      have rejected : service.session.feedAt input = service.session.reject error := by
        simp only [Session.feedAt, checked]
      exact .inl ⟨error, by simp only [use, rejected, Session.reject]⟩
  | ok done =>
      obtain ⟨running, later⟩ := Lifecycle.checkStamp_eq_ok_iff.mp checked
      obtain ⟨run, fed⟩ := coupled.agrees.feedAt_of_checked running checked
      exact .inr ⟨running, later, run, by simp only [use, fed]⟩

/-- A stop lets an engine that runs work off what it has, and leaves another one alone. -/
theorem use_stop (coupled : service.session.Coupled) :
    let stopped := (service.use .stop).session
    stopped.state ≠ .running ∧
      ((stopped.engine, stopped.outlets) = (service.session.engine, service.session.outlets) ∨
        ∃ run worked,
          worked = ScriptedEngine.advance SessionEngine.reaction
            { service.session.engine with run := some run } service.session.outlets ∧
          (stopped.engine, stopped.outlets) = ScriptedEngine.advance SessionEngine.reaction
            { worked.1 with run := none } worked.2) := by
  simp only [use, Session.stop]
  cases state : service.session.state with
  | running =>
      obtain ⟨run, ended⟩ := coupled.agrees.endRun_eq state
      exact ⟨by simp [Session.state, Lifecycle.stopped], .inr ⟨run, _, rfl, ended⟩⟩
  | configured => exact ⟨by simp [Session.state, Lifecycle.stopped], .inl rfl⟩
  | _ => exact ⟨by rw [state]; decide, .inl rfl⟩

/-- A session that runs has a worker. -/
def Works (service : Service) : Prop :=
  service.session.state = .running → service.session.engine.worker.isSome = true

theorem Works.use (works : service.Works) (coupled : service.session.Coupled) {use : Use}
    (next : (service.use use).session.Coupled) : (service.use use).Works := by
  cases use with
  | feed input =>
      rcases use_feed coupled input with ⟨error, same⟩ | ⟨running, _, run, same⟩
      · rw [same]
        exact works
      · rw [same] at next ⊢
        exact fun running => Session.works_settle next running
          ((Option.isSome_map ..).trans (works running))
  | poll => exact fun running => Session.works_settle next running (works running)
  | stop => exact fun running => absurd running (use_stop coupled).1

/-- What goes on holding of the frames that a session took, of its engine and its outlets when
the engine takes frames and works. -/
structure Lasting (holds : List StampedFrame → SessionEngine → Outlets → Prop) : Prop where
  counted : ∀ {frames engine outlets}, holds frames engine outlets →
    ∀ metrics, holds frames engine { outlets with metrics }
  withRun : ∀ {frames engine outlets}, holds frames engine outlets →
    ∀ run, holds frames { engine with run } outlets
  accept : ∀ {frames engine outlets}, holds frames engine outlets →
    engine.worker.isSome = true → ∀ run input,
      holds (frames ++ [input]) (engine.accept run input) outlets
  advance : ∀ {frames engine outlets}, holds frames engine outlets →
    let worked := engine.advance SessionEngine.reaction outlets
    holds frames worked.1 worked.2

/-- Something holds of the frames, the engine and the outlets of a session in use. -/
def Upholds (holds : List StampedFrame → SessionEngine → Outlets → Prop) (service : Service) :
    Prop :=
  holds service.frames service.session.engine service.session.outlets

variable {holds : List StampedFrame → SessionEngine → Outlets → Prop}

theorem Lasting.feed (lasting : Lasting holds) (coupled : service.session.Coupled)
    (works : service.Works) (upholds : service.Upholds holds) (input : StampedFrame) :
    (service.use (.feed input)).Upholds holds := by
  rcases use_feed coupled input with ⟨error, same⟩ | ⟨running, _, run, same⟩
  · rw [same]
    exact lasting.counted upholds _
  · rw [same]
    exact lasting.advance (lasting.counted (lasting.accept upholds (works running) run input) _)

theorem Lasting.stop (lasting : Lasting holds) (coupled : service.session.Coupled)
    (upholds : service.Upholds holds) : (service.use .stop).Upholds holds := by
  have frames : (service.use .stop).frames = service.frames := rfl
  rcases (use_stop coupled).2 with same | ⟨run, worked, rfl, same⟩
  all_goals
    obtain ⟨engine, outlets⟩ := Prod.mk.inj same
    rw [Upholds, frames, engine, outlets]
  · exact upholds
  · exact lasting.advance (lasting.withRun (lasting.advance (lasting.withRun upholds _)) _)

/-- What every use preserves holds after any uses. -/
theorem after_of_use {holds : Service → Prop} (coupled : service.session.Coupled)
    (settled : service.session.Settled) (first : holds service)
    (each : ∀ {service : Service}, holds service → service.session.Coupled →
      ∀ {use}, (service.use use).session.Coupled → holds (service.use use))
    (uses : List Use) :
    (service.after uses).session.Coupled ∧ (service.after uses).session.Settled ∧
      holds (service.after uses) := by
  induction uses generalizing service with
  | nil => exact ⟨coupled, settled, first⟩
  | cons use rest ih =>
      obtain ⟨action, same⟩ := service.exists_perform use
      have step := service.session.perform_step action
      have next : (service.use use).session.Coupled := same ▸ coupled.step step
      exact ih next (same ▸ settled.step coupled step) (each first coupled next)

end Service

end FrameFlow
