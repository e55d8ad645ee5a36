import FrameFlow.Proofs.Engine.Calls
import FrameFlow.Session.Basic
import FrameFlow.Session.Unreliable

/-!
Engines that stand before a scripted one and may let calls fail. Whatever fails, what a
session's larger steps do to the engine behind is known: launching starts a run or at most
leaves observers there, reloading clears them, and ending a run ends it.
-/

namespace FrameFlow

def Call.mayFail : Call η → Bool
  | .load _ | .cancel => false
  | _ => true

def GraphEngine.perform [GraphEngine ε] (engine : ε) : Call Binding → Except Status Unit × ε
  | .load text => GraphEngine.load text engine
  | .observe stream binding => GraphEngine.observe stream binding engine
  | .start => GraphEngine.start engine
  | .addPacket stream input => GraphEngine.addPacket stream input engine
  | .closeInput stream => GraphEngine.closeInput stream engine
  | .waitUntilDone => GraphEngine.waitUntilDone engine
  | .cancel => GraphEngine.cancel engine

theorem SessionEngine.perform_eq (engine : SessionEngine) (call : Call Binding) :
    GraphEngine.perform engine call = answer engine (ScriptedEngine.perform engine call) := by
  cases call <;> rfl

/-- How an engine in front answered a call, seen from the engine behind: the call reached
it, or it failed before. -/
inductive Passage (call : Call Binding) (behind : SessionEngine) :
    Except Status Unit → SessionEngine → Prop
  | reached : Passage call behind (GraphEngine.perform behind call).1
      (GraphEngine.perform behind call).2
  | withheld (status : Status) : call.mayFail = true →
      Passage call behind (.error status) behind

/-- An engine before a scripted one. As long as the engine is in order, graphs are loaded
and runs are cancelled behind it, and every other call gets there or fails. -/
class FrontEngine (ε : Type) extends GraphEngine ε where
  behind : ε → SessionEngine
  IsSound : ε → Prop
  perform_passage : ∀ {engine : ε} (call : Call Binding), IsSound engine →
    Passage call (behind engine) (GraphEngine.perform engine call).1
      (behind (GraphEngine.perform engine call).2)
  perform_sound : ∀ {engine : ε} (call : Call Binding), IsSound engine →
    IsSound (GraphEngine.perform engine call).2
  connectFaults_sound : ∀ {engine : ε}, IsSound engine →
    IsSound (GraphEngine.connectFaults engine)
  behind_connectFaults : ∀ engine : ε,
    behind (GraphEngine.connectFaults engine) = GraphEngine.connectFaults (behind engine)
  hasInput_behind : ∀ (stream : String) (engine : ε),
    GraphEngine.hasInput stream engine = GraphEngine.hasInput stream (behind engine)
  advance_sound : ∀ {engine : ε} (outlets : Outlets), IsSound engine →
    IsSound (GraphEngine.advance engine outlets).1
  behind_advance : ∀ (engine : ε) (outlets : Outlets),
    behind (GraphEngine.advance engine outlets).1 =
      (GraphEngine.advance (behind engine) outlets).1
  advance_outlets : ∀ (engine : ε) (outlets : Outlets),
    (GraphEngine.advance engine outlets).2 =
      (GraphEngine.advance (behind engine) outlets).2
  holds_behind : ∀ (channel : ChannelId) (engine : ε),
    GraphEngine.holds channel engine = GraphEngine.holds channel (behind engine)

instance : FrontEngine SessionEngine where
  behind engine := engine
  IsSound _ := True
  perform_passage _ _ := .reached
  perform_sound _ _ := trivial
  connectFaults_sound _ := trivial
  behind_connectFaults _ := rfl
  hasInput_behind _ _ := rfl
  advance_sound _ _ := trivial
  behind_advance _ _ := rfl
  advance_outlets _ _ := rfl
  holds_behind _ _ := rfl

/-- A plan under which graphs are always loaded and runs always cancelled. -/
def FailurePlan.SparesCleanup (plan : FailurePlan) : Prop :=
  ∀ number, plan .load number = none ∧ plan .cancel number = none

namespace UnreliableEngine

variable {unreliable : UnreliableEngine SessionEngine}

def kind : Call Binding → EngineCall
  | .load _ => .load
  | .observe _ _ => .observe
  | .start => .start
  | .addPacket _ _ => .addPacket
  | .closeInput _ => .closeInput
  | .waitUntilDone => .waitUntilDone
  | .cancel => .cancel

theorem perform_eq (call : Call Binding) :
    GraphEngine.perform unreliable call =
      unreliable.attempt (kind call) (GraphEngine.perform · call) := by
  cases call <;> rfl

theorem attempt_plan (call : EngineCall)
    (forward : SessionEngine → Except Status Unit × SessionEngine) :
    (unreliable.attempt call forward).2.plan = unreliable.plan := by
  unfold attempt
  simp only
  split <;> rfl

theorem perform_passage (call : Call Binding) (spared : unreliable.plan.SparesCleanup) :
    Passage call unreliable.engine (GraphEngine.perform unreliable call).1
      (GraphEngine.perform unreliable call).2.engine := by
  rw [perform_eq]
  cases planned : unreliable.plan (kind call)
      ((unreliable.calls.bump (kind call)).count (kind call)) with
  | none =>
      simp only [attempt, planned]
      exact .reached
  | some status =>
      have failing : call.mayFail = true := by
        cases call with
        | load text => exact nomatch (spared _).1.symm.trans planned
        | cancel => exact nomatch (spared _).2.symm.trans planned
        | _ => rfl
      simp only [attempt, planned]
      exact .withheld status failing

instance : FrontEngine (UnreliableEngine SessionEngine) where
  behind unreliable := unreliable.engine
  IsSound unreliable := unreliable.plan.SparesCleanup
  perform_passage call spared := perform_passage call spared
  perform_sound call spared := by rwa [perform_eq, attempt_plan]
  connectFaults_sound spared := spared
  behind_connectFaults _ := rfl
  hasInput_behind _ _ := rfl
  advance_sound _ spared := spared
  behind_advance _ _ := rfl
  advance_outlets _ _ := rfl
  holds_behind _ _ := rfl

end UnreliableEngine

namespace Passage

variable {call : Call Binding} {behind after : SessionEngine} {result : Except Status Unit}

theorem after_error {status : Status}
    (passage : Passage call behind (.error status) after) : after = behind := by
  generalize same : Except.error status = result at passage
  cases passage with
  | reached =>
      rw [SessionEngine.perform_eq] at same ⊢
      cases performed : ScriptedEngine.perform behind call with
      | error refusal => rfl
      | ok next => simp [performed, SessionEngine.answer] at same
  | withheld => rfl

theorem after_ok (passage : Passage call behind (.ok ()) after) :
    ScriptedEngine.perform behind call = .ok after := by
  generalize same : Except.ok () = result at passage
  cases passage with
  | reached =>
      rw [SessionEngine.perform_eq] at same ⊢
      cases performed : ScriptedEngine.perform behind call with
      | error refusal => simp [performed, SessionEngine.answer] at same
      | ok next => rfl
  | withheld => contradiction

theorem of_spared {next : SessionEngine} (spared : call.mayFail = false)
    (performed : ScriptedEngine.perform behind call = .ok next)
    (passage : Passage call behind result after) : result = .ok () ∧ after = next := by
  cases passage with
  | reached =>
      rw [SessionEngine.perform_eq, performed]
      exact ⟨rfl, rfl⟩
  | withheld status failing => simp [spared] at failing

end Passage

namespace FrontEngine

open GraphEngine

variable {ε : Type} [FrontEngine ε] {engine next : ε}

theorem behind_of_error {status : Status} (call : Call Binding) (sound : IsSound engine)
    (answered : perform engine call = (.error status, next)) :
    IsSound next ∧ behind next = behind engine := by
  have passage := perform_passage call sound
  have nextSound := perform_sound call sound
  rw [answered] at passage nextSound
  exact ⟨nextSound, passage.after_error⟩

theorem behind_of_ok (call : Call Binding) (sound : IsSound engine)
    (answered : perform engine call = (.ok (), next)) :
    IsSound next ∧ ScriptedEngine.perform (behind engine) call = .ok (behind next) := by
  have passage := perform_passage call sound
  have nextSound := perform_sound call sound
  rw [answered] at passage nextSound
  exact ⟨nextSound, passage.after_ok⟩

theorem perform_of_spared {after : SessionEngine} (call : Call Binding)
    (sound : IsSound engine) (spared : call.mayFail = false)
    (performed : ScriptedEngine.perform (behind engine) call = .ok after) :
    (perform engine call).1 = .ok () ∧ IsSound (perform engine call).2 ∧
      behind (perform engine call).2 = after := by
  obtain ⟨done, same⟩ := (perform_passage call sound).of_spared spared performed
  exact ⟨done, perform_sound call sound, same⟩

theorem behind_advance_eq (engine : ε) (outlets : Outlets) :
    behind (advance engine outlets).1 =
      { behind engine with worker := (behind (advance engine outlets).1).worker } := by
  rw [behind_advance]
  exact ScriptedEngine.advance_eq SessionEngine.reaction (behind engine) outlets

theorem load_spec (text : String) (sound : IsSound engine) :
    IsSound (load text engine).2 ∧
      ∃ graph observers,
        behind (load text engine).2 = { behind engine with graph, observers } ∧
          ((behind engine).observers = .empty → observers = .empty) := by
  cases loaded : load text engine with
  | mk result next =>
      cases result with
      | error status =>
          obtain ⟨nextSound, same⟩ := behind_of_error (.load text) sound loaded
          exact ⟨nextSound, _, _, same, id⟩
      | ok done =>
          obtain ⟨nextSound, performed⟩ := behind_of_ok (.load text) sound loaded
          obtain ⟨_, graph, _, same⟩ := ScriptedEngine.load_eq_ok_iff.mp performed
          exact ⟨nextSound, _, _, same, fun _ => rfl⟩

theorem install_spec (entries : List (String × Binding)) (sound : IsSound engine) :
    IsSound (Session.install entries engine).2 ∧
      ∃ observers, behind (Session.install entries engine).2 =
        { behind engine with observers } := by
  induction entries generalizing engine with
  | nil => exact ⟨sound, _, rfl⟩
  | cons entry rest ih =>
      obtain ⟨stream, binding⟩ := entry
      cases answered : observe stream binding engine with
      | mk result next =>
          cases result with
          | error status =>
              have refused := behind_of_error (.observe stream binding) sound answered
              simp only [Session.install, answered]
              exact ⟨refused.1, _, refused.2⟩
          | ok done =>
              obtain ⟨nextSound, performed⟩ :=
                behind_of_ok (.observe stream binding) sound answered
              obtain ⟨_, _, _, _, observed⟩ := ScriptedEngine.observe_eq_ok_iff.mp performed
              obtain ⟨installedSound, observers, installed⟩ := ih nextSound
              simp only [Session.install, answered]
              exact ⟨installedSound, observers, by rw [installed, observed]⟩

/-- A launch that is answered well starts a run on the loaded graph; one that is refused
leaves at most observers. -/
theorem launch_spec (bindings : BindingTable) (sound : IsSound engine) :
    IsSound (Session.launch bindings engine).2 ∧
      match (Session.launch bindings engine).1 with
      | .error _ => ∃ observers, behind (Session.launch bindings engine).2 =
          { behind engine with observers }
      | .ok () => (behind engine).run = none ∧
          ∃ graph observers, (behind engine).graph = some graph ∧
            behind (Session.launch bindings engine).2 = { behind engine with
              observers := .empty
              run := some {}
              worker := some { graph, observers, sink := (behind engine).sink } } := by
  obtain ⟨installedSound, observers, installed⟩ :=
    install_spec bindings.bindings.entries sound
  unfold Session.launch
  cases answered : Session.install bindings.bindings.entries engine with
  | mk result middle =>
      rw [answered] at installedSound installed
      cases result with
      | error status => exact ⟨installedSound, observers, installed⟩
      | ok done =>
          simp only
          cases started : start middle with
          | mk result next =>
              cases result with
              | error status =>
                  obtain ⟨nextSound, same⟩ := behind_of_error .start installedSound started
                  exact ⟨nextSound, observers, same.trans installed⟩
              | ok done =>
                  obtain ⟨nextSound, performed⟩ := behind_of_ok .start installedSound started
                  obtain ⟨resting, graph, loaded, same⟩ :=
                    ScriptedEngine.start_eq_ok_iff.mp performed
                  rw [installed] at resting loaded same
                  exact ⟨nextSound, resting, graph, observers, loaded, same⟩

theorem reload_spec {text : String} {graph : Graph} (sound : IsSound engine)
    (resting : (behind engine).run = none) (parsed : Graph.parse text = .ok graph) :
    IsSound (Session.reload (some text) engine) ∧
      behind (Session.reload (some text) engine) =
        { behind engine with graph := some graph, observers := .empty } :=
  (perform_of_spared (.load text) sound rfl
    (ScriptedEngine.load_eq_ok_iff.mpr ⟨resting, graph, parsed, rfl⟩)).2

theorem cancel_spec (sound : IsSound engine) :
    IsSound (cancel engine).2 ∧ ∃ worker, behind (cancel engine).2 =
      { behind engine with run := none, worker } := by
  obtain ⟨_, cancelledSound, same⟩ := perform_of_spared .cancel sound rfl rfl
  refine ⟨cancelledSound, ?_⟩
  change behind (cancel engine).2 = (behind engine).cancel at same
  rw [same]
  cases running : (behind engine).run with
  | none =>
      refine ⟨(behind engine).worker, ?_⟩
      simp only [ScriptedEngine.cancel, running]
      rw [← running]
  | some run => exact ⟨_, by simp only [ScriptedEngine.cancel, running]; rfl⟩

theorem cancelled_spec (outlets : Outlets) (sound : IsSound engine) :
    IsSound (advance (cancel engine).2 outlets).1 ∧
      ∃ worker, behind (advance (cancel engine).2 outlets).1 =
        { behind engine with run := none, worker } := by
  obtain ⟨cancelledSound, _, cancelled⟩ := cancel_spec sound
  exact ⟨advance_sound outlets cancelledSound, _,
    (behind_advance_eq ..).trans (by rw [cancelled])⟩

/-- However the calls that drain a run are answered, the run is over. -/
theorem endRun_spec (inputStream : String) (outlets : Outlets) (sound : IsSound engine) :
    IsSound (Session.endRun inputStream engine outlets).1 ∧
      ∃ worker, behind (Session.endRun inputStream engine outlets).1 =
        { behind engine with run := none, worker } := by
  unfold Session.endRun
  -- A run ends well, or it is cancelled because of its input or because of the wait.
  cases closed : closeInput inputStream engine with
  | mk result middle =>
      cases result with
      | error status =>
          obtain ⟨middleSound, same⟩ :=
            behind_of_error (.closeInput inputStream) sound closed
          simpa only [same] using cancelled_spec outlets middleSound
      | ok done =>
          obtain ⟨middleSound, performed⟩ :=
            behind_of_ok (.closeInput inputStream) sound closed
          obtain ⟨run, _, closedBehind⟩ := ScriptedEngine.closeInput_eq_ok_iff.mp performed
          have workedSound := advance_sound outlets middleSound
          have worked := behind_advance_eq middle outlets
          simp only
          cases awaited : waitUntilDone (advance middle outlets).1 with
          | mk result last =>
              cases result with
              | error status =>
                  obtain ⟨lastSound, same⟩ :=
                    behind_of_error .waitUntilDone workedSound awaited
                  obtain ⟨endSound, worker, ended⟩ :=
                    cancelled_spec (advance middle outlets).2 lastSound
                  exact ⟨endSound, worker, by rw [ended, same, worked, closedBehind]⟩
              | ok done =>
                  obtain ⟨lastSound, performed⟩ :=
                    behind_of_ok .waitUntilDone workedSound awaited
                  obtain ⟨_, same⟩ := ScriptedEngine.waitUntilDone_eq_ok_iff.mp performed
                  exact ⟨advance_sound _ lastSound, _,
                    (behind_advance_eq ..).trans (by rw [same, worked, closedBehind])⟩

end FrontEngine

end FrameFlow
