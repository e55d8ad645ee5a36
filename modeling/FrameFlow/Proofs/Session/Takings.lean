import FrameFlow.Proofs.Session.Conversation
import FrameFlow.Proofs.Session.Steps

/-!
The frames that an engine takes while its session performs an action. They are those of the
calls that the engine answers well, and there is one such call at most, for a frame that is fed.
-/

namespace FrameFlow

/-- The frame of a call that was answered well. -/
def Exchange.taken? {ε : Type} : Exchange ε → Option StampedFrame
  | .called (.addPacket _ input) (.ok ()) _ => some input
  | _ => none

namespace WatchedEngine

variable {ε : Type} [GraphEngine ε] {watched : WatchedEngine ε}

omit [GraphEngine ε] in
/-- The frames that an engine has taken so far. -/
def taken (watched : WatchedEngine ε) : List StampedFrame :=
  watched.exchanges.filterMap Exchange.taken?

theorem taken_exchange (call : Call Binding) {answer : Except Status Unit}
    {next : WatchedEngine ε} (answered : watched.exchange call = (answer, next))
    (other : ∀ engine : ε, (Exchange.called call answer engine).taken? = none) :
    next.taken = watched.taken := by
  cases answered
  rw [taken, List.filterMap_append, List.filterMap_cons, other]
  exact List.append_nil _

theorem taken_install (entries : List (String × Binding)) :
    (Session.install entries watched).2.taken = watched.taken := by
  induction entries generalizing watched with
  | nil => rfl
  | cons entry rest ih =>
      obtain ⟨stream, binding⟩ := entry
      rw [Session.install]
      cases observed : GraphEngine.observe stream binding watched with
      | mk answer next =>
          have same := taken_exchange (.observe stream binding) observed fun _ => rfl
          cases answer with
          | error status => exact same
          | ok done => exact ih.trans same

theorem taken_launch (bindings : BindingTable) :
    (Session.launch bindings watched).2.taken = watched.taken := by
  have before := @taken_install ε _ watched bindings.bindings.entries
  rw [Session.launch]
  cases installed : Session.install bindings.bindings.entries watched with
  | mk answer next =>
      rw [installed] at before
      cases answer with
      | error status => exact before
      | ok done =>
          cases started : GraphEngine.start next with
          | mk answer last =>
              have same := taken_exchange .start started fun _ => rfl
              exact (congrArg (fun pair => pair.2.taken) started).trans (same.trans before)

theorem taken_reload (graph : Option String) :
    (Session.reload graph watched).taken = watched.taken := by
  cases graph with
  | none => rfl
  | some text =>
      cases loaded : GraphEngine.load text watched with
      | mk answer next =>
          have same := taken_exchange (.load text) loaded fun _ => rfl
          exact (congrArg (fun pair => pair.2.taken) loaded).trans same

theorem taken_advance (outlets : Outlets) :
    (GraphEngine.advance watched outlets).1.taken = watched.taken := rfl

theorem taken_cancel (outlets : Outlets) :
    (GraphEngine.advance (GraphEngine.cancel watched).2 outlets).1.taken = watched.taken :=
  @taken_exchange ε _ watched .cancel _ (GraphEngine.cancel watched).2 rfl fun _ => rfl

theorem taken_endRun (inputStream : String) (outlets : Outlets) :
    (Session.endRun inputStream watched outlets).1.taken = watched.taken := by
  rw [Session.endRun]
  cases closed : GraphEngine.closeInput inputStream watched with
  | mk answer middle =>
      have first := taken_exchange (.closeInput inputStream) closed fun _ => rfl
      cases answer with
      | error status => exact (taken_cancel outlets).trans first
      | ok done =>
          simp only
          cases awaited :
              GraphEngine.waitUntilDone (GraphEngine.advance middle outlets).1 with
          | mk answer last =>
              have second := taken_exchange .waitUntilDone awaited fun _ => rfl
              have same := second.trans ((taken_advance outlets).trans first)
              cases answer with
              | error status => exact (taken_cancel _).trans same
              | ok done => exact same

end WatchedEngine

namespace Session

variable {ε : Type} [GraphEngine ε]

omit [GraphEngine ε] in
def watched (session : Session ε) : Session (WatchedEngine ε) :=
  { session with engine := { engine := session.engine } }

/-- The frames that the engine takes while an action is performed. -/
def taken (session : Session ε) (action : Action) : List StampedFrame :=
  (session.watched.perform action).2.engine.taken

def feeds : Action → Bool
  | .feed _ _ | .feedAt _ => true
  | _ => false

theorem stampsAfter_of_not_feeds {action : Action} {answer : Answer}
    (other : feeds action = false) : stampsAfter [] (action, answer) = [] := by
  cases action with
  | feed frame now => contradiction
  | feedAt input => contradiction
  | start => cases answer <;> rfl
  | _ => rfl

theorem Polled.taken {session next : Session (WatchedEngine ε)} (polled : session.Polled next) :
    next.engine.taken = session.engine.taken := by
  induction polled with
  | once eased => rfl
  | again before eased ih => exact ih

/-- An engine takes frames that are fed, and nothing else. -/
theorem Step.taken {session next : Session (WatchedEngine ε)} {action : Action}
    {answer : Answer} (step : session.Step action answer next) (other : feeds action = false) :
    next.engine.taken = session.engine.taken := by
  cases step with
  | rejected error rejected => rfl
  | tended extended granted silent => rfl
  | @misconfigured source text error result engine state read loaded =>
      exact WatchedEngine.taken_exchange (.load text) loaded fun _ => rfl
  | @configured source text engine state read loaded found =>
      exact WatchedEngine.taken_exchange (.load text) loaded fun _ => rfl
  | bound configured capacity extended granted silent => rfl
  | @launched engine configured begun =>
      have same := (GraphEngine.connectFaults session.engine).taken_launch session.bindings
      rw [begun] at same
      exact same.trans (List.filterMap_append.trans (List.append_nil _))
  | @aborted status engine configured begun =>
      have same := (GraphEngine.connectFaults session.engine).taken_launch session.bindings
      rw [begun] at same
      exact (WatchedEngine.taken_reload session.graph).trans
        (same.trans (List.filterMap_append.trans (List.append_nil _)))
  | @withheld action input status engine checked given =>
      exact WatchedEngine.taken_exchange (.addPacket session.config.inputStream input) given
        fun _ => rfl
  | fed checked given granted records =>
      -- Every other action leaves no stamp behind.
      have stamped := records []
      rw [stampsAfter_of_not_feeds other] at stamped
      contradiction
  | @drained engine outlets running ended =>
      have same := session.engine.taken_endRun session.config.inputStream session.outlets
      rwa [ended] at same
  | dropped configured => rfl
  | polled polled granted silent => exact polled.taken

/-- The engine takes a frame that is fed if and only if the call succeeds. -/
theorem taken_feedAt (session : Session ε) (input : StampedFrame) :
    (session.watched.feedAt input).2.engine.taken =
      match (session.feedAt input).1 with
      | .ok () => [input]
      | .error _ => [] := by
  have same : session.watched.lifecycle = session.lifecycle := rfl
  simp only [feedAt, same]
  cases session.lifecycle.checkStamp input.timestamp with
  | error error => rfl
  | ok done =>
      cases given : GraphEngine.addPacket session.config.inputStream input session.engine with
      | mk answer engine =>
          let call : Call Binding := .addPacket session.config.inputStream input
          have asked : GraphEngine.addPacket session.watched.config.inputStream input
              session.watched.engine = (answer, ⟨engine, [.called call answer engine]⟩) := by
            change session.watched.engine.exchange call = _
            rw [WatchedEngine.exchange, GraphEngine.perform]
            exact congrArg (fun answered => (answered.1,
              (⟨answered.2, [.called call answered.1 answered.2]⟩ : WatchedEngine ε))) given
          simp only [asked]
          cases answer <;> rfl

theorem taken_of_not_feeds (session : Session ε) {action : Action}
    (other : feeds action = false) : session.taken action = [] :=
  (session.watched.perform_step action).taken other

end Session

end FrameFlow
